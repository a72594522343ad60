/-
**What a call announces.**

A second machine for the same programs: it follows the saves and the lifecycle events of one call.

* `announcedReasons` — the transitions that a handler announces: the event with the new state comes
  right after the save. `Announced` — the saved record's last transition is one of them; a cancellation
  announces nothing, whatever its reason.
* `announcing` — the protocol: a call that has saved an announced transition owes the event
  (`AnnounceState.owing`), and may not end before it.
* **`handle_announces`** — every call follows the protocol, where an event store is attached.
-/

import Audisor.Controller.Runs

namespace Audisor.Controller

open Interaction Json

/-! ### Announced transitions -/

def announcedReasons : List String :=
  ["task_accepted", "approval_required", "frontend_tool_execution", "approval_granted",
    "approval_denied", "review_clean", "aflow_provider_error", "adapter_completed", "adapter_failed",
    "chat_turn_started", "chat_turn_completed"]

/-- Whether a call announces the last transition of a record that it saves. -/
def Announced (cancels : Bool) (next : OperationRecord) : Prop :=
  ∀ entry ∈ next.history.getLast?, cancels = false ∧ entry.reason ∈ announcedReasons

instance (cancels : Bool) (next : OperationRecord) : Decidable (Announced cancels next) :=
  inferInstanceAs (Decidable (∀ entry ∈ next.history.getLast?, _ ∧ _))

theorem not_announced_of_take {start : String} (count : Nat) (short : count ≤ start.length)
    (differs : ∀ reason ∈ announcedReasons, reason.toList.take count ≠ start.toList.take count)
    (text : String) : start ++ text ∉ announcedReasons := by
  intro member
  refine differs _ member ?_
  rw [String.toList_append, List.take_append_of_le_length]
  rwa [String.length_toList]

/-- What the second record adds to the first: one transition. -/
structure Extends (record next : OperationRecord) (reason : String) : Prop where
  operationId : next.operationId = record.operationId
  history : next.history = record.history ++ [⟨record.state, next.state, reason⟩]

/-- The second record is the first, but for its slices, its artifacts and its suspension. -/
structure SameStage (record next : OperationRecord) : Prop where
  operationId : next.operationId = record.operationId
  state : next.state = record.state
  history : next.history = record.history

/-- How far a call has come with its announcements. -/
inductive AnnounceState where
  /-- The call has loaded nothing. -/
  | idle
  /-- The call holds the record, and owes no event. -/
  | quiet (record : OperationRecord)
  /-- The call has saved the record, and owes the event. -/
  | owing (record : OperationRecord)
  /-- A record the call had held was not there when it was loaded again. -/
  | vanished

def AnnounceState.Settled : AnnounceState → Prop
  | owing _ => False
  | _ => True

def ControllerOp.Outward : ControllerOp → Prop
  | load _ | save _ | append _ _ _ _ => False
  | _ => True

/-- One answered question of a call, as far as announcements are concerned. -/
inductive AnnounceMove (cancels : Bool) :
    AnnounceState → (op : ControllerOp) → op.Answer → AnnounceState → Prop
  | registered (operationId sourceKind prompt : String) :
      AnnounceMove cancels .idle (.save (registeredRecord operationId sourceKind prompt)) ()
        (.quiet (registeredRecord operationId sourceKind prompt))
  | same {record next : OperationRecord} (stage : SameStage record next) :
      AnnounceMove cancels (.quiet record) (.save next) () (.quiet next)
  | silent {record next : OperationRecord} {reason : String} (extends_ : Extends record next reason)
      (quiet : ¬ Announced cancels next) :
      AnnounceMove cancels (.quiet record) (.save next) () (.quiet next)
  | loud {record next : OperationRecord} {reason : String} (extends_ : Extends record next reason) :
      AnnounceMove cancels (.quiet record) (.save next) () (.owing next)
  | announced (record : OperationRecord) (eventType : String) (payload : Dict) :
      AnnounceMove cancels (.owing record)
        (.append record.operationId record.state eventType payload) () (.quiet record)
  | repeated (record : OperationRecord) (eventType : String) (payload : Dict) :
      AnnounceMove cancels (.quiet record)
        (.append record.operationId record.state eventType payload) () (.quiet record)
  | loaded {k : AnnounceState} (operationId : String) (record : OperationRecord) (settled : k.Settled) :
      AnnounceMove cancels k (.load operationId) (some record) (.quiet record)
  | missing (operationId : String) : AnnounceMove cancels .idle (.load operationId) none .idle
  | gone (record : OperationRecord) :
      AnnounceMove cancels (.quiet record) (.load record.operationId) none .vanished
  | anything (op : ControllerOp) (answer : op.Answer) :
      AnnounceMove cancels .vanished op answer .vanished
  | asked {k : AnnounceState} {op : ControllerOp} (answer : op.Answer) (outward : op.Outward) :
      AnnounceMove cancels k op answer k

def announcing (cancels : Bool) : Protocol controllerSignature AnnounceState :=
  ⟨AnnounceMove cancels, AnnounceState.Settled⟩

/-! ### Rules of the questions -/

section Rules

variable {c : OperationController} {cancels : Bool} {k : AnnounceState} {β : Type}
  {Q : AnnounceState → β → Prop} {record next : OperationRecord} {reason : String}

/-! #### Saves and events -/

theorem announces_same {rest : Unit → Ctl β} (stage : SameStage record next)
    (further : Follows (announcing cancels) (.quiet next) (rest ()) Q) :
    Follows (announcing cancels) (.quiet record) (save next >>= rest) Q :=
  fun _ => ⟨.quiet next, .same stage, further⟩

theorem announces_emit {rest : Unit → Ctl β} {eventType : String} {payload : Dict}
    (further : Follows (announcing cancels) (.quiet record) (rest ()) Q) :
    Follows (announcing cancels) (.quiet record) (emit c record eventType payload >>= rest) Q := by
  unfold emit
  split
  · exact further
  · rw [bind_assoc]
    refine fun _ => ⟨_, .repeated record eventType payload, ?_⟩
    split
    · exact fun _ => ⟨_, .repeated record _ _, further⟩
    · exact further

/-- **An announced transition**: the save, and the event right after it. -/
theorem announces_loud (attached : c.hasEvents = true) {rest : Unit → Ctl β} {eventType : String}
    {payload : Dict} (extends_ : Extends record next reason)
    (further : Follows (announcing cancels) (.quiet next) (rest ()) Q) :
    Follows (announcing cancels) (.quiet record)
      (save next >>= fun _ => emit c next eventType payload >>= rest) Q := by
  refine fun _ => ⟨.owing next, .loud extends_, ?_⟩
  show Follows _ _ (emit c next eventType payload >>= rest) Q
  unfold emit
  rw [attached, if_neg (by decide), bind_assoc]
  refine fun _ => ⟨_, .announced next eventType payload, ?_⟩
  split
  · exact fun _ => ⟨_, .repeated next _ _, further⟩
  · exact further

/-- **A silent transition**: the save, and no event. -/
theorem announces_silent {rest : Unit → Ctl β} (extends_ : Extends record next reason)
    (silent : cancels = true ∨ reason ∉ announcedReasons)
    (further : Follows (announcing cancels) (.quiet next) (rest ()) Q) :
    Follows (announcing cancels) (.quiet record) (save next >>= rest) Q := by
  refine fun _ => ⟨.quiet next, .silent extends_ fun announced => ?_, further⟩
  have last := announced ⟨record.state, next.state, reason⟩ (by rw [extends_.history]; simp)
  rcases silent with cancelled | unlisted
  · rw [cancelled] at last
    exact absurd last.1 (by decide)
  · exact unlisted last.2

theorem announces_asked {op : ControllerOp} {rest : op.Answer → Ctl β} (outward : op.Outward)
    (further : ∀ answer, Follows (announcing cancels) k (rest answer) Q) :
    Follows (announcing cancels) k (.ask op rest) Q :=
  fun answer => ⟨k, .asked answer outward, further answer⟩

theorem announces_answer {α : Type} {answer : Except PyError α} {rest : α → Ctl β}
    (settled : k.Settled) (further : ∀ value, Follows (announcing cancels) k (rest value) Q) :
    Follows (announcing cancels) k (Program.ofExcept answer >>= rest) Q := by
  cases answer with
  | ok value => exact further value
  | error error => exact settled

theorem announces_load {operationId : String} {rest : Option OperationRecord → Ctl β}
    (missing : Follows (announcing cancels) .idle (rest none) Q)
    (found : ∀ record, Follows (announcing cancels) (.quiet record) (rest (some record)) Q) :
    Follows (announcing cancels) .idle (load operationId >>= rest) Q
  | none => ⟨.idle, .missing operationId, missing⟩
  | some record => ⟨.quiet record, .loaded operationId record trivial, found record⟩

theorem announces_reload {rest : Option OperationRecord → Ctl β}
    (missing : Follows (announcing cancels) .vanished (rest none) Q)
    (found : ∀ latest, Follows (announcing cancels) (.quiet latest) (rest (some latest)) Q) :
    Follows (announcing cancels) (.quiet record) (load record.operationId >>= rest) Q
  | none => ⟨.vanished, .gone record, missing⟩
  | some latest => ⟨.quiet latest, .loaded record.operationId latest trivial, found latest⟩

theorem announces_vanished {α : Type} (program : Ctl α) :
    Follows (announcing cancels) .vanished program fun k _ => k = .vanished := by
  induction program with
  | done value => rfl
  | raise error => trivial
  | ask op next ih => exact fun answer => ⟨.vanished, .anything op answer, ih answer⟩

/-- A transition outside a `try`: an invalid one ends the call. -/
theorem announces_moveTo {target : OperationState} {rest : OperationRecord → Ctl β}
    (settled : k.Settled)
    (further : Follows (announcing cancels) k (rest (record.moved target reason)) Q) :
    Follows (announcing cancels) k (moveTo record target reason >>= rest) Q := by
  unfold moveTo
  rcases record.transition_cases target reason with ⟨_, moved⟩ | ⟨_, message, failed⟩
  · rw [moved]
    exact further
  · rw [failed]
    exact settled

/-- A transition inside a `try`: an invalid one is answered. -/
theorem announces_transition {target : OperationState} {onError : String → Ctl β}
    {onMoved : OperationRecord → Ctl β}
    (failed : ∀ message, Follows (announcing cancels) k (onError message) Q)
    (moved : Follows (announcing cancels) k (onMoved (record.moved target reason)) Q) :
    Follows (announcing cancels) k
      (match record.transition target reason with
        | .error message => onError message
        | .ok record => onMoved record) Q := by
  rcases record.transition_cases target reason with ⟨_, valid⟩ | ⟨_, message, invalid⟩
  · rw [valid]
    exact moved
  · rw [invalid]
    exact failed message

end Rules

/-! #### Records -/

section Records

variable (record : OperationRecord) (target : OperationState) (reason : String)

theorem extends_moved : Extends record (record.moved target reason) reason := ⟨rfl, rfl⟩

variable {record} {next : OperationRecord}

theorem SameStage.extends_ {base : OperationRecord} (stage : SameStage record base)
    (next_ : SameStage (base.moved target reason) next) : Extends record next reason := by
  refine ⟨next_.operationId.trans stage.operationId, ?_⟩
  rw [next_.history, next_.state, OperationRecord.moved_history, stage.history, stage.state]
  rfl

theorem sameStage_refl (record : OperationRecord) : SameStage record record := ⟨rfl, rfl, rfl⟩

end Records

theorem sameStage_withImprovedPlan (result : Dict) :
    SameStage record (record.withImprovedPlan result) :=
  ⟨withImprovedPlan_operationId record result, withImprovedPlan_state record result,
    withImprovedPlan_history record result⟩

/-! ### The methods -/

/-- The call holds a record of the operation, and owes no event. -/
def Settles (operationId : String) (k : AnnounceState) : Prop :=
  ∃ record, k = .quiet record ∧ record.operationId = operationId

theorem settles_quiet (record : OperationRecord) : Settles record.operationId (.quiet record) :=
  ⟨record, rfl, rfl⟩

section Methods

variable {c : OperationController} {record : OperationRecord} {result context : Dict}

/-! #### Adapter results -/

theorem approvalSuspended_extends (toolCall : Dict) (phase : String) (suspensionId : Json) :
    Extends record (approvalSuspended c record result toolCall phase suspensionId)
      "approval_required" :=
  ⟨by simp, by simp⟩

theorem toolResultSuspended_extends (phase : String) (suspensionId : Json) :
    Extends record (toolResultSuspended record result phase suspensionId)
      "frontend_tool_execution" :=
  ⟨by simp, by simp⟩

theorem handleApprovalSuspension_announces (attached : c.hasEvents = true) (phase : String)
    (suspensionId : Json) :
    Follows (announcing false) (.quiet record)
      (handleApprovalSuspension c record result phase suspensionId)
      fun k _ => Settles record.operationId k := by
  unfold handleApprovalSuspension
  refine announces_answer trivial fun toolCall => announces_moveTo trivial ?_
  have stage : Extends record (approvalSuspended c record result toolCall phase suspensionId) _ :=
    approvalSuspended_extends toolCall phase suspensionId
  exact announces_loud attached stage ⟨_, rfl, stage.operationId⟩

theorem handleToolResultSuspension_announces (attached : c.hasEvents = true) (phase : String)
    (suspensionId : Json) :
    Follows (announcing false) (.quiet record)
      (handleToolResultSuspension c record result phase suspensionId)
      fun k _ => Settles record.operationId k := by
  unfold handleToolResultSuspension
  refine announces_moveTo trivial ?_
  have stage : Extends record (toolResultSuspended record result phase suspensionId) _ :=
    toolResultSuspended_extends phase suspensionId
  exact announces_loud attached stage ⟨_, rfl, stage.operationId⟩

theorem handleOtherSuspension_announces (phase : String) :
    Follows (announcing false) (.quiet record) (handleOtherSuspension record result phase)
      fun k _ => Settles record.operationId k := by
  have stage : SameStage record (otherSuspended record result phase) := ⟨by simp, by simp, by simp⟩
  exact announces_same stage ⟨_, rfl, stage.operationId⟩

theorem handleAdapterResult_announces (attached : c.hasEvents = true) (phase : String) :
    Follows (announcing false) (.quiet record) (handleAdapterResult c record result phase)
      fun k _ => Settles record.operationId k := by
  unfold handleAdapterResult
  dsimp only
  split
  · refine announces_moveTo trivial (announces_loud attached (extends_moved _ _ _) ?_)
    exact settles_quiet _
  · split
    · refine announces_moveTo trivial (announces_loud attached (extends_moved _ _ _) ?_)
      exact settles_quiet _
    · split
      · split
        · exact handleApprovalSuspension_announces attached phase _
        · split
          · exact handleToolResultSuspension_announces attached phase _
          · exact handleOtherSuspension_announces phase
      · exact settles_quiet record

/-! #### Execution, fulfilment and review -/

theorem doExecution_announces (attached : c.hasEvents = true) :
    Follows (announcing false) (.quiet record) (doExecution c record context)
      fun k _ => Settles record.operationId k := by
  unfold doExecution
  split
  · exact settles_quiet record
  · refine announces_answer trivial fun plan => announces_moveTo trivial ?_
    refine announces_silent (extends_moved record _ _) (Or.inr (by decide)) ?_
    refine announces_asked trivial fun answer => announces_answer trivial fun result => ?_
    exact handleAdapterResult_announces attached "execution"

theorem doFulfilment_announces
    {again : OperationRecord → Json → Dict → Ctl OperationControllerResult} {findings plan : Json}
    (reviewed : ∀ next plan context, Follows (announcing false) (.quiet next) (again next plan context)
      fun k _ => Settles next.operationId k) :
    Follows (announcing false) (.quiet record) (doFulfilment c again record findings plan context)
      fun k _ => Settles record.operationId k := by
  unfold doFulfilment
  split
  · exact announces_answer trivial fun _ => settles_quiet record
  · refine announces_asked trivial fun answer => announces_answer trivial fun result => ?_
    split
    · refine announces_moveTo trivial ?_
      refine announces_silent (extends_moved record _ _) (Or.inr (by decide)) ?_
      exact reviewed (record.moved .reviewing "fulfilment_complete") _ _
    · refine announces_answer trivial fun items => announces_answer trivial fun decision => ?_
      cases decision with
      | true =>
        refine announces_moveTo trivial ?_
        refine announces_silent (extends_moved record _ _) (Or.inr (by decide)) ?_
        exact announces_answer trivial fun _ => settles_quiet _
      | false =>
        refine announces_moveTo trivial ?_
        refine announces_silent (extends_moved record _ _) (Or.inr (by decide)) ?_
        exact announces_answer trivial fun _ => settles_quiet _

theorem reviewClean_announces (attached : c.hasEvents = true) :
    Follows (announcing false) (.quiet record) (reviewClean c record result context)
      fun k _ => Settles record.operationId k := by
  unfold reviewClean
  refine announces_moveTo trivial ?_
  have stage : Extends record ((record.withImprovedPlan result).moved .sandboxReady "review_clean") _ :=
    (sameStage_withImprovedPlan result).extends_ _ _ (sameStage_refl _)
  refine announces_loud attached stage ?_
  rw [← stage.operationId]
  split
  · exact doExecution_announces attached
  · exact settles_quiet _

theorem reviewProviderError_announces (attached : c.hasEvents = true) :
    Follows (announcing false) (.quiet record) (reviewProviderError c record result)
      fun k _ => Settles record.operationId k := by
  have stage : Extends record (providerErrorSuspended record result) "aflow_provider_error" :=
    ⟨by simp, by simp⟩
  unfold reviewProviderError
  refine announces_moveTo trivial ?_
  exact announces_loud attached stage ⟨_, rfl, stage.operationId⟩

theorem reviewSuspended_announces (decision : Json) :
    Follows (announcing false) (.quiet record) (reviewSuspended record result decision)
      fun k _ => Settles record.operationId k := by
  unfold reviewSuspended
  refine announces_moveTo trivial ?_
  refine announces_silent ⟨rfl, rfl⟩ (Or.inr ?_) ⟨_, rfl, rfl⟩
  exact not_announced_of_take 8 (by decide) (by decide) _

/-- **A review announces its transitions**, however often fulfilment sends it back. -/
theorem doReview_announces (attached : c.hasEvents = true) (depth : Nat) (record : OperationRecord)
    (plan : Json) (context : Dict) (providerOverride : Option String) :
    Follows (announcing false) (.quiet record) (doReview c depth record plan context providerOverride)
      fun k _ => Settles record.operationId k := by
  induction depth generalizing record plan context providerOverride with
  | zero => trivial
  | succ depth ih =>
    unfold doReview
    split
    · exact settles_quiet record
    · refine announces_asked trivial fun answer => announces_answer trivial fun result => ?_
      dsimp only
      split
      · exact reviewClean_announces attached
      · split
        · refine announces_moveTo trivial ?_
          refine announces_silent (extends_moved record _ _) (Or.inr (by decide)) ?_
          exact doFulfilment_announces fun next plan context => ih next plan context none
        · split
          · exact reviewProviderError_announces attached
          · exact reviewSuspended_announces _

/-! #### Planning and chat -/

theorem advancePlan_announces {β : Type} {Q : AnnounceState → β → Prop} {plan : Json}
    {reason : String} {rest : OperationRecord → Ctl β} (silent : reason ∉ announcedReasons)
    (further : ∀ next, next.operationId = record.operationId →
      Follows (announcing false) (.quiet next) (rest next) Q) :
    Follows (announcing false) (.quiet record) (advancePlan record plan reason >>= rest) Q := by
  unfold advancePlan
  simp only [bind_assoc]
  refine announces_moveTo trivial ?_
  refine announces_silent ((sameStage_refl record).extends_ .planReady reason ⟨rfl, rfl, rfl⟩)
    (Or.inr silent) (announces_moveTo trivial ?_)
  refine announces_silent (extends_moved _ _ _) (Or.inr (by decide)) ?_
  exact further _ rfl

theorem doPlanning_announces (attached : c.hasEvents = true) (prompt : String) :
    Follows (announcing false) (.quiet record) (doPlanning c record prompt context)
      fun k _ => Settles record.operationId k := by
  unfold doPlanning
  split
  · exact settles_quiet record
  · refine announces_asked trivial fun answer => announces_answer trivial fun result => ?_
    split
    · exact handleAdapterResult_announces attached "planning"
    · refine advancePlan_announces (by decide) fun next same => ?_
      rw [← same]
      exact doReview_announces attached _ next _ _ _

theorem doChat_announces (attached : c.hasEvents = true) :
    Follows (announcing false) (.quiet record) (doChat c record context)
      fun k _ => Settles record.operationId k := by
  unfold doChat
  split
  · exact settles_quiet record
  · refine announces_moveTo trivial (announces_loud attached (extends_moved _ _ _) ?_)
    refine announces_asked trivial fun answer => announces_answer trivial fun result => ?_
    dsimp only
    split
    · refine announces_moveTo trivial ?_
      exact announces_silent (extends_moved _ _ _) (Or.inr (by decide)) (settles_quiet _)
    · refine announces_moveTo trivial ?_
      exact announces_loud attached (extends_moved _ _ _) (settles_quiet _)

/-! #### Resumptions -/

theorem denyApproval_announces (attached : c.hasEvents = true) (callId : Json) :
    Follows (announcing false) (.quiet record) (denyApproval c record callId)
      fun k _ => k.Settled := by
  unfold denyApproval
  refine announces_transition (fun _ => trivial) ?_
  exact announces_loud attached
    ((sameStage_refl record).extends_ .cancelledByUser "approval_denied" ⟨rfl, rfl, rfl⟩) trivial

theorem grantApproval_announces (attached : c.hasEvents = true) (callId : Json) :
    Follows (announcing false) (.quiet record) (grantApproval c record callId)
      fun k _ => k.Settled := by
  unfold grantApproval
  refine announces_emit (announces_answer trivial fun continuation => ?_)
  refine announces_asked trivial fun token => announces_transition (fun _ => trivial) ?_
  have stage : SameStage record (record.approved continuation token
      (approvedCall (record.slices.approvalToolCall.getD []) callId)) := ⟨rfl, rfl, rfl⟩
  exact announces_loud attached (stage.extends_ _ _ (sameStage_refl _)) trivial

theorem handleApprovalDecision_announces (attached : c.hasEvents = true) (resumeInput : Dict) :
    Follows (announcing false) (.quiet record) (handleApprovalDecision c record resumeInput)
      fun k _ => k.Settled := by
  unfold handleApprovalDecision
  dsimp only
  split
  · trivial
  · split
    · split <;> trivial
    · split
      · trivial
      · split
        · exact denyApproval_announces attached _
        · exact grantApproval_announces attached _

theorem Settles.settled {operationId : String} {k : AnnounceState} (settles : Settles operationId k) :
    k.Settled := by
  obtain ⟨record, rfl, _⟩ := settles
  trivial

theorem resumePlanning_announces (attached : c.hasEvents = true) {resumeInput : Dict}
    {reviewed : OperationRecord → Json → Ctl OperationControllerResult}
    (reviews : ∀ next plan, Follows (announcing false) (.quiet next) (reviewed next plan)
      fun k _ => k.Settled) :
    Follows (announcing false) (.quiet record) (resumePlanning c record resumeInput reviewed)
      fun k _ => k.Settled := by
  unfold resumePlanning
  refine announces_asked trivial fun answer => announces_answer trivial fun result => ?_
  split
  · exact (handleAdapterResult_announces attached "planning").mono fun _ _ => Settles.settled
  · exact advancePlan_announces (by decide) fun next _ => reviews next _

theorem resumeRunning_announces (attached : c.hasEvents = true) (resumeInput : Dict) :
    Follows (announcing false) (.quiet record) (resumeRunning c record resumeInput)
      fun k _ => k.Settled := by
  unfold resumeRunning
  refine announces_asked trivial fun answer => announces_answer trivial fun result => ?_
  exact (handleAdapterResult_announces attached "execution").mono fun _ _ => Settles.settled

theorem sameStage_consumed (toolResults : Json) : SameStage record (record.consumed toolResults) :=
  ⟨consumed_operationId record toolResults, consumed_state record toolResults,
    consumed_history record toolResults⟩

theorem handleToolResult_announces (attached : c.hasEvents = true) (resumeInput : Dict) :
    Follows (announcing false) (.quiet record) (handleToolResult c record resumeInput)
      fun k _ => k.Settled := by
  unfold handleToolResult
  refine announces_answer trivial fun detail => ?_
  cases detail with
  | some detail => trivial
  | none =>
    refine announces_transition (fun _ => trivial) ?_
    refine announces_silent ((sameStage_refl record).extends_ _ _ (sameStage_consumed _))
      (Or.inr (by decide)) ?_
    split
    · refine resumePlanning_announces attached fun next plan => ?_
      exact (doReview_announces attached _ next _ _ _).mono fun _ _ => Settles.settled
    · split
      · exact resumeRunning_announces attached _
      · trivial

theorem resumeUntyped_announces (attached : c.hasEvents = true) (resumeInput : Dict) :
    Follows (announcing false) (.quiet record) (resumeUntyped c record resumeInput)
      fun k _ => k.Settled := by
  unfold resumeUntyped
  refine announces_transition (fun _ => trivial) ?_
  refine announces_silent (extends_moved _ _ _) (Or.inr (by decide)) ?_
  split
  · exact resumePlanning_announces attached fun _ _ => trivial
  · split
    · exact resumeRunning_announces attached _
    · trivial

theorem resume_announces (attached : c.hasEvents = true) (operationId : String)
    (resumeInput : Option Dict) :
    Follows (announcing false) .idle (resume c operationId resumeInput) fun k _ => k.Settled := by
  refine announces_load trivial fun record => ?_
  dsimp only
  split
  · trivial
  · unfold resumeRecord
    split
    · exact handleApprovalDecision_announces attached _
    · split
      · exact handleToolResult_announces attached _
      · exact resumeUntyped_announces attached _

/-! #### The other entry points -/

theorem register_announces (sourceKind prompt : String) (operationId : Option String) :
    Follows (announcing false) .idle (register c sourceKind prompt operationId) fun k result =>
      (k = .idle ∧ (getD result.detail "error" .null).truthy = true) ∨
        Settles result.operationId k := by
  unfold register
  split
  · exact Or.inl ⟨rfl, rfl⟩
  · have named : ∀ id, Follows (announcing false) .idle
        (do
          save (registeredRecord id sourceKind prompt)
          emit c (registeredRecord id sourceKind prompt) "operation_created"
            [("source_kind", .str sourceKind)]
          return (⟨id, .received, [("registered", .bool true)]⟩ : OperationControllerResult))
        fun k result => (k = .idle ∧ (getD result.detail "error" .null).truthy = true) ∨
          Settles result.operationId k :=
      fun id _ => ⟨_, .registered id sourceKind prompt,
        announces_emit (Or.inr (settles_quiet (registeredRecord id sourceKind prompt)))⟩
    unfold operationIdOr
    split
    · exact announces_asked trivial fun token => named _
    · exact announces_asked trivial fun token => named _
    · exact named _

theorem startRecord_announces (attached : c.hasEvents = true) (plan : Option Dict) :
    Follows (announcing false) (.quiet record) (startRecord c record plan context)
      fun k _ => k.Settled := by
  unfold startRecord
  split
  · refine announces_moveTo trivial ?_
    refine announces_silent ((sameStage_refl record).extends_ .reviewing "prepared_plan_submitted"
      ⟨rfl, rfl, rfl⟩) (Or.inr (by decide)) ?_
    exact (doReview_announces attached _ _ _ _ _).mono fun _ _ => Settles.settled
  · refine announces_moveTo trivial (announces_loud attached (extends_moved _ _ _) ?_)
    exact (doPlanning_announces attached _).mono fun _ _ => Settles.settled
  · refine announces_moveTo trivial ?_
    refine announces_silent (extends_moved _ _ _) (Or.inr (by decide)) ?_
    split
    · exact (doReview_announces attached _ _ _ _ _).mono fun _ _ => Settles.settled
    · trivial
  · exact (doChat_announces attached).mono fun _ _ => Settles.settled
  · trivial

theorem start_announces (attached : c.hasEvents = true) {k : AnnounceState} (operationId : String)
    (plan context : Option Dict) (entered : k = .idle ∨ Settles operationId k) :
    Follows (announcing false) k (start c operationId plan context) fun k' _ => k'.Settled := by
  have found : ∀ record : OperationRecord, Follows (announcing false) (.quiet record)
      (if record.state ≠ .received then
        (return ⟨operationId, record.state,
          errorDetail ("operation already started (state=" ++ record.state.value ++ ")")⟩ : Ctl _)
      else startRecord c record plan (context.getD [])) fun k' _ => k'.Settled := by
    intro record
    split
    · trivial
    · exact startRecord_announces attached plan
  rcases entered with rfl | ⟨record, rfl, rfl⟩
  · exact announces_load trivial found
  · exact announces_reload trivial found

theorem accept_announces (attached : c.hasEvents = true) (sourceKind prompt : String)
    (plan : Option Dict) (operationId : Option String) (context : Option Dict) :
    Follows (announcing false) .idle (accept c sourceKind prompt plan operationId context)
      fun k _ => k.Settled := by
  unfold accept
  refine Follows.bind ((register_announces sourceKind prompt operationId).mono ?_)
  rintro k registered (⟨rfl, failed⟩ | settles)
  · rw [if_pos failed]
    trivial
  · split
    · exact settles.settled
    · exact start_announces attached _ _ _ (Or.inr settles)

/-- **A cancellation announces nothing.** -/
theorem cancel_announces (operationId reason : String) :
    Follows (announcing true) .idle (cancel operationId reason) fun k _ => k.Settled := by
  refine announces_load trivial fun record => ?_
  dsimp only
  split
  · trivial
  · refine announces_transition (fun _ => trivial) ?_
    exact announces_silent (extends_moved _ _ _) (Or.inl rfl) trivial

theorem claimRecord_announces (claimantId suspensionId callId argumentDigest : String) :
    Follows (announcing false) (.quiet record)
      (claimRecord c record claimantId suspensionId callId argumentDigest) fun k _ => k.Settled := by
  unfold claimRecord
  split
  · trivial
  · refine announces_answer trivial fun calls => announces_answer trivial fun call => ?_
    cases call with
    | none => trivial
    | some call =>
      dsimp only
      split
      · trivial
      · split
        · split <;> trivial
        · exact announces_same ⟨rfl, rfl, rfl⟩ (announces_emit trivial)

theorem claimToolExecution_announces
    (operationId claimantId suspensionId callId argumentDigest : String) :
    Follows (announcing false) .idle
      (claimToolExecution c operationId claimantId suspensionId callId argumentDigest)
      fun k _ => k.Settled := by
  refine announces_load trivial fun record => ?_
  dsimp only
  split
  · trivial
  · exact claimRecord_announces _ _ _ _

theorem retryRecord_announces (attached : c.hasEvents = true) (operationVersion : Int)
    (idempotencyKey provider : String) :
    Follows (announcing false) (.quiet record)
      (retryRecord c record operationVersion idempotencyKey provider) fun k _ => k.Settled := by
  unfold retryRecord
  dsimp only
  split
  · trivial
  · split
    · trivial
    · trivial
    · refine announces_answer trivial fun plan => announces_moveTo trivial ?_
      refine announces_silent (extends_moved _ _ _)
        (Or.inr (not_announced_of_take 7 (by decide) (by decide) _)) ?_
      refine Follows.bind ((doReview_announces attached _ _ _ _ _).mono ?_)
      rintro k retried ⟨held, rfl, same⟩
      rw [← same]
      refine announces_reload ((announces_vanished _).mono ?_) fun latest => ?_
      · rintro k _ rfl
        trivial
      · exact announces_same ⟨rfl, rfl, rfl⟩ trivial

theorem retryAflow_announces (attached : c.hasEvents = true) (operationId : String)
    (operationVersion : Int) (idempotencyKey provider : String) :
    Follows (announcing false) .idle
      (retryAflow c operationId operationVersion idempotencyKey provider) fun k _ => k.Settled := by
  refine announces_load trivial fun record => ?_
  dsimp only
  split
  · exact announces_answer trivial fun _ => trivial
  · split
    · trivial
    · exact retryRecord_announces attached _ _ _

def Request.cancels : Request → Bool
  | .cancel _ _ => true
  | _ => false

/-- **Every call announces its transitions**, the silent ones apart. -/
theorem handle_announces (attached : c.hasEvents = true) (request : Request) :
    Follows (announcing request.cancels) .idle (c.handle request) fun k _ => k.Settled := by
  cases request with
  | register sourceKind prompt operationId =>
    refine (register_announces sourceKind prompt operationId).mono ?_
    rintro k result (⟨rfl, _⟩ | settles)
    · trivial
    · exact settles.settled
  | accept sourceKind prompt plan operationId context =>
    exact accept_announces attached sourceKind prompt plan operationId context
  | start operationId plan context =>
    exact start_announces attached operationId plan context (Or.inl rfl)
  | resume operationId resumeInput => exact resume_announces attached operationId resumeInput
  | cancel operationId reason => exact cancel_announces operationId reason
  | claimToolExecution operationId claimantId suspensionId callId argumentDigest =>
    exact claimToolExecution_announces operationId claimantId suspensionId callId argumentDigest
  | retryAflow operationId operationVersion idempotencyKey provider =>
    exact retryAflow_announces attached operationId operationVersion idempotencyKey provider

end Methods

end Audisor.Controller
