/-
**Every call follows the protocol.**

* The rules of the questions: `follows_save`, `follows_load`, `follows_emit`, and one for each adapter.
* One lemma for each method of the controller, from the state of the call in which it is entered to
  a state that holds a record of the same operation (`Ends`).
* **`handle_follows`** — the program of every request follows the protocol.
-/

import Audisor.Controller.Protocol

namespace Audisor.Controller

open Interaction Json

/-! ### Rules of the questions -/

variable {c : OperationController} {k k' : CallState} {α β : Type} {Q : CallState → β → Prop}

theorem follows_save {record : OperationRecord} {rest : Unit → Ctl β} (saves : Saves c k record k')
    (further : Follows (protocol c) k' (rest ()) Q) :
    Follows (protocol c) k (save record >>= rest) Q :=
  fun _ => ⟨k', .save saves, further⟩

theorem follows_emit_of {κ : Type} {P : Protocol controllerSignature κ} {k : κ} {Q : κ → β → Prop}
    (appends : ∀ operationId state eventType payload,
      P.Move k (ControllerOp.append operationId state eventType payload) () k)
    {record : OperationRecord} {eventType : String} {payload : Dict} {rest : Unit → Ctl β}
    (further : Follows P k (rest ()) Q) :
    Follows P k (emit c record eventType payload >>= rest) Q := by
  unfold emit
  split
  · exact further
  · rw [bind_assoc]
    refine fun _ => ⟨k, appends _ _ _ _, ?_⟩
    split
    · exact fun _ => ⟨k, appends _ _ _ _, further⟩
    · exact further

/-- **Events do not concern the protocol.** -/
theorem follows_emit {record : OperationRecord} {eventType : String} {payload : Dict}
    {rest : Unit → Ctl β} (further : Follows (protocol c) k (rest ()) Q) :
    Follows (protocol c) k (emit c record eventType payload >>= rest) Q :=
  follows_emit_of (Moves.append k) further

theorem follows_load {operationId : String} {rest : Option OperationRecord → Ctl β}
    (missing : Follows (protocol c) .idle (rest none) Q)
    (found : ∀ record, Follows (protocol c) (.holding record) (rest (some record)) Q) :
    Follows (protocol c) .idle (load operationId >>= rest) Q
  | none => ⟨.idle, .missing operationId, missing⟩
  | some record => ⟨.holding record, .loaded operationId record trivial, found record⟩

theorem follows_vanished (program : Ctl α) :
    Follows (protocol c) .vanished program fun k _ => k = .vanished := by
  induction program with
  | done value => rfl
  | raise error => trivial
  | ask op next ih => exact fun answer => ⟨.vanished, .anything op answer, ih answer⟩

theorem follows_reload {held : OperationRecord} {rest : Option OperationRecord → Ctl β}
    (holds : k.record? = some held) (rests : Rests k) (missing : Follows (protocol c) .vanished (rest none) Q)
    (found : ∀ record, Follows (protocol c) (.holding record) (rest (some record)) Q) :
    Follows (protocol c) k (load held.operationId >>= rest) Q
  | none => ⟨.vanished, .vanished holds rests, missing⟩
  | some record => ⟨.holding record, .loaded held.operationId record rests, found record⟩

theorem follows_tokenHex {bytes : Nat} {rest : String → Ctl β}
    (further : ∀ token, Follows (protocol c) k (rest token) Q) :
    Follows (protocol c) k (tokenHex bytes >>= rest) Q :=
  fun token => ⟨k, .token k bytes token, further token⟩

theorem follows_uuid {rest : String → Ctl β}
    (further : ∀ token, Follows (protocol c) k (rest token) Q) :
    Follows (protocol c) k (uuid4Hex >>= rest) Q :=
  fun token => ⟨k, .uuid k token, further token⟩

theorem follows_ofExcept {outcome : Except PyError α} {rest : α → Ctl β} (rests : Rests k)
    (further : ∀ value, outcome = .ok value → Follows (protocol c) k (rest value) Q) :
    Follows (protocol c) k (Program.ofExcept outcome >>= rest) Q := by
  cases outcome with
  | ok value => exact further value rfl
  | error error => exact rests

theorem follows_moveTo {record : OperationRecord} {target : OperationState} {reason : String}
    {rest : OperationRecord → Ctl β} (allowed : record.Allows target)
    (further : Follows (protocol c) k (rest (record.moved target reason)) Q) :
    Follows (protocol c) k (moveTo record target reason >>= rest) Q := by
  rw [moveTo, OperationRecord.transition_of_allows allowed]
  exact further

/-! #### Adapters -/

section Adapters

variable {record : OperationRecord} {rest : Dict → Ctl β}

theorem follows_createPlan {prompt : String} {context : Dict} (state : record.state = .planning)
    (further : ∀ result, Follows (protocol c) (.planned record result) (rest result) Q) :
    Follows (protocol c) (.holding record) (createPlan prompt context >>= rest) Q
  | .ok result => ⟨_, .createPlan prompt context (.ok result) state, further result⟩
  | .error error => ⟨_, .createPlan prompt context (.error error) state, trivial⟩

theorem follows_resumePlan {resumeInput : Dict} (state : record.state = .planning)
    (further : ∀ result, Follows (protocol c) (.planned record result) (rest result) Q) :
    Follows (protocol c) (.holding record) (resumePlan record resumeInput >>= rest) Q
  | .ok result => ⟨_, .resumePlan resumeInput (.ok result) state, further result⟩
  | .error error => ⟨_, .resumePlan resumeInput (.error error) state, trivial⟩

theorem follows_review {plan : Json} {providerOverride : Option String}
    (state : record.state = .reviewing)
    (further : ∀ result, Follows (protocol c) (.reviewed record plan result) (rest result) Q) :
    Follows (protocol c) (.holding record)
      (review plan record.operationId providerOverride >>= rest) Q
  | .ok result => ⟨_, .review plan providerOverride (.ok result) state, further result⟩
  | .error error => ⟨_, .review plan providerOverride (.error error) state, trivial⟩

theorem follows_fulfil {findings plan : Json} {context : Dict} (state : record.state = .fulfilling)
    (further : ∀ result, Follows (protocol c) (.fulfilled record) (rest result) Q) :
    Follows (protocol c) (.holding record) (fulfil findings plan context >>= rest) Q
  | .ok result => ⟨_, .fulfil findings plan context (.ok result) state, further result⟩
  | .error error => ⟨_, .fulfil findings plan context (.error error) state, trivial⟩

theorem follows_execute {reviewedPlan plan : Json} {reviewResult context : Dict}
    (state : record.state = .sandboxRunning) (stored : record.artifacts.storedPlan = .ok plan)
    (further : ∀ result, Follows (protocol c) (.executed record result) (rest result) Q) :
    Follows (protocol c) (.started record reviewedPlan reviewResult)
      (execute record.operationId plan context >>= rest) Q
  | .ok result => ⟨_, .execute plan context (.ok result) state stored, further result⟩
  | .error error => ⟨_, .execute plan context (.error error) state stored, trivial⟩

theorem follows_resumeExecution {resumeInput : Dict} (state : record.state = .sandboxRunning)
    (further : ∀ result, Follows (protocol c) (.executed record result) (rest result) Q) :
    Follows (protocol c) (.holding record) (resumeExecution record resumeInput >>= rest) Q
  | .ok result => ⟨_, .resumeExecution resumeInput (.ok result) state, further result⟩
  | .error error => ⟨_, .resumeExecution resumeInput (.error error) state, trivial⟩

end Adapters

/-! ### The states in which a method ends -/

/-- The call may end here, and holds a record of the operation. -/
def Ends (operationId : String) (k : CallState) : Prop :=
  Rests k ∧ ∃ record, k.record? = some record ∧ record.operationId = operationId

theorem ends_holding (record : OperationRecord) : Ends record.operationId (.holding record) :=
  ⟨trivial, record, rfl, rfl⟩

theorem Returned.rests {record : OperationRecord} {result : Dict} {phase : String}
    (returned : Returned k record result phase) : Rests k := by
  cases returned with
  | planning state suspended => exact suspended
  | execution state => trivial

theorem withContinuation_allows {record : OperationRecord} {target : OperationState} {result : Dict}
    (allowed : record.Allows target) : (record.withContinuation result).Allows target := by
  unfold OperationRecord.Allows
  rw [withContinuation_state]
  exact allowed

/-! ### Adapter results -/

theorem handleApprovalSuspension_follows {record : OperationRecord} {result : Dict} {phase : String}
    (suspensionId : Json) (returned : Returned k record result phase) (suspends : Suspends result)
    (kind : suspendState result = .str "suspended_for_approval") :
    Follows (protocol c) k (handleApprovalSuspension c record result phase suspensionId)
      fun k' _ => Ends record.operationId k' := by
  unfold handleApprovalSuspension
  refine follows_ofExcept returned.rests fun toolCall _ => ?_
  refine follows_moveTo (withContinuation_allows returned.allows.1) ?_
  refine follows_save (.approvalSuspension toolCall suspensionId returned suspends kind)
    (follows_emit ?_)
  exact ⟨trivial, _, rfl, by simp⟩

theorem handleToolResultSuspension_follows {record : OperationRecord} {result : Dict}
    {phase : String} (suspensionId : Json) (returned : Returned k record result phase)
    (suspends : Suspends result) (kind : suspendState result = .str "suspended_for_tool_result") :
    Follows (protocol c) k (handleToolResultSuspension c record result phase suspensionId)
      fun k' _ => Ends record.operationId k' := by
  unfold handleToolResultSuspension
  refine follows_moveTo (withContinuation_allows returned.allows.2) ?_
  refine follows_save (.toolResultSuspension suspensionId returned suspends kind)
    (follows_emit ?_)
  exact ⟨trivial, _, rfl, by simp⟩

theorem handleOtherSuspension_follows {record : OperationRecord} {result : Dict} {phase : String}
    (returned : Returned k record result phase) (suspends : Suspends result)
    (kind : suspendState result ≠ .str "suspended_for_approval" ∧
      suspendState result ≠ .str "suspended_for_tool_result") :
    Follows (protocol c) k (handleOtherSuspension record result phase)
      fun k' _ => Ends record.operationId k' := by
  unfold handleOtherSuspension
  exact follows_save (.otherSuspension returned suspends kind) ⟨trivial, _, rfl, by simp⟩

/-- A planning result reaches `handleAdapterResult` only as a suspension. -/
theorem Returned.status {record : OperationRecord} {result : Dict} {phase : String}
    (returned : Returned k record result phase) :
    getD result "status" (.str "") = .str "suspended" ∨ k = .executed record result := by
  cases returned with
  | planning state suspended =>
    refine Or.inl ?_
    unfold IsSuspended at suspended
    unfold getD at suspended ⊢
    cases found : get? result "status" with
    | none => rw [found] at suspended; cases suspended
    | some status => rw [found] at suspended; exact suspended
  | execution state => exact Or.inr rfl

theorem handleAdapterResult_follows {record : OperationRecord} {result : Dict} {phase : String}
    (returned : Returned k record result phase) :
    Follows (protocol c) k (handleAdapterResult c record result phase)
      fun k' _ => Ends record.operationId k' := by
  unfold handleAdapterResult
  by_cases suspended : getD result "status" (.str "") = .str "suspended"
  · simp only [suspended, if_true, if_false, Json.str.injEq, String.reduceEq]
    split
    · rename_i kind
      exact handleApprovalSuspension_follows _ returned suspended kind
    · rename_i noApproval
      split
      · rename_i kind
        exact handleToolResultSuspension_follows _ returned suspended kind
      · rename_i noToolResult
        exact handleOtherSuspension_follows returned suspended ⟨noApproval, noToolResult⟩
  · cases returned with
    | planning state member =>
      exact absurd (Returned.planning state member).status (by simp [suspended])
    | execution state =>
      simp only [suspended, if_false]
      split
      · exact follows_moveTo (OperationRecord.allows_of_state state (by decide))
          (follows_save (.completed state) (follows_emit (ends_holding _)))
      · split
        · exact follows_moveTo (OperationRecord.allows_of_state state (by decide))
            (follows_save (.failed state) (follows_emit (ends_holding _)))
        · exact ⟨trivial, record, rfl, rfl⟩

/-! ### Execution, fulfilment and review -/

theorem doExecution_follows {record : OperationRecord} {plan : Json} {result context : Dict}
    (state : record.state = .sandboxReady) :
    Follows (protocol c) (.cleared record plan result) (doExecution c record context)
      fun k' _ => Ends record.operationId k' := by
  unfold doExecution
  split
  · exact ⟨trivial, record, rfl, rfl⟩
  · refine follows_ofExcept trivial fun stored readBack => ?_
    refine follows_moveTo (OperationRecord.allows_of_state state (by decide)) ?_
    refine follows_save (.executionStarted state) (follows_execute rfl readBack fun result => ?_)
    exact handleAdapterResult_follows (.execution rfl)

theorem doFulfilment_follows {record : OperationRecord}
    {again : OperationRecord → Json → Dict → Ctl OperationControllerResult}
    {findings plan : Json} {context : Dict} (state : record.state = .fulfilling)
    (reviewed : ∀ next plan context, next.state = .reviewing →
      Follows (protocol c) (.holding next) (again next plan context)
        fun k' _ => Ends next.operationId k') :
    Follows (protocol c) (.holding record) (doFulfilment c again record findings plan context)
      fun k' _ => Ends record.operationId k' := by
  unfold doFulfilment
  split
  · exact follows_ofExcept trivial fun _ _ => ends_holding record
  · refine follows_fulfil state fun result => ?_
    split
    · refine follows_moveTo (OperationRecord.allows_of_state state (by decide)) ?_
      refine follows_save (.fulfilmentDone .reviewing _ state (by decide)) ?_
      exact reviewed (record.moved .reviewing "fulfilment_complete") _ _ rfl
    · refine follows_ofExcept trivial fun items _ => follows_ofExcept trivial fun decision _ => ?_
      cases decision with
      | true =>
        refine follows_moveTo (OperationRecord.allows_of_state state (by decide)) ?_
        refine follows_save (.fulfilmentDone .awaitingDecision _ state (by decide)) ?_
        exact follows_ofExcept trivial fun _ _ => ends_holding _
      | false =>
        refine follows_moveTo (OperationRecord.allows_of_state state (by decide)) ?_
        refine follows_save (.fulfilmentDone .collectingEvidence _ state (by decide)) ?_
        exact follows_ofExcept trivial fun _ _ => ends_holding _

theorem reviewClean_follows {record : OperationRecord} {plan : Json} {result context : Dict}
    (state : record.state = .reviewing) (decision : decisionOf result = .str "no_material_gap") :
    Follows (protocol c) (.reviewed record plan result) (reviewClean c record result context)
      fun k' _ => Ends record.operationId k' := by
  have reviewing : (record.withImprovedPlan result).state = .reviewing := by simpa using state
  unfold reviewClean
  refine follows_moveTo (OperationRecord.allows_of_state reviewing (by decide)) ?_
  refine follows_save (.reviewClean state decision) (follows_emit ?_)
  rw [← withImprovedPlan_operationId record result]
  split
  · exact doExecution_follows rfl
  · exact ⟨trivial, _, rfl, rfl⟩

theorem reviewProviderError_follows {record : OperationRecord} {plan : Json} {result : Dict}
    (state : record.state = .reviewing) :
    Follows (protocol c) (.reviewed record plan result) (reviewProviderError c record result)
      fun k' _ => Ends record.operationId k' := by
  unfold reviewProviderError
  refine follows_moveTo (OperationRecord.allows_of_state state (by decide)) ?_
  exact follows_save (.providerError state) (follows_emit ⟨trivial, _, rfl, by simp⟩)

theorem reviewSuspended_follows {record : OperationRecord} {plan decision : Json} {result : Dict}
    (state : record.state = .reviewing) (decided : decision = decisionOf result) :
    Follows (protocol c) (.reviewed record plan result) (reviewSuspended record result decision)
      fun k' _ => Ends record.operationId k' := by
  unfold reviewSuspended
  refine follows_moveTo (OperationRecord.allows_of_state state (by decide)) ?_
  exact follows_save (.evidence _ decision state decided) ⟨trivial, _, rfl, rfl⟩

theorem doReview_follows (depth : Nat) :
    ∀ {record : OperationRecord} {plan : Json} {context : Dict} {providerOverride : Option String},
      record.state = .reviewing →
      Follows (protocol c) (.holding record) (doReview c depth record plan context providerOverride)
        fun k' _ => Ends record.operationId k' := by
  induction depth with
  | zero => exact fun _ => trivial
  | succ depth ih =>
    intro record plan context providerOverride state
    unfold doReview
    split
    · exact ends_holding record
    · refine follows_review state fun result => ?_
      dsimp only
      split
      · rename_i decision
        exact reviewClean_follows state decision
      · split
        · refine follows_moveTo (OperationRecord.allows_of_state state (by decide)) ?_
          refine follows_save (.materialGap state) ?_
          exact doFulfilment_follows rfl fun next plan context reviewing => ih reviewing
        · split
          · exact reviewProviderError_follows state
          · exact reviewSuspended_follows state rfl

/-! ### Planning -/

/-- **A planning result that is no suspension is stored as a plan**, and goes to review. -/
theorem advancePlan_follows {record : OperationRecord} {result : Dict} {reason : String}
    {rest : OperationRecord → Ctl β} (state : record.state = .planning)
    (complete : ¬ IsSuspended result)
    (further : ∀ next, next.state = .reviewing → next.operationId = record.operationId →
      Follows (protocol c) (.holding next) (rest next) Q) :
    Follows (protocol c) (.planned record result)
      (advancePlan record (planOf result) reason >>= rest) Q := by
  unfold advancePlan
  simp only [bind_assoc]
  refine follows_moveTo (OperationRecord.allows_of_state state (by decide)) ?_
  refine follows_save (.planReady reason state complete) ?_
  have ready : ((record.moved .planReady reason).withPlan (planOf result)).Allows .reviewing :=
    OperationRecord.allows_of_state (show _ = OperationState.planReady from rfl) (by decide)
  refine follows_moveTo ready ?_
  exact follows_save (.autoReview rfl) (further _ rfl rfl)

theorem doPlanning_follows {record : OperationRecord} {prompt : String} {context : Dict}
    (state : record.state = .planning) :
    Follows (protocol c) (.holding record) (doPlanning c record prompt context)
      fun k' _ => Rests k' := by
  unfold doPlanning
  split
  · trivial
  · refine follows_createPlan state fun result => ?_
    split
    · rename_i suspended
      exact (handleAdapterResult_follows (.planning state suspended)).mono fun _ _ ends => ends.1
    · rename_i complete
      refine advancePlan_follows state complete fun next reviewing _ => ?_
      exact (doReview_follows _ reviewing).mono fun _ _ ends => ends.1

theorem resumePlanning_follows {record : OperationRecord} {resumeInput : Dict}
    {reviewed : OperationRecord → Json → Ctl OperationControllerResult}
    (state : record.state = .planning)
    (further : ∀ next plan, next.state = .reviewing →
      Follows (protocol c) (.holding next) (reviewed next plan) fun k' _ => Rests k') :
    Follows (protocol c) (.holding record) (resumePlanning c record resumeInput reviewed)
      fun k' _ => Rests k' := by
  unfold resumePlanning
  refine follows_resumePlan state fun result => ?_
  split
  · rename_i suspended
    exact (handleAdapterResult_follows (.planning state suspended)).mono fun _ _ ends => ends.1
  · rename_i complete
    exact advancePlan_follows state complete fun next reviewing _ => further next _ reviewing

/-! ### Resuming -/

theorem denyApproval_follows {record : OperationRecord} {callId : Json}
    (state : record.state ∈ suspendedStates) :
    Follows (protocol c) (.holding record) (denyApproval c record callId) fun k' _ => Rests k' := by
  unfold denyApproval
  rcases record.transition_cases .cancelledByUser "approval_denied" with
    ⟨_, done⟩ | ⟨_, message, failed⟩
  · simp only [done]
    exact follows_save (.approvalDenied state) (follows_emit trivial)
  · simp only [failed]
    trivial

theorem state_of_allows_suspendedForToolResult {record : OperationRecord}
    (suspended : record.state ∈ suspendedStates) (allowed : record.Allows .suspendedForToolResult) :
    record.state = .suspendedForApproval := by
  obtain ⟨_, target⟩ := allowed
  cases state : record.state <;> simp [state, suspendedStates, transitions] at suspended target ⊢

theorem grantApproval_follows {record : OperationRecord} {callId : Json}
    (state : record.state ∈ suspendedStates)
    (undecided : record.slices.approvalDecided.getD false = false) :
    Follows (protocol c) (.holding record) (grantApproval c record callId)
      fun k' _ => Rests k' := by
  unfold grantApproval
  refine follows_emit (follows_ofExcept trivial fun continuation _ => follows_tokenHex fun token => ?_)
  rcases (record.approved continuation token (approvedCall (record.slices.approvalToolCall.getD [])
    callId)).transition_cases .suspendedForToolResult "approval_granted" with
    ⟨allowed, done⟩ | ⟨_, message, failed⟩
  · simp only [done]
    have approval : record.state = .suspendedForApproval :=
      state_of_allows_suspendedForToolResult state allowed
    exact follows_save (.approvalGranted continuation token _ approval undecided)
      (follows_emit trivial)
  · simp only [failed]
    trivial

theorem handleApprovalDecision_follows {record : OperationRecord} {resumeInput : Dict}
    (state : record.state ∈ suspendedStates) :
    Follows (protocol c) (.holding record) (handleApprovalDecision c record resumeInput)
      fun k' _ => Rests k' := by
  unfold handleApprovalDecision
  dsimp only
  split
  · trivial
  · split
    · split <;> trivial
    · rename_i undecided
      split
      · trivial
      · split
        · exact denyApproval_follows state
        · exact grantApproval_follows state (Bool.eq_false_iff.mpr undecided)

theorem resumeRunning_follows {record : OperationRecord} {resumeInput : Dict}
    (state : record.state = .sandboxRunning) :
    Follows (protocol c) (.holding record) (resumeRunning c record resumeInput)
      fun k' _ => Rests k' :=
  follows_resumeExecution state fun _ =>
    (handleAdapterResult_follows (.execution state)).mono fun _ _ ends => ends.1

theorem handleToolResult_follows {record : OperationRecord} {resumeInput : Dict}
    (state : record.state ∈ suspendedStates) :
    Follows (protocol c) (.holding record) (handleToolResult c record resumeInput)
      fun k' _ => Rests k' := by
  unfold handleToolResult
  refine follows_ofExcept trivial fun refused outcome => ?_
  cases refused with
  | some detail => trivial
  | none =>
    rcases record.transition_cases (resumeTarget record) "tool_result_submitted" with
      ⟨_, done⟩ | ⟨_, message, failed⟩
    · simp only [done]
      refine follows_save (.toolResults _ state outcome) ?_
      split
      · rename_i planning
        exact resumePlanning_follows planning.1 fun next plan reviewing =>
          (doReview_follows _ reviewing).mono fun _ _ ends => ends.1
      · split
        · rename_i running
          exact resumeRunning_follows running.1
        · trivial
    · simp only [failed]
      trivial

theorem resumeUntyped_follows {record : OperationRecord} {resumeInput : Dict}
    (state : record.state ∈ suspendedStates) :
    Follows (protocol c) (.holding record) (resumeUntyped c record resumeInput)
      fun k' _ => Rests k' := by
  unfold resumeUntyped
  rcases record.transition_cases (resumeTarget record) "resumed with input" with
    ⟨_, done⟩ | ⟨_, message, failed⟩
  · simp only [done]
    refine follows_save (.resumed state) ?_
    split
    · rename_i planning
      exact resumePlanning_follows planning.1 fun _ _ _ => trivial
    · split
      · rename_i running
        exact resumeRunning_follows running.1
      · trivial
  · simp only [failed]
    trivial

theorem resumeRecord_follows {record : OperationRecord} {resumeInput : Dict}
    (state : record.state ∈ suspendedStates) :
    Follows (protocol c) (.holding record) (resumeRecord c record resumeInput)
      fun k' _ => Rests k' := by
  unfold resumeRecord
  split
  · exact handleApprovalDecision_follows state
  · split
    · exact handleToolResult_follows state
    · exact resumeUntyped_follows state

theorem resume_follows (operationId : String) (resumeInput : Option Dict) :
    Follows (protocol c) .idle (resume c operationId resumeInput) fun k' _ => Rests k' := by
  refine follows_load trivial fun record => ?_
  dsimp only
  split
  · trivial
  · rename_i suspended
    exact resumeRecord_follows (not_not.mp suspended)

/-! ### Registering and starting -/

theorem register_follows (sourceKind prompt : String) (operationId : Option String) :
    Follows (protocol c) .fresh (register c sourceKind prompt operationId) fun k' result =>
      (k' = .fresh ∧ (getD result.detail "error" .null).truthy = true) ∨
        ∃ record, k' = .holding record ∧ record.operationId = result.operationId := by
  unfold register
  split
  · exact Or.inl ⟨rfl, rfl⟩
  · have named : ∀ id, Follows (protocol c) .fresh
        (do
          save (registeredRecord id sourceKind prompt)
          emit c (registeredRecord id sourceKind prompt) "operation_created"
            [("source_kind", .str sourceKind)]
          return (⟨id, .received, [("registered", .bool true)]⟩ : OperationControllerResult))
        fun k' result => (k' = .fresh ∧ (getD result.detail "error" .null).truthy = true) ∨
          ∃ record, k' = .holding record ∧ record.operationId = result.operationId :=
      fun id => follows_save (.registered id sourceKind prompt)
        (follows_emit (Or.inr ⟨_, rfl, rfl⟩))
    unfold operationIdOr
    split
    · exact follows_uuid fun token => named _
    · exact follows_uuid fun token => named _
    · exact named _

theorem doChat_follows {record : OperationRecord} {context : Dict}
    (state : record.state = .received) :
    Follows (protocol c) (.holding record) (doChat c record context) fun k' _ => Rests k' := by
  unfold doChat
  split
  · trivial
  · -- a received operation may not move to the sandbox: the transition raises
    rcases record.transition_cases .sandboxRunning "chat_turn_started" with
      ⟨allowed, _⟩ | ⟨_, message, failed⟩
    · exact absurd allowed.2 (by rw [state]; decide)
    · rw [moveTo, failed]
      trivial

theorem startRecord_follows {record : OperationRecord} {plan : Option Dict} {context : Dict}
    (state : record.state = .received) :
    Follows (protocol c) (.holding record) (startRecord c record plan context)
      fun k' _ => Rests k' := by
  unfold startRecord
  split
  · rename_i kind
    refine follows_moveTo (OperationRecord.allows_of_state state (by decide)) ?_
    refine follows_save (.preparedPlan _ state kind) ?_
    exact (doReview_follows _ rfl).mono fun _ _ ends => ends.1
  · rename_i kind
    refine follows_moveTo (OperationRecord.allows_of_state state (by decide)) ?_
    exact follows_save (.taskAccepted state kind) (follows_emit (doPlanning_follows rfl))
  · rename_i kind
    refine follows_moveTo (OperationRecord.allows_of_state state (by decide)) ?_
    refine follows_save (.fixAccepted state kind) ?_
    split
    · exact (doReview_follows _ rfl).mono fun _ _ ends => ends.1
    · trivial
  · exact doChat_follows state
  · trivial

theorem start_follows {k : CallState} (operationId : String) (plan context : Option Dict)
    (entered : k = .idle ∨ ∃ record, k = .holding record ∧ record.operationId = operationId) :
    Follows (protocol c) k (start c operationId plan context) fun k' _ => Rests k' := by
  have found : ∀ record : OperationRecord, Follows (protocol c) (.holding record)
      (if record.state ≠ .received then
        (return ⟨operationId, record.state,
          errorDetail ("operation already started (state=" ++ record.state.value ++ ")")⟩ : Ctl _)
      else startRecord c record plan (context.getD [])) fun k' _ => Rests k' := by
    intro record
    split
    · trivial
    · rename_i received
      exact startRecord_follows (not_not.mp received)
  rcases entered with rfl | ⟨record, rfl, rfl⟩
  · exact follows_load trivial found
  · exact follows_reload rfl trivial trivial found

theorem accept_follows (sourceKind prompt : String) (plan : Option Dict)
    (operationId : Option String) (context : Option Dict) :
    Follows (protocol c) .fresh (accept c sourceKind prompt plan operationId context)
      fun k' _ => Rests k' := by
  refine Follows.bind ((register_follows sourceKind prompt operationId).mono ?_)
  rintro k' result (⟨rfl, failed⟩ | ⟨record, rfl, same⟩)
  · rw [if_pos failed]
    trivial
  · split
    · trivial
    · exact start_follows _ _ _ (Or.inr ⟨record, rfl, same⟩)

/-! ### Cancelling, claiming and retrying -/

theorem cancel_follows (operationId reason : String) :
    Follows (protocol c) .idle (cancel operationId reason) fun k' _ => Rests k' := by
  refine follows_load trivial fun record => ?_
  dsimp only
  split
  · trivial
  · rcases record.transition_cases .cancelledByUser reason with ⟨allowed, done⟩ | ⟨_, message, failed⟩
    · simp only [done]
      exact follows_save (.cancelled reason allowed) trivial
    · simp only [failed]
      trivial

theorem claimRecord_follows {record : OperationRecord}
    (claimantId suspensionId callId argumentDigest : String)
    (state : record.state = .suspendedForToolResult) :
    Follows (protocol c) (.holding record)
      (claimRecord c record claimantId suspensionId callId argumentDigest)
      fun k' _ => Rests k' := by
  unfold claimRecord
  split
  · trivial
  · rename_i suspension
    refine follows_ofExcept trivial fun calls pending => follows_ofExcept trivial fun call found => ?_
    cases call with
    | none => trivial
    | some call =>
      dsimp only
      split
      · trivial
      · split
        · split <;> trivial
        · rename_i unclaimed
          refine follows_save (.claimed ⟨claimantId, callId, suspensionId, argumentDigest⟩ calls call
            state unclaimed ?_ pending found) (follows_emit trivial)
          simpa using suspension

theorem claimToolExecution_follows
    (operationId claimantId suspensionId callId argumentDigest : String) :
    Follows (protocol c) .idle
      (claimToolExecution c operationId claimantId suspensionId callId argumentDigest)
      fun k' _ => Rests k' := by
  refine follows_load trivial fun record => ?_
  dsimp only
  split
  · trivial
  · rename_i waiting
    exact claimRecord_follows _ _ _ _ (not_not.mp waiting)

theorem retryRecord_follows {record : OperationRecord} (operationVersion : Int)
    (idempotencyKey provider : String) (state : record.state = .suspendedProviderRecovery) :
    Follows (protocol c) (.holding record)
      (retryRecord c record operationVersion idempotencyKey provider) fun k' _ => Rests k' := by
  unfold retryRecord
  dsimp only
  split
  · trivial
  · split
    · trivial
    · trivial
    · refine follows_ofExcept trivial fun plan _ => ?_
      refine follows_moveTo (OperationRecord.allows_of_state state (by decide)) ?_
      refine follows_save (.retryStarted _ state) (Follows.bind ((doReview_follows _ rfl).mono ?_))
      rintro k' result ⟨rests, held, holds, same⟩
      rw [← same]
      refine follows_reload holds rests ((follows_vanished _).mono ?_) fun latest => ?_
      · rintro k' _ rfl
        trivial
      · exact follows_save (.retryRecorded _ _ _) trivial

theorem retryAflow_follows (operationId : String) (operationVersion : Int)
    (idempotencyKey provider : String) :
    Follows (protocol c) .idle (retryAflow c operationId operationVersion idempotencyKey provider)
      fun k' _ => Rests k' := by
  refine follows_load trivial fun record => ?_
  dsimp only
  split
  · exact follows_ofExcept trivial fun _ _ => trivial
  · split
    · trivial
    · rename_i recovering
      exact retryRecord_follows _ _ _ (not_not.mp recovering)

/-! ### Every request -/

def Request.entry : Request → CallState
  | .register _ _ _ | .accept _ _ _ _ _ => .fresh
  | _ => .idle

/-- **Every call follows the protocol.** -/
theorem handle_follows (c : OperationController) (request : Request) :
    Follows (protocol c) request.entry (c.handle request) fun k' _ => Rests k' := by
  cases request with
  | register sourceKind prompt operationId =>
    refine (register_follows sourceKind prompt operationId).mono ?_
    rintro k' result (⟨rfl, _⟩ | ⟨record, rfl, _⟩) <;> trivial
  | accept sourceKind prompt plan operationId context =>
    exact accept_follows sourceKind prompt plan operationId context
  | start operationId plan context => exact start_follows operationId plan context (Or.inl rfl)
  | resume operationId resumeInput => exact resume_follows operationId resumeInput
  | cancel operationId reason => exact cancel_follows operationId reason
  | claimToolExecution operationId claimantId suspensionId callId argumentDigest =>
    exact claimToolExecution_follows operationId claimantId suspensionId callId argumentDigest
  | retryAflow operationId operationVersion idempotencyKey provider =>
    exact retryAflow_follows operationId operationVersion idempotencyKey provider

end Audisor.Controller
