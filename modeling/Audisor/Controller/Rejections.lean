/-
**What a rejection leaves behind.**

* `eventLog` — the events of a journal; `Unchanged` — the stored records and the events are what they
  were. `RejectedUnasked` — a call returned an error, and asked no adapter.
* `RejectsCleanly` — every such call leaves everything unchanged.
* `MisplacedApproval` — an approving decision that passes every check, for a record that is suspended
  for something else.
* **`rejectsCleanly_iff`** — a call on a registered operation rejects cleanly exactly when it is not a
  misplaced approval in a controller with an event store: that one announces its approval before the
  transition that refuses it.
-/

import Audisor.Controller.ApprovalDecision
import Audisor.Controller.ExecutionClaims

namespace Audisor.Controller

open Interaction Json

variable {c : OperationController} {log log' base : Log} {record : OperationRecord}
  {operationId : String}

/-! ### Rejections -/

def ControllerOp.Announces : ControllerOp → Prop
  | append _ _ _ _ => True
  | _ => False

instance : DecidablePred ControllerOp.Announces
  | .append _ _ _ _ => .isTrue trivial
  | .load _ | .save _ | .createPlan _ _ | .resumePlan _ _ | .review _ _ _ | .fulfil _ _ _
  | .execute _ _ _ | .resumeExecution _ _ | .chatTurn _ _ _ | .tokenHex _ | .uuid4Hex => .isFalse id

def ControllerOp.InvokesAdapter : ControllerOp → Prop
  | createPlan _ _ | resumePlan _ _ | review _ _ _ | fulfil _ _ _ | execute _ _ _
  | resumeExecution _ _ | chatTurn _ _ _ => True
  | _ => False

def eventLog (log : Log) : List ControllerOp := (log.map Event.op).filter ControllerOp.Announces

/-- The stored records and the events are what they were. -/
structure Unchanged (log log' : Log) : Prop where
  records : ∀ operationId, stored log' operationId = stored log operationId
  events : eventLog log' = eventLog log

/-- The call returned an error, and asked no adapter. -/
structure RejectedUnasked (log log' : Log) (p : Ctl OperationControllerResult) : Prop where
  error : ∃ result, p = .done result ∧ hasKey result.detail "error" = true
  unasked : ∃ new, log' = new ++ log ∧ ∀ event ∈ new, ¬ event.op.InvokesAdapter

/-- A call that returns an error without asking an adapter changes nothing. -/
def RejectsCleanly (c : OperationController) (log : Log) (request : Request) : Prop :=
  Outcome world log (c.handle request) fun log' p => RejectedUnasked log log' p → Unchanged log log'

def Request.OnRegistered : Request → Prop
  | .register _ _ _ | .accept _ _ _ _ _ => False
  | _ => True

/-- An approving decision that passes every check, for a record suspended for something else. -/
structure MisplacedApproval (c : OperationController) (record : OperationRecord)
    (resumeInput : Dict) : Prop where
  approving : ApprovingDecision c record resumeInput
  undecided : record.slices.approvalDecided.getD false = false
  suspended : record.state ∈ suspendedStates
  elsewhere : record.state ≠ .suspendedForApproval
  continuation : ContinuationUsable record.artifacts

def Misplaces (c : OperationController) (log : Log) : Request → Prop
  | .resume operationId resumeInput => ∃ record, stored log operationId = some record ∧
    MisplacedApproval c record (resumeInput.getD [])
  | _ => False

/-! ### Ways to end cleanly -/

/-- What the end of a call has to satisfy, seen from where it began. -/
abbrev Clean (base : Log) (log' : Log) (p : Ctl OperationControllerResult) : Prop :=
  RejectedUnasked base log' p → Unchanged base log'

theorem Unchanged.refl (log : Log) : Unchanged log log := ⟨fun _ => rfl, rfl⟩

theorem Unchanged.load (unchanged : Unchanged base log) (answer : Option OperationRecord) :
    Unchanged base (⟨ControllerOp.load operationId, answer⟩ :: log) :=
  ⟨unchanged.records, unchanged.events⟩

theorem clean_of_unchanged (unchanged : Unchanged base log) (p : Ctl OperationControllerResult) :
    Clean base log p := fun _ => unchanged

theorem clean_of_no_error {result : OperationControllerResult}
    (fine : hasKey result.detail "error" = false) : Clean base log (.done result) := by
  intro rejected
  obtain ⟨_, done, error⟩ := rejected.error
  cases done
  rw [fine] at error
  cases error

theorem clean_of_raise (error : PyError) : Clean base log (.raise error) := by
  intro rejected
  obtain ⟨_, done, _⟩ := rejected.error
  cases done

/-- **Past a question to an adapter, no rejection is left to show.** -/
theorem outcome_asked {op : ControllerOp} {next : op.Answer → Ctl OperationControllerResult}
    (part : base <:+ log) (invokes : op.InvokesAdapter) :
    Outcome world log (.ask (S := controllerSignature) op next) (Clean base) := by
  refine outcome_ask fun answer _ log' p run _ rejected => ?_
  obtain ⟨earlier, rfl⟩ := part
  obtain ⟨later, grown⟩ := run.suffix
  obtain ⟨new, same, unasked⟩ := rejected.unasked
  have split : new = later ++ ⟨op, answer⟩ :: earlier := by
    have whole : new ++ base = later ++ ⟨op, answer⟩ :: earlier ++ base := by
      rw [← same, ← grown]
      simp [world, journal]
    exact List.append_cancel_right whole
  subst split
  exact absurd invokes (unasked ⟨op, answer⟩ (List.mem_append_right _ List.mem_cons_self))

theorem outcome_asked_bind {op : ControllerOp} {next : op.Answer → Ctl Dict}
    {rest : Dict → Ctl OperationControllerResult} (part : base <:+ log)
    (invokes : op.InvokesAdapter) :
    Outcome world log (.ask (S := controllerSignature) op next >>= rest) (Clean base) :=
  outcome_asked part invokes

/-- A transition outside a `try` goes on, or raises. -/
theorem outcome_moveTo {target : OperationState} {reason : String}
    {rest : OperationRecord → Ctl OperationControllerResult}
    (further : Outcome world log (rest (record.moved target reason)) (Clean base)) :
    Outcome world log (moveTo record target reason >>= rest) (Clean base) := by
  unfold moveTo
  rcases record.transition_cases target reason with ⟨_, done⟩ | ⟨_, message, failed⟩
  · rw [done]
    exact further
  · rw [failed]
    exact outcome_raise (clean_of_raise _)

theorem outcome_emit_suffix {β : Type} {Q : Log → Ctl β → Prop} {eventType : String}
    {payload : Dict} {rest : Unit → Ctl β}
    (further : ∀ log', log <:+ log' → Outcome world log' (rest ()) Q) :
    Outcome world log (emit c record eventType payload >>= rest) Q := by
  unfold emit
  split
  · exact further log (List.suffix_refl log)
  · rw [bind_assoc]
    refine outcome_ask fun _ _ => ?_
    split
    · exact outcome_ask fun _ _ => further _ (⟨[_, _], rfl⟩)
    · exact further _ (List.suffix_cons _ _)

/-! ### The phases -/

theorem doReview_clean (part : base <:+ log) (depth : Nat) (plan : Json) (context : Dict)
    (providerOverride : Option String) :
    Outcome world log (doReview c depth record plan context providerOverride) (Clean base) := by
  cases depth with
  | zero => exact outcome_raise (clean_of_raise _)
  | succ depth =>
    unfold doReview
    split
    · exact outcome_done (clean_of_no_error rfl)
    · exact outcome_asked_bind part trivial

theorem doPlanning_clean (part : base <:+ log) (prompt : String) (context : Dict) :
    Outcome world log (doPlanning c record prompt context) (Clean base) := by
  unfold doPlanning
  split
  · exact outcome_done (clean_of_no_error rfl)
  · exact outcome_asked_bind part trivial

theorem doChat_clean (part : base <:+ log) (context : Dict) :
    Outcome world log (doChat c record context) (Clean base) := by
  unfold doChat
  split
  · exact outcome_done (clean_of_no_error rfl)
  · refine outcome_moveTo (outcome_save (outcome_emit_suffix fun log' further => ?_))
    exact outcome_asked_bind ((part.trans (List.suffix_cons _ _)).trans further) trivial

theorem startRecord_clean (unchanged : Unchanged base log) (part : base <:+ log)
    (plan : Option Dict) (context : Dict) :
    Outcome world log (startRecord c record plan context) (Clean base) := by
  have grown : ∀ {event : Event controllerSignature}, base <:+ event :: log :=
    part.trans (List.suffix_cons _ _)
  unfold startRecord
  split
  · exact outcome_moveTo (outcome_save (doReview_clean grown _ _ _ _))
  · refine outcome_moveTo (outcome_save (outcome_emit_suffix fun log' further => ?_))
    exact doPlanning_clean (grown.trans further) _ _
  · refine outcome_moveTo (outcome_save ?_)
    split
    · exact doReview_clean grown _ _ _ _
    · exact outcome_done (clean_of_no_error rfl)
  · exact doChat_clean part _
  · exact outcome_done (clean_of_unchanged unchanged _)

/-! ### Resumptions -/

theorem resumePlanning_clean (part : base <:+ log) (resumeInput : Dict)
    (reviewed : OperationRecord → Json → Ctl OperationControllerResult) :
    Outcome world log (resumePlanning c record resumeInput reviewed) (Clean base) :=
  outcome_asked_bind part trivial

theorem resumeRunning_clean (part : base <:+ log) (resumeInput : Dict) :
    Outcome world log (resumeRunning c record resumeInput) (Clean base) :=
  outcome_asked_bind part trivial

theorem handleToolResult_clean (unchanged : Unchanged base log) (part : base <:+ log)
    (resumeInput : Dict) : Outcome world log (handleToolResult c record resumeInput) (Clean base) := by
  have grown : ∀ {event : Event controllerSignature}, base <:+ event :: log :=
    part.trans (List.suffix_cons _ _)
  unfold handleToolResult
  dsimp only
  cases refusedResults record.slices (getD resumeInput "tool_results" (.arr [])) with
  | error error => exact outcome_raise (clean_of_raise _)
  | ok refused =>
    rw [Program.ofExcept_ok, Program.done_bind]
    cases refused with
    | some detail => exact outcome_done (clean_of_unchanged unchanged _)
    | none =>
      dsimp only
      split
      · exact outcome_done (clean_of_unchanged unchanged _)
      · refine outcome_save ?_
        split
        · exact resumePlanning_clean grown _ _
        · split
          · exact resumeRunning_clean grown _
          · exact outcome_done (clean_of_no_error rfl)

theorem resumeUntyped_clean (unchanged : Unchanged base log) (part : base <:+ log)
    (resumeInput : Dict) : Outcome world log (resumeUntyped c record resumeInput) (Clean base) := by
  have grown : ∀ {event : Event controllerSignature}, base <:+ event :: log :=
    part.trans (List.suffix_cons _ _)
  unfold resumeUntyped
  split
  · exact outcome_done (clean_of_unchanged unchanged _)
  · refine outcome_save ?_
    split
    · exact resumePlanning_clean grown _ _
    · split
      · exact resumeRunning_clean grown _
      · exact outcome_done (clean_of_no_error rfl)

theorem denyApproval_clean (unchanged : Unchanged base log) (callId : Json) :
    Outcome world log (denyApproval c record callId) (Clean base) := by
  unfold denyApproval
  dsimp only
  split
  · exact outcome_done (clean_of_unchanged unchanged _)
  · exact outcome_save (outcome_emit_suffix fun _ _ => outcome_done (clean_of_no_error rfl))

theorem grantApproval_clean (waiting : record.state = .suspendedForApproval) (callId : Json) :
    Outcome world log (grantApproval c record callId) (Clean base) := by
  unfold grantApproval
  refine outcome_emit_suffix fun middle _ => ?_
  dsimp only
  cases approvedContinuation record.artifacts
      (approvedCall (record.slices.approvalToolCall.getD []) callId) with
  | error error => exact outcome_raise (clean_of_raise _)
  | ok continuation =>
    rw [Program.ofExcept_ok, Program.done_bind]
    refine outcome_tokenHex fun token => ?_
    have allowed : (record.approved continuation token
        (approvedCall (record.slices.approvalToolCall.getD []) callId)).Allows
          .suspendedForToolResult := OperationRecord.allows_of_state waiting (by decide)
    rw [OperationRecord.transition_of_allows allowed]
    exact outcome_save (outcome_emit_suffix fun _ _ => outcome_done (clean_of_no_error rfl))

theorem grantApproval_silent_clean (silent : c.hasEvents = false) (unchanged : Unchanged base log)
    (callId : Json) : Outcome world log (grantApproval c record callId) (Clean base) := by
  have quiet : ∀ (record : OperationRecord) (eventType : String) (payload : Dict),
      emit c record eventType payload = .done () := fun _ _ _ => by simp [emit, silent]
  unfold grantApproval
  simp only [quiet, Program.done_bind]
  cases approvedContinuation record.artifacts
      (approvedCall (record.slices.approvalToolCall.getD []) callId) with
  | error error => exact outcome_raise (clean_of_raise _)
  | ok continuation =>
    rw [Program.ofExcept_ok, Program.done_bind]
    refine outcome_tokenHex fun token => ?_
    split
    · refine outcome_done (clean_of_unchanged ?_ _)
      exact ⟨unchanged.records, unchanged.events⟩
    · exact outcome_save (outcome_done (clean_of_no_error rfl))

theorem handleApprovalDecision_clean (unchanged : Unchanged base log)
    (suspended : record.state ∈ suspendedStates) {resumeInput : Dict}
    (decision : resumeType resumeInput = .str "approval_decision")
    (placed : ¬ (c.hasEvents = true ∧ MisplacedApproval c record resumeInput)) :
    Outcome world log (handleApprovalDecision c record resumeInput) (Clean base) := by
  have stays : ∀ p, Outcome world log (.done p) (Clean base) :=
    fun p => outcome_done (clean_of_unchanged unchanged _)
  unfold handleApprovalDecision
  dsimp only
  split
  · exact stays _
  · rename_i suspension
    split
    · split <;> exact stays _
    · rename_i undecided
      split
      · exact stays _
      · rename_i digest
        split
        · exact denyApproval_clean unchanged _
        · rename_i approved
          have approving : ApprovingDecision c record resumeInput :=
            ⟨decision, by simpa using approved, by simpa using suspension, by simpa using digest⟩
          by_cases waiting : record.state = .suspendedForApproval
          · exact grantApproval_clean waiting _
          · by_cases usable : ContinuationUsable record.artifacts
            · have silent : ¬ c.hasEvents = true := fun attached =>
                placed ⟨attached, approving, by simpa using undecided, suspended, waiting, usable⟩
              exact grantApproval_silent_clean (by simpa using silent) unchanged _
            · refine (grantApproval_fails _ usable log).mono ?_
              rintro log' _ ⟨error, rfl⟩
              exact clean_of_raise error

theorem resumeRecord_clean (unchanged : Unchanged base log) (part : base <:+ log)
    (suspended : record.state ∈ suspendedStates) {resumeInput : Dict}
    (placed : ¬ (c.hasEvents = true ∧ MisplacedApproval c record resumeInput)) :
    Outcome world log (resumeRecord c record resumeInput) (Clean base) := by
  unfold resumeRecord
  split
  · rename_i decision
    exact handleApprovalDecision_clean unchanged suspended decision placed
  · split
    · exact handleToolResult_clean unchanged part resumeInput
    · exact resumeUntyped_clean unchanged part resumeInput

/-! ### Claims and retries -/

theorem claimRecord_clean (unchanged : Unchanged base log)
    (claimantId suspensionId callId argumentDigest : String) :
    Outcome world log (claimRecord c record claimantId suspensionId callId argumentDigest)
      (Clean base) := by
  have stays : ∀ p, Outcome world log (.done p) (Clean base) :=
    fun p => outcome_done (clean_of_unchanged unchanged _)
  unfold claimRecord
  split
  · exact stays _
  · cases iterate (record.slices.pendingCalls.getD (.arr [])) with
    | error error => exact outcome_raise (clean_of_raise _)
    | ok calls =>
      rw [Program.ofExcept_ok, Program.done_bind]
      cases matchingCall callId calls with
      | error error => exact outcome_raise (clean_of_raise _)
      | ok found =>
        rw [Program.ofExcept_ok, Program.done_bind]
        cases found with
        | none => exact stays _
        | some call =>
          dsimp only
          split
          · exact stays _
          · split
            · split <;> exact stays _
            · exact outcome_save (outcome_emit_suffix fun _ _ => outcome_done (clean_of_no_error rfl))

theorem retryRecord_clean (unchanged : Unchanged base log) (part : base <:+ log)
    (operationVersion : Int) (idempotencyKey provider : String) :
    Outcome world log (retryRecord c record operationVersion idempotencyKey provider)
      (Clean base) := by
  have stays : ∀ p, Outcome world log (.done p) (Clean base) :=
    fun p => outcome_done (clean_of_unchanged unchanged _)
  unfold retryRecord
  dsimp only
  split
  · exact stays _
  · split
    · exact stays _
    · exact stays _
    · rename_i rawPlan _ _
      cases loadsValue (.str rawPlan) with
      | error error => exact outcome_raise (clean_of_raise _)
      | ok plan =>
        rw [Program.ofExcept_ok, Program.done_bind]
        refine outcome_moveTo (outcome_save ?_)
        have grown := part.trans (List.suffix_cons ⟨ControllerOp.save (record.moved .reviewing
          ("aflow_retry:" ++ provider)), ()⟩ log)
        cases depth : c.recursionLimit with
        | zero => exact outcome_raise (clean_of_raise _)
        | succ depth =>
          unfold doReview
          split
          · exact outcome_load (outcome_save (outcome_done (clean_of_no_error rfl)))
          · exact outcome_asked grown trivial

/-! ### Calls on registered operations -/

/-- **A call that is not a misplaced approval rejects cleanly.** -/
theorem rejectsCleanly_of_placed {request : Request} (kind : request.OnRegistered)
    (placed : ¬ (c.hasEvents = true ∧ Misplaces c log request)) : RejectsCleanly c log request := by
  have part : ∀ {event : Event controllerSignature}, log <:+ event :: log := List.suffix_cons _ _
  have loaded : ∀ {operationId : String} {answer : Option OperationRecord},
      Unchanged log (⟨ControllerOp.load operationId, answer⟩ :: log) :=
    fun {_ answer} => (Unchanged.refl log).load answer
  have stays : ∀ {operationId answer} p,
      Outcome world (⟨ControllerOp.load operationId, answer⟩ :: log) (.done p) (Clean log) :=
    fun p => outcome_done (clean_of_unchanged loaded _)
  cases request with
  | register => exact kind.elim
  | accept => exact kind.elim
  | start operationId plan context =>
    refine outcome_load ?_
    cases stored log operationId with
    | none => exact stays _
    | some record =>
      dsimp only
      split
      · exact stays _
      · exact startRecord_clean loaded part plan _
  | resume operationId resumeInput =>
    refine outcome_load ?_
    cases found : stored log operationId with
    | none => exact stays _
    | some record =>
      dsimp only
      split
      · exact stays _
      · rename_i suspended
        refine resumeRecord_clean loaded part (not_not.mp suspended) fun misplaced => placed ?_
        exact ⟨misplaced.1, record, found, misplaced.2⟩
  | cancel operationId reason =>
    refine outcome_load ?_
    cases stored log operationId with
    | none => exact stays _
    | some record =>
      dsimp only
      split
      · exact stays _
      · split
        · exact stays _
        · exact outcome_save (outcome_done (clean_of_no_error rfl))
  | claimToolExecution operationId claimantId suspensionId callId argumentDigest =>
    refine outcome_load ?_
    cases stored log operationId with
    | none => exact stays _
    | some record =>
      dsimp only
      split
      · exact stays _
      · exact claimRecord_clean loaded claimantId suspensionId callId argumentDigest
  | retryAflow operationId operationVersion idempotencyKey provider =>
    refine outcome_load ?_
    cases stored log operationId with
    | none => exact stays _
    | some record =>
      dsimp only
      split
      · rename_i stored _
        cases loadsValue (.str stored) with
        | error error => exact outcome_raise (clean_of_raise _)
        | ok retry => exact stays _
      · split
        · exact stays _
        · exact retryRecord_clean loaded part operationVersion idempotencyKey provider

/-! ### A misplaced approval -/

/-- **A misplaced approval is announced, and then refused.** -/
theorem misplaced_announces {resumeInput : Option Dict} (attached : c.hasEvents = true)
    (found : stored log operationId = some record)
    (misplaced : MisplacedApproval c record (resumeInput.getD [])) :
    Outcome world log (c.handle (.resume operationId resumeInput)) fun log' p =>
      RejectedUnasked log log' p ∧ eventLog log' ≠ eventLog log := by
  obtain ⟨⟨decision, approved, suspension, digest⟩, undecided, suspended, elsewhere, usable⟩ :=
    misplaced
  obtain ⟨continuation, integrated⟩ := (approvedContinuation_eq_ok_iff record.artifacts
    (approvedCall (record.slices.approvalToolCall.getD [])
      (getD (resumeInput.getD []) "call_id" (.str "")))).mpr usable
  refine outcome_load ?_
  rw [found]
  dsimp only
  rw [if_neg (not_not.mpr suspended), resumeRecord, if_pos decision]
  unfold handleApprovalDecision
  simp only [suspension, undecided, digest, approved, Bool.not_true, Bool.false_eq_true, if_false]
  unfold grantApproval
  dsimp only
  unfold emit
  rw [attached]
  refine outcome_ask fun _ _ => outcome_ask fun _ _ => ?_
  rw [integrated, Program.ofExcept_ok, Program.done_bind]
  refine outcome_tokenHex fun token => ?_
  rcases (record.approved continuation token (approvedCall (record.slices.approvalToolCall.getD [])
      (getD (resumeInput.getD []) "call_id" (.str "")))).transition_cases .suspendedForToolResult
        "approval_granted" with ⟨allowed, _⟩ | ⟨_, message, failed⟩
  · exact absurd (state_of_allows_suspendedForToolResult suspended allowed) elsewhere
  · rw [failed]
    refine outcome_done ⟨⟨⟨_, rfl, rfl⟩, [_, _, _, _], rfl, ?_⟩, fun same => ?_⟩
    · simp [ControllerOp.InvokesAdapter]
    · have longer : (eventLog log).length + 2 = (eventLog log).length := congrArg List.length same
      omega

/-- **Rejections have no effect but for misplaced approvals**: for every log and every call of
`start`, `resume`, `cancel`, `claim_tool_execution` or `retry_aflow`, the call leaves the stored
records and the events as they were wherever it returns an error without asking an adapter, if and only
if it is not, in a controller with an event store, an approving decision that passes every check for an
undecided record that is suspended for something else than an approval, with a continuation that can
take the call. -/
theorem rejectsCleanly_iff {request : Request} (kind : request.OnRegistered) :
    RejectsCleanly c log request ↔ ¬ (c.hasEvents = true ∧ Misplaces c log request) := by
  refine ⟨?_, rejectsCleanly_of_placed kind⟩
  rintro clean ⟨attached, misplaces⟩
  cases request with
  | resume operationId resumeInput =>
    obtain ⟨record, found, misplaced⟩ := misplaces
    obtain ⟨log', p, unchanged, rejected, announced⟩ :=
      clean.exists_both world_total (misplaced_announces attached found misplaced)
    exact announced (unchanged rejected).events
  | _ => exact misplaces

/-! ### A decision for a task that waits for the frontend -/

theorem pendingTask_rejects_iff :
    RejectsCleanly .complete pendingTask (.cancel "op-1" "user_requested") ↔
      ¬ (OperationController.complete.hasEvents = true ∧
        Misplaces .complete pendingTask (.cancel "op-1" "user_requested")) :=
  rejectsCleanly_iff trivial

def misplacedInput : Dict := [("resume_type", .str "approval_decision"), ("approved", .bool true)]

theorem pendingTask_rejects_uncleanly :
    ¬ ∀ (c : OperationController) (log : Log) (request : Request), Reachable c log →
      request.OnRegistered → RejectsCleanly c log request := by
  intro every
  obtain ⟨record, found, waiting, continuation, undecided, suspension, digest⟩ : ∃ record,
      stored pendingTask "op-1" = some record ∧ record.state = .suspendedForToolResult ∧
        record.artifacts.continuation = none ∧ record.slices.approvalDecided.getD false = false ∧
        approvalSuspensionMatches record.slices (.str "") = true ∧
        approvalDigestMatches .complete record.slices (.str "") = true :=
    stored_of_any (by decide +kernel)
  have usable : ContinuationUsable record.artifacts := by
    intro stored kept
    rw [continuation] at kept
    cases kept
  have misplaced : MisplacedApproval .complete record misplacedInput :=
    ⟨⟨rfl, rfl, suspension, digest⟩, undecided, by rw [waiting]; decide, by rw [waiting]; decide,
      usable⟩
  have clean := every _ _ (.resume "op-1" (some misplacedInput)) pendingTask_reachable trivial
  obtain ⟨log', p, unchanged, rejected, announced⟩ :=
    clean.exists_both world_total (misplaced_announces rfl found misplaced)
  exact announced (unchanged rejected).events

end Audisor.Controller
