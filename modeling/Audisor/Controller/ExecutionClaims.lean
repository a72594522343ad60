/-
**The scope of an execution claim.**

* `NamesSuspension`, `NamesPendingCall` — a claim made for the suspension that the record is in.
* `ClaimScoped` — the claim of a record that waits for a tool result, if any, was made for its current
  suspension, and the suspension is not marked as consumed.
* `OpensUnclaimed` — a condition on the saves of a run: a suspension for a tool result is opened only
  of a record without a claim.
* **`claims_scoped`** — in every run whose saves meet the condition, every record that waits for a
  tool result is scoped, and a claim or a result is rejected for an earlier one only because of a
  claim recorded for the suspension itself.

No handler clears the claim or the consumed flag, so the condition fails at the first suspension that
follows a claimed one.
-/

import Audisor.Controller.ApprovalGate

namespace Audisor.Controller

open Interaction Json

variable {c : OperationController} {log log' : Log} {k k' : CallState}
  {record next : OperationRecord} {operationId : String}

/-! ### Scoped claims -/

/-- The claim was made for the suspension that the record is in. -/
def NamesSuspension (record : OperationRecord) (claim : ExecutionClaim) : Prop :=
  (Json.str claim.suspensionId == record.slices.suspensionId.getD (.str "")) = true

/-- The claim is for a call that the suspension waits for. -/
def NamesPendingCall (record : OperationRecord) (claim : ExecutionClaim) : Prop :=
  ∃ calls call, iterate (record.slices.pendingCalls.getD (.arr [])) = .ok calls ∧
    matchingCall claim.callId calls = .ok (some call)

/-- The claim of a waiting record, if any, is its own. -/
structure ClaimScoped (record : OperationRecord) : Prop where
  claim : ∀ claim, record.slices.executionClaim = some claim →
    NamesSuspension record claim ∧ NamesPendingCall record claim
  unconsumed : record.slices.suspensionConsumed = none

/-- What holds of every stored record, where the suspensions opened unclaimed. -/
structure ClaimFacts (record : OperationRecord) : Prop where
  own : record.state = .suspendedForToolResult → ClaimScoped record
  consumed : record.slices.executionClaim = none → record.slices.suspensionConsumed = none

/-- A save that opens a suspension for a tool result finds no claim on the stored record. -/
def OpensUnclaimed (older : Log) : Event controllerSignature → Prop
  | ⟨.save next, _⟩ => next.state = .suspendedForToolResult →
    ∀ record ∈ stored older next.operationId,
      record.state ≠ .suspendedForToolResult → record.slices.executionClaim = none
  | _ => True

instance (older : Log) : (event : Event controllerSignature) → Decidable (OpensUnclaimed older event)
  | ⟨.save next, _⟩ =>
    inferInstanceAs (Decidable (_ → ∀ record ∈ stored older next.operationId, _ → _))
  | ⟨.load _, _⟩ | ⟨.append _ _ _ _, _⟩ | ⟨.createPlan _ _, _⟩ | ⟨.resumePlan _ _, _⟩
  | ⟨.review _ _ _, _⟩ | ⟨.fulfil _ _ _, _⟩ | ⟨.execute _ _ _, _⟩ | ⟨.resumeExecution _ _, _⟩
  | ⟨.chatTurn _ _ _, _⟩ | ⟨.tokenHex _, _⟩ | ⟨.uuid4Hex, _⟩ => .isTrue trivial

/-! ### The invariant -/

theorem ClaimFacts.of_same (facts : ClaimFacts record)
    (elsewhere : next.state ≠ .suspendedForToolResult)
    (claim : next.slices.executionClaim = record.slices.executionClaim)
    (consumed : next.slices.suspensionConsumed = record.slices.suspensionConsumed) :
    ClaimFacts next := by
  refine ⟨fun waiting => absurd waiting elsewhere, fun unclaimed => ?_⟩
  rw [consumed]
  exact facts.consumed (claim ▸ unclaimed)

theorem ClaimFacts.of_opened (facts : ClaimFacts record)
    (unclaimed : record.slices.executionClaim = none)
    (claim : next.slices.executionClaim = record.slices.executionClaim)
    (consumed : next.slices.suspensionConsumed = record.slices.suspensionConsumed) :
    ClaimFacts next := by
  have fresh : next.slices.suspensionConsumed = none := consumed.trans (facts.consumed unclaimed)
  refine ⟨fun _ => ⟨fun held holds => ?_, fresh⟩, fun _ => fresh⟩
  rw [claim, unclaimed] at holds
  cases holds

theorem resumeTarget_ne_toolResult (record : OperationRecord) :
    resumeTarget record ≠ .suspendedForToolResult :=
  fun same => resumeTarget_not_suspended record (by rw [same]; decide)

theorem Returned.ne_toolResult {result : Dict} {phase : String}
    (returned : Returned k record result phase) : record.state ≠ .suspendedForToolResult := by
  intro waiting
  cases returned with
  | planning state _ => exact absurd (state.symm.trans waiting) (by decide)
  | execution state => exact absurd (state.symm.trans waiting) (by decide)

/-- **What a save leaves of the claim facts**, where it opens a suspension unclaimed. -/
theorem Saves.claimFacts (saves : Saves c k next k')
    (held : ∀ record, k.record? = some record → ClaimFacts record)
    (opens : next.state = .suspendedForToolResult → ∀ record, k.record? = some record →
      record.state ≠ .suspendedForToolResult → record.slices.executionClaim = none) :
    ClaimFacts next := by
  cases saves with
  | registered => exact ⟨nofun, fun _ => rfl⟩
  | claimed claim calls call waiting unclaimed suspension pending found =>
    have own := (held _ rfl).own waiting
    refine ⟨fun _ => ⟨?_, own.unconsumed⟩, fun _ => own.unconsumed⟩
    rintro _ ⟨⟩
    exact ⟨suspension, calls, call, pending, found⟩
  | toolResultSuspension _ returned =>
    have unclaimed := opens (by simp) _ returned.holds returned.ne_toolResult
    exact (held _ returned.holds).of_opened unclaimed (by simp) (by simp)
  | approvalGranted _ _ _ state =>
    have unclaimed := opens rfl _ rfl (by rw [state]; decide)
    exact (held _ rfl).of_opened unclaimed rfl rfl
  | approvalSuspension _ _ returned =>
    exact (held _ returned.holds).of_same (by simp) (by simp) (by simp)
  | otherSuspension returned =>
    refine (held _ returned.holds).of_same ?_ (by simp) (by simp)
    rw [otherSuspended_state]
    exact returned.ne_toolResult
  | fulfilmentDone target reason state outcome =>
    refine (held _ rfl).of_same ?_ rfl rfl
    rintro rfl
    exact absurd outcome (by decide)
  | @toolResults record results suspended =>
    refine ⟨fun waiting => ?_, fun unclaimed => ?_⟩
    · rw [consumed_state] at waiting
      exact absurd waiting (resumeTarget_ne_toolResult record)
    · rw [consumed_executionClaim] at unclaimed
      unfold OperationRecord.consumed
      rw [unclaimed]
      exact (held _ rfl).consumed unclaimed
  | resumed => exact (held _ rfl).of_same (resumeTarget_ne_toolResult _) rfl rfl
  | retryRecorded => exact ⟨fun waiting => ⟨((held _ rfl).own waiting).claim,
      ((held _ rfl).own waiting).unconsumed⟩, (held _ rfl).consumed⟩
  | _ => exact (held _ rfl).of_same (by simp [OperationRecord.withPlan, OperationRecord.withArtifacts,
      OperationRecord.denied, OperationRecord.withSlices]) (by simp [OperationRecord.withPlan,
      OperationRecord.withArtifacts, OperationRecord.denied, OperationRecord.withSlices]) (by
      simp [OperationRecord.withPlan, OperationRecord.withArtifacts, OperationRecord.denied,
      OperationRecord.withSlices])

theorem claimFacts_invariant (c : OperationController) :
    RunInvariant c fun log _ => Always OpensUnclaimed log → ∀ operationId record,
      stored log operationId = some record → ClaimFacts record where
  empty _ _ _ _ found := by cases found
  entry holds _ := holds
  step {log k op answer k'} coherent holds _ move := by
    rintro ⟨opens, earlier⟩ operationId record found
    cases op with
    | save next =>
      rw [stored_save] at found
      split at found
      · cases found
        cases move with
        | save saves =>
          refine saves.claimFacts (fun held holding => holds earlier _ held (coherent.2 held holding)) ?_
          intro waiting held holding
          rcases saves.advances with ⟨rfl, _⟩ | ⟨source, holds', advances⟩
          · cases holding
          · cases holds'.symm.trans holding
            exact opens waiting held (by rw [advances.1]; exact coherent.2 held holding)
        | anything => exact absurd rfl coherent.1
      · exact holds earlier operationId record found
    | _ => exact holds earlier operationId record found

/-! ### Rejections -/

/-- The call ended with this error, and asked nothing after `start`. -/
def RejectedWith (start log : Log) (p : Ctl OperationControllerResult) (text : String) : Prop :=
  log = start ∧ ∃ result, p = .done result ∧ get? result.detail "error" = some (.str text)

/-- The record holds a claim that was made for its current suspension. -/
def HoldsOwnClaim (record : OperationRecord) : Prop :=
  ∃ claim, record.slices.executionClaim = some claim ∧ NamesSuspension record claim

theorem not_rejectedWith {start : Log} {result : OperationControllerResult} {text : String}
    (other : get? result.detail "error" ≠ some (.str text)) :
    ¬ RejectedWith start log (.done result) text := by
  rintro ⟨_, rejected, done, error⟩
  cases done
  exact other error

theorem outcome_save_grows {rest : Unit → Ctl OperationControllerResult} :
    Outcome world log (save next >>= rest) fun log' _ => log' ≠ log := by
  refine outcome_save fun log' p run _ same => ?_
  have longer := run.suffix.length_le
  rw [same, List.length_cons] at longer
  omega

/-- **An unclaimed record competes with no claim.** -/
theorem claimRecord_not_competing (claimantId suspensionId callId argumentDigest : String)
    (unclaimed : record.slices.executionClaim = none) (log : Log) :
    Outcome world log (claimRecord c record claimantId suspensionId callId argumentDigest)
      fun log' p => ¬ RejectedWith log log' p "competing_claim" := by
  have other : ∀ {text : String}, text ≠ "competing_claim" →
      ¬ RejectedWith log log (.done (record.result (errorDetail text))) "competing_claim" := by
    intro text apart
    refine not_rejectedWith fun same => apart ?_
    simpa [OperationRecord.result, errorDetail] using same
  unfold claimRecord
  split
  · exact outcome_done (other (by decide))
  · cases iterate (record.slices.pendingCalls.getD (.arr [])) with
    | error error => exact outcome_raise fun rejected => by cases rejected.2.choose_spec.1
    | ok calls =>
      rw [Program.ofExcept_ok, Program.done_bind]
      cases matchingCall callId calls with
      | error error => exact outcome_raise fun rejected => by cases rejected.2.choose_spec.1
      | ok call =>
        rw [Program.ofExcept_ok, Program.done_bind]
        cases call with
        | none => exact outcome_done (other (by decide))
        | some call =>
          dsimp only
          split
          · exact outcome_done (other (by decide))
          · rw [unclaimed]
            exact outcome_save_grows.mono fun log' p grown rejected => grown rejected.1

theorem refusedResults_error {slices : Slices} {toolResults : Json} {detail : Dict}
    (refused : refusedResults slices toolResults = .ok (some detail)) :
    (∃ claim, slices.executionClaim = some claim) ∧
      (get? detail "error" = some (.str "conflicting_result_replay") →
        slices.suspensionConsumed ≠ none) := by
  unfold refusedResults at refused
  cases claimed : slices.executionClaim with
  | none =>
    rw [claimed] at refused
    cases refused
  | some claim =>
    refine ⟨⟨claim, rfl⟩, fun replay unconsumed => ?_⟩
    rw [claimed, unconsumed] at refused
    simp only [Option.getD_none, Bool.false_eq_true, if_false, bind, Except.bind] at refused
    cases items : iterate toolResults with
    | error error =>
      rw [items] at refused
      cases refused
    | ok results =>
      rw [items] at refused
      dsimp only at refused
      cases found : mismatchedResult claim.callId results with
      | error error =>
        rw [found] at refused
        cases refused
      | ok mismatch =>
        rw [found] at refused
        cases mismatch with
        | none => cases refused
        | some callId =>
          cases refused
          exact absurd replay (by simp [errorDetail, get?])

/-- **Results are refused for a claim or a consumption** that the record shows. -/
theorem handleToolResult_rejected (suspended : record.state ∈ suspendedStates) (resumeInput : Dict)
    (log : Log) :
    Outcome world log (handleToolResult c record resumeInput) fun log' p =>
      (RejectedWith log log' p "result_call_id_mismatch" →
        ∃ claim, record.slices.executionClaim = some claim) ∧
      (RejectedWith log log' p "conflicting_result_replay" →
        record.slices.suspensionConsumed ≠ none) := by
  unfold handleToolResult
  dsimp only
  cases refused : refusedResults record.slices (getD resumeInput "tool_results" (.arr [])) with
  | error error =>
    refine outcome_raise ⟨?_, ?_⟩ <;>
    · rintro ⟨_, result, done, _⟩
      cases done
  | ok detail =>
    rw [Program.ofExcept_ok, Program.done_bind]
    cases detail with
    | some detail =>
      obtain ⟨claimed, consumed⟩ := refusedResults_error refused
      refine outcome_done ⟨fun _ => claimed, ?_⟩
      rintro ⟨_, result, done, error⟩
      cases done
      exact consumed error
    | none =>
      dsimp only
      rw [OperationRecord.transition_of_allows (resumeTarget_allowed suspended)]
      exact outcome_save_grows.mono fun log' p grown =>
        ⟨fun rejected => absurd rejected.1 grown, fun rejected => absurd rejected.1 grown⟩

/-! ### Claims and results of a run -/

theorem outcome_claimToolExecution (found : stored log operationId = some record)
    (waiting : record.state = .suspendedForToolResult)
    {claimantId suspensionId callId argumentDigest : String}
    {Q : Log → Ctl OperationControllerResult → Prop}
    (outcome : Outcome world (⟨ControllerOp.load operationId, some record⟩ :: log)
      (claimRecord c record claimantId suspensionId callId argumentDigest) Q) :
    Outcome world log
      (claimToolExecution c operationId claimantId suspensionId callId argumentDigest) Q := by
  refine outcome_load ?_
  rw [found]
  dsimp only
  rw [if_neg (not_not.mpr waiting)]
  exact outcome

theorem ClaimScoped.holdsOwnClaim (own : ClaimScoped record) {claim : ExecutionClaim}
    (holds : record.slices.executionClaim = some claim) : HoldsOwnClaim record :=
  ⟨claim, holds, (own.claim claim holds).1⟩

/-- **Claims are own to their suspension where each suspension opens unclaimed**: in every run
whose tool-result suspensions are opened on records without a claim, a record that waits for a tool
result holds no claim but one for its own suspension and one of its pending calls, and is not marked
as consumed; a claim or a result is then rejected as competing or mismatched only because of such a
claim, and a result never as a conflicting replay. -/
theorem claims_scoped (reachable : Reachable c log) (opens : Always OpensUnclaimed log)
    (found : stored log operationId = some record)
    (waiting : record.state = .suspendedForToolResult) :
    ClaimScoped record ∧
      (∀ claimantId suspensionId callId argumentDigest, Outcome world log
        (claimToolExecution c operationId claimantId suspensionId callId argumentDigest)
        fun log' p => RejectedWith (⟨ControllerOp.load operationId, some record⟩ :: log) log' p
          "competing_claim" → HoldsOwnClaim record) ∧
      ∀ resumeInput, resumeType resumeInput = .str "tool_result" →
        Outcome world log (resume c operationId (some resumeInput)) fun log' p =>
          (RejectedWith (⟨ControllerOp.load operationId, some record⟩ :: log) log' p
            "result_call_id_mismatch" → HoldsOwnClaim record) ∧
          ¬ RejectedWith (⟨ControllerOp.load operationId, some record⟩ :: log) log' p
            "conflicting_result_replay" := by
  have facts := (claimFacts_invariant c).reachable reachable (.cancel "" "") opens operationId record
    found
  have own : ClaimScoped record := facts.own waiting
  have suspended : record.state ∈ suspendedStates := by rw [waiting]; decide
  refine ⟨own, ?_, ?_⟩
  · intro claimantId suspensionId callId argumentDigest
    refine outcome_claimToolExecution found waiting ?_
    cases holds : record.slices.executionClaim with
    | some claim => exact fun _ _ _ _ _ => own.holdsOwnClaim holds
    | none =>
      exact (claimRecord_not_competing claimantId suspensionId callId argumentDigest holds _).mono
        fun _ _ free rejected => absurd rejected free
  · intro resumeInput kind
    rw [outcome_resume_iff found suspended, resumeRecord, kind, if_neg (by decide), if_pos rfl]
    refine (handleToolResult_rejected suspended resumeInput _).mono fun log' p rejections => ⟨?_, ?_⟩
    · intro rejected
      obtain ⟨claim, holds⟩ := rejections.1 rejected
      exact own.holdsOwnClaim holds
    · exact fun rejected => rejections.2 rejected own.unconsumed

/-! ### A second suspension -/

/-- A planning result that waits for the frontend to read a file. -/
def readResult (suspensionId callId : String) : Dict :=
  [("status", .str "suspended"), ("suspend_state", .str "suspended_for_tool_result"),
    ("suspension_id", .str suspensionId),
    ("pending_calls", .arr [.obj [("call_id", .str callId), ("tool_name", .str "file_read"),
      ("arguments", .obj [("path", .str "src/auth.py")])]])]

@[irreducible] def pendingTask : Log :=
  session .complete
    [(.accept "task" "fix the auth bug" none (some "op-1") none,
      [.adapter (.ok (readResult "susp-1" "call-1"))])] []

@[irreducible] def claimedTask : Log :=
  session .complete [(.claimToolExecution "op-1" "tab-1" "susp-1" "call-1" "", [])] pendingTask

/-- The claimed task in its second suspension for a tool result. -/
@[irreducible] def claimedAgainTask : Log :=
  session .complete
    [(.resume "op-1" (some [("resume_type", .str "tool_result"),
      ("tool_results", .arr [.obj [("call_id", .str "call-1"), ("output", .str "def login")]])]),
      [.adapter (.ok (readResult "susp-2" "call-2"))])] claimedTask

theorem pendingTask_reachable : Reachable .complete pendingTask := by
  unfold pendingTask
  exact session_reachable _ _ [] .empty

theorem claimedTask_reachable : Reachable .complete claimedTask := by
  unfold claimedTask
  exact session_reachable _ _ _ pendingTask_reachable

theorem claimedAgainTask_reachable : Reachable .complete claimedAgainTask := by
  unfold claimedAgainTask
  exact session_reachable _ _ _ claimedTask_reachable

theorem claimedTask_scoped :
    ∃ record, stored claimedTask "op-1" = some record ∧ ClaimScoped record ∧
      (∀ claimantId suspensionId callId argumentDigest, Outcome world claimedTask
        (claimToolExecution .complete "op-1" claimantId suspensionId callId argumentDigest)
        fun log' p => RejectedWith (⟨ControllerOp.load "op-1", some record⟩ :: claimedTask) log' p
          "competing_claim" → HoldsOwnClaim record) ∧
      ∀ resumeInput, resumeType resumeInput = .str "tool_result" →
        Outcome world claimedTask (resume .complete "op-1" (some resumeInput)) fun log' p =>
          (RejectedWith (⟨ControllerOp.load "op-1", some record⟩ :: claimedTask) log' p
            "result_call_id_mismatch" → HoldsOwnClaim record) ∧
          ¬ RejectedWith (⟨ControllerOp.load "op-1", some record⟩ :: claimedTask) log' p
            "conflicting_result_replay" := by
  obtain ⟨record, found, waiting⟩ : ∃ record, stored claimedTask "op-1" = some record ∧
      record.state = .suspendedForToolResult := stored_of_any (by decide +kernel)
  exact ⟨record, found, claims_scoped claimedTask_reachable (by decide +kernel) found waiting⟩

theorem claimedAgainTask_not_scoped :
    ¬ ∀ (c : OperationController) (log : Log) (operationId : String) (record : OperationRecord),
      Reachable c log → stored log operationId = some record →
      record.state = .suspendedForToolResult → ClaimScoped record := by
  intro every
  obtain ⟨record, found, waiting, consumed⟩ : ∃ record,
      stored claimedAgainTask "op-1" = some record ∧ record.state = .suspendedForToolResult ∧
        record.slices.suspensionConsumed = some true := stored_of_any (by decide +kernel)
  have own := every _ _ _ record claimedAgainTask_reachable found waiting
  rw [own.unconsumed] at consumed
  cases consumed

end Audisor.Controller
