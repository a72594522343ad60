/-
**What calls carry on.**

* `ControllerOp.Carries source` — a save is of `source` later on: the same operation, with the same
  recorded retries, and never back in `received`.
* One lemma for each phase; **`startRecord_carries`**, **`resumeRecord_carries`** and
  **`claimRecord_carries`** — what the calls on a loaded record save, carries it on.
-/

import Audisor.Controller.Rejections
import Audisor.Controller.ReviewRounds

namespace Audisor.Controller

open Interaction Json

variable {c : OperationController} {record next : OperationRecord}

def ControllerOp.Carries (record : OperationRecord) : ControllerOp → Prop
  | save next => Continues record next
  | _ => True

variable {source : OperationRecord}

/-- **The machine of the phases carries the operation on.** -/
theorem carries_of_rounds {α : Type} (counted : Option String → Prop) (held : Held) {p : Ctl α}
    {Q : Held → α → Prop} (follows : Follows (rounds counted) held p Q)
    (continues : Continues source held.record) : p.Asks (ControllerOp.Carries source) := by
  induction p generalizing held with
  | done value => trivial
  | raise error => trivial
  | ask op next ih =>
    refine ⟨?_, fun answer => ?_⟩
    · cases op with
      | save saved =>
        obtain ⟨held', ⟨leaves, further, _⟩, _⟩ := follows ()
        have same : held'.record = saved := leaves
        exact same ▸ continues.trans further
      | _ => trivial
    · obtain ⟨held', ⟨_, further, _⟩, rest⟩ := follows answer
      exact ih answer held' rest (continues.trans further)

theorem carries_review {depth : Nat} {plan : Json} {context : Dict} (settled : Settled record)
    (continues : Continues source record) :
    (doReview c depth record plan context none).Asks (ControllerOp.Carries source) :=
  carries_of_rounds (fun _ => False) ⟨record, 0⟩ (doReview_free id depth settled) continues

theorem carries_adapterResult {result : Dict} {phase : String} (settled : Settled record)
    (continues : Continues source record) :
    (handleAdapterResult c record result phase).Asks (ControllerOp.Carries source) :=
  carries_of_rounds (fun _ => False) ⟨record, 0⟩ (handleAdapterResult_rounds settled) continues

variable {rest : Unit → Ctl OperationControllerResult}

theorem carries_save (continues : Continues source next)
    (further : (rest ()).Asks (ControllerOp.Carries source)) :
    (save next >>= rest).Asks (ControllerOp.Carries source) :=
  ⟨continues, fun _ => further⟩

theorem carries_emit {eventType : String} {payload : Dict}
    (further : (rest ()).Asks (ControllerOp.Carries source)) :
    (emit c record eventType payload >>= rest).Asks (ControllerOp.Carries source) :=
  (emit_asks fun _ _ _ _ => trivial).bind fun _ => further

theorem carries_moveTo {target : OperationState} {reason : String}
    {rest : OperationRecord → Ctl OperationControllerResult}
    (further : (rest (record.moved target reason)).Asks (ControllerOp.Carries source)) :
    (moveTo record target reason >>= rest).Asks (ControllerOp.Carries source) := by
  unfold moveTo
  rcases record.transition_cases target reason with ⟨_, done⟩ | ⟨_, message, failed⟩
  · rw [done]
    exact further
  · rw [failed]
    trivial

theorem carries_transition {target : OperationState} {reason : String}
    {failed : String → Ctl OperationControllerResult}
    {done : OperationRecord → Ctl OperationControllerResult}
    (error : ∀ message, (failed message).Asks (ControllerOp.Carries source))
    (further : (done (record.moved target reason)).Asks (ControllerOp.Carries source)) :
    (match record.transition target reason with
      | .error message => failed message
      | .ok moved => done moved).Asks (ControllerOp.Carries source) := by
  rcases record.transition_cases target reason with ⟨_, transitioned⟩ | ⟨_, message, refused⟩
  · rw [transitioned]
    exact further
  · rw [refused]
    exact error message

theorem carries_advancePlan {result : Dict} {reason : String}
    {reviewed : OperationRecord → Ctl OperationControllerResult}
    (continues : Continues source record)
    (further : ∀ next, Settled next → Continues source next →
      (reviewed next).Asks (ControllerOp.Carries source)) :
    (advancePlan record (planOf result) reason >>= reviewed).Asks (ControllerOp.Carries source) := by
  unfold advancePlan
  simp only [bind_assoc]
  have ready : Continues source ((record.moved .planReady reason).withPlan (planOf result)) :=
    continues.trans ⟨rfl, rfl, fun _ => nofun⟩
  have reviewing : Continues source
      (((record.moved .planReady reason).withPlan (planOf result)).moved .reviewing "auto_review") :=
    ready.trans (.of_moved nofun)
  refine carries_moveTo (carries_save ready (carries_moveTo (carries_save reviewing ?_)))
  exact further _ (settled_moved (by decide)) reviewing

theorem doPlanning_carries (settled : Settled record) (continues : Continues source record)
    (prompt : String) (context : Dict) :
    (doPlanning c record prompt context).Asks (ControllerOp.Carries source) := by
  unfold doPlanning
  split
  · trivial
  · refine ⟨trivial, fun answer => (Program.Asks.ofExcept _).bind fun result => ?_⟩
    split
    · exact carries_adapterResult settled continues
    · exact carries_advancePlan continues fun next reviewing further =>
        carries_review reviewing further

theorem doChat_carries (continues : Continues source record) (context : Dict) :
    (doChat c record context).Asks (ControllerOp.Carries source) := by
  have running : Continues source (record.moved .sandboxRunning "chat_turn_started") :=
    continues.trans (.of_moved nofun)
  unfold doChat
  split
  · trivial
  · refine carries_moveTo (carries_save running (carries_emit ?_))
    refine ⟨trivial, fun answer => (Program.Asks.ofExcept _).bind fun result => ?_⟩
    dsimp only
    split
    · exact carries_moveTo (carries_save (running.trans (.of_moved nofun)) trivial)
    · exact carries_moveTo (carries_save (running.trans (.of_moved nofun)) (carries_emit trivial))

/-- **Starting an operation carries it on.** -/
theorem startRecord_carries (plan : Option Dict) (context : Dict) :
    (startRecord c record plan context).Asks (ControllerOp.Carries record) := by
  unfold startRecord
  split
  · have reviewing : Settled (record.moved .reviewing "prepared_plan_submitted") :=
      settled_moved (by decide)
    have continues : ∀ plan, Continues record
        ((record.moved .reviewing "prepared_plan_submitted").withPlan plan) := fun _ =>
      ⟨rfl, rfl, fun _ => OperationState.noConfusion⟩
    refine carries_moveTo (carries_save (continues _) ?_)
    exact carries_review reviewing (continues _)
  · have planning : Settled (record.moved .planning "task_accepted") := settled_moved (by decide)
    have continues : Continues record (record.moved .planning "task_accepted") :=
      .of_moved OperationState.noConfusion
    refine carries_moveTo (carries_save continues (carries_emit ?_))
    exact doPlanning_carries planning continues _ _
  · have reviewing : Settled (record.moved .reviewing "fix_accepted") := settled_moved (by decide)
    have continues : Continues record (record.moved .reviewing "fix_accepted") :=
      .of_moved OperationState.noConfusion
    refine carries_moveTo (carries_save continues ?_)
    split
    · exact carries_review reviewing continues
    · trivial
  · exact doChat_carries (.refl _) context
  · trivial

/-! ### Resumptions -/

theorem resumePlanning_carries (settled : Settled record) (continues : Continues source record)
    (resumeInput : Dict) {reviewed : OperationRecord → Json → Ctl OperationControllerResult}
    (further : ∀ next plan, Settled next → Continues source next →
      (reviewed next plan).Asks (ControllerOp.Carries source)) :
    (resumePlanning c record resumeInput reviewed).Asks (ControllerOp.Carries source) := by
  refine ⟨trivial, fun answer => (Program.Asks.ofExcept _).bind fun result => ?_⟩
  split
  · exact carries_adapterResult settled continues
  · exact carries_advancePlan continues fun next reviewing further' =>
      further next _ reviewing further'

theorem resumeRunning_carries (settled : Settled record) (continues : Continues source record)
    (resumeInput : Dict) :
    (resumeRunning c record resumeInput).Asks (ControllerOp.Carries source) := by
  refine ⟨trivial, fun answer => (Program.Asks.ofExcept _).bind fun result => ?_⟩
  exact carries_adapterResult settled continues

theorem resumed_carries (settled : Settled record) (continues : Continues source record)
    (resumeInput detail : Dict) {reviewed : OperationRecord → Json → Ctl OperationControllerResult}
    (further : ∀ next plan, Settled next → Continues source next →
      (reviewed next plan).Asks (ControllerOp.Carries source)) :
    (if record.state = .planning ∧ c.hasPlanning = true then
      resumePlanning c record resumeInput reviewed
    else if record.state = .sandboxRunning ∧ c.hasExecution = true then
      resumeRunning c record resumeInput
    else pure (record.result detail)).Asks (ControllerOp.Carries source) := by
  split
  · exact resumePlanning_carries settled continues resumeInput further
  · split
    · exact resumeRunning_carries settled continues resumeInput
    · trivial

theorem resumeTarget_started (suspended : record.state ∈ suspendedStates) :
    resumeTarget record ≠ .received := by
  intro same
  have allowed := (resumeTarget_allowed suspended).2
  rw [same] at allowed
  cases state : record.state <;> simp [state, transitions] at allowed

theorem settled_resumed {reason : String} :
    Settled (record.moved (resumeTarget record) reason) := resumeTarget_not_suspended record

theorem handleToolResult_carries (suspended : record.state ∈ suspendedStates) (resumeInput : Dict) :
    (handleToolResult c record resumeInput).Asks (ControllerOp.Carries record) := by
  unfold handleToolResult
  refine (Program.Asks.ofExcept _).bind fun refused => ?_
  cases refused with
  | some detail => trivial
  | none =>
    dsimp only
    refine carries_transition (fun message => trivial) ?_
    have continues : Continues record ((record.moved (resumeTarget record)
        "tool_result_submitted").consumed (getD resumeInput "tool_results" (.arr []))) :=
      ⟨by simp, by simp, fun _ => by simpa using resumeTarget_started suspended⟩
    have settled : Settled ((record.moved (resumeTarget record)
        "tool_result_submitted").consumed (getD resumeInput "tool_results" (.arr []))) := by
      rw [Settled, consumed_state]
      exact resumeTarget_not_suspended record
    refine carries_save continues ?_
    exact resumed_carries settled continues resumeInput _ fun next plan reviewing further =>
      carries_review reviewing further

theorem resumeUntyped_carries (suspended : record.state ∈ suspendedStates) (resumeInput : Dict) :
    (resumeUntyped c record resumeInput).Asks (ControllerOp.Carries record) := by
  have continues : Continues record (record.moved (resumeTarget record) "resumed with input") :=
    .of_moved (resumeTarget_started suspended)
  unfold resumeUntyped
  refine carries_transition (fun message => trivial) (carries_save continues ?_)
  exact resumed_carries settled_resumed continues resumeInput _ fun _ _ _ _ => trivial

theorem handleApprovalDecision_carries (resumeInput : Dict) :
    (handleApprovalDecision c record resumeInput).Asks (ControllerOp.Carries record) := by
  unfold handleApprovalDecision
  dsimp only
  split
  · trivial
  · split
    · split <;> trivial
    · split
      · trivial
      · split
        · unfold denyApproval
          refine carries_transition (fun message => trivial) ?_
          exact carries_save ⟨rfl, rfl, fun _ => nofun⟩ (carries_emit trivial)
        · unfold grantApproval
          refine carries_emit ((Program.Asks.ofExcept _).bind fun continuation => ?_)
          refine ⟨trivial, fun token => carries_transition (fun message => trivial) ?_⟩
          exact carries_save ⟨rfl, rfl, fun _ => nofun⟩ (carries_emit trivial)

/-- **Resuming an operation carries it on.** -/
theorem resumeRecord_carries (suspended : record.state ∈ suspendedStates) (resumeInput : Dict) :
    (resumeRecord c record resumeInput).Asks (ControllerOp.Carries record) := by
  unfold resumeRecord
  split
  · exact handleApprovalDecision_carries resumeInput
  · split
    · exact handleToolResult_carries suspended resumeInput
    · exact resumeUntyped_carries suspended resumeInput

/-- **A claim carries its operation on.** -/
theorem claimRecord_carries (claimantId suspensionId callId argumentDigest : String) :
    (claimRecord c record claimantId suspensionId callId argumentDigest).Asks
      (ControllerOp.Carries record) := by
  unfold claimRecord
  split
  · trivial
  · refine (Program.Asks.ofExcept _).bind fun calls => (Program.Asks.ofExcept _).bind fun found => ?_
    cases found with
    | none => trivial
    | some call =>
      dsimp only
      split
      · trivial
      · split
        · split <;> trivial
        · exact carries_save ⟨rfl, rfl, id⟩ (carries_emit trivial)

end Audisor.Controller
