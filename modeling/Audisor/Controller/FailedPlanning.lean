/-
**A failed planning phase becomes a plan.**

The controller asks a planning result only whether it is a suspension.

* `PlanningFailed` — a result with the status `failed`, or one the controller does not know.
* `StaysFailed` — what a failed planning should lead to: the call neither reaches `planReady` or a
  later state, nor stores the failure as a plan, nor sends it to review or execution.
* **`failed_planning_advances`** — in no finished call does a failed planning stay failed: the failure
  is stored as the candidate plan of an operation in `planReady` (`unsuspended_planning_stored`).
-/

import Audisor.Controller.Runs

namespace Audisor.Controller

open Interaction Json

/-! ### Failed results -/

/-- What the planning adapter returned, where the event is its answer. -/
def planningResult? : Event controllerSignature → Option Dict
  | ⟨.createPlan _ _, .ok result⟩ | ⟨.resumePlan _ _, .ok result⟩ => some result
  | _ => none

/-- The result reports a status, and neither a plan nor a suspension. -/
def PlanningFailed (result : Dict) : Prop :=
  ∃ status, get? result "status" = some status ∧ status ≠ .str "completed" ∧
    status ≠ .str "suspended"

theorem PlanningFailed.not_isSuspended {result : Dict} (failed : PlanningFailed result) :
    ¬ IsSuspended result := by
  obtain ⟨status, found, _, other⟩ := failed
  unfold IsSuspended getD
  rw [found]
  exact other

/-- `planReady`, and the states after it. -/
def plannedStates : List OperationState :=
  [.planReady, .reviewing, .fulfilling, .collectingEvidence, .awaitingDecision, .sandboxReady,
    .sandboxRunning, .verifying, .readyToApply, .completed]

def StaysFailed (result : Dict) (newer : Log) : Prop :=
  ∀ event ∈ newer, match event.op with
    | .save record => record.state ∉ plannedStates ∧
      record.artifacts.candidatePlan ≠ some ((planOf result).dumps {})
    | .review plan _ _ => plan ≠ planOf result
    | .execute _ plan _ => plan ≠ planOf result
    | _ => True

/-- The event stores the result as the plan of an operation in `planReady`. -/
def StoresPlan (result : Dict) (event : Event controllerSignature) : Prop :=
  ∃ record, event.op = .save record ∧ record.state = .planReady ∧
    record.artifacts.candidatePlan = some ((planOf result).dumps {})

/-! ### What a call does with a planning result -/

/-- Each planning result of the call that is no suspension is held, or stored as a plan. -/
def PlanningSettled (start log : Log) (k : CallState) : Prop :=
  ∀ newer event older result, log = newer ++ event :: older → start <:+ older →
    planningResult? event = some result → ¬ IsSuspended result →
    (∃ record, k = .planned record result) ∨ ∃ saved ∈ newer, StoresPlan result saved

variable {c : OperationController} {start log log' : Log} {k k' : CallState}

theorem Moves.of_planned {record : OperationRecord} {result : Dict} {op : ControllerOp}
    {answer : op.Answer} (move : Moves c (.planned record result) op answer k')
    (complete : ¬ IsSuspended result) :
    k' = .planned record result ∨ StoresPlan result ⟨op, answer⟩ := by
  cases move with
  | save saves =>
    cases saves with
    | planReady reason state _ => exact Or.inr ⟨_, rfl, rfl, rfl⟩
    | approvalSuspension _ _ returned =>
      cases returned with
      | planning _ suspended => exact absurd suspended complete
    | toolResultSuspension _ returned =>
      cases returned with
      | planning _ suspended => exact absurd suspended complete
    | otherSuspension returned =>
      cases returned with
      | planning _ suspended => exact absurd suspended complete
  | append => exact Or.inl rfl
  | token => exact Or.inl rfl
  | uuid => exact Or.inl rfl
  | loaded _ _ rests => exact absurd rests complete
  | vanished _ rests => exact absurd rests complete

theorem Moves.planned_of_result {op : ControllerOp} {answer : op.Answer} {result : Dict}
    (move : Moves c k op answer k') (present : k ≠ .vanished)
    (returned : planningResult? ⟨op, answer⟩ = some result) : ∃ record, k' = .planned record result := by
  cases move with
  | createPlan prompt context answer state =>
    cases answer with
    | ok plan => cases returned; exact ⟨_, rfl⟩
    | error error => cases returned
  | resumePlan resumeInput answer state =>
    cases answer with
    | ok plan => cases returned; exact ⟨_, rfl⟩
    | error error => cases returned
  | anything => exact absurd rfl present
  | _ => cases returned

theorem PlanningSettled.step {op : ControllerOp} {answer : op.Answer} (coherent : Coherent log k)
    (settled : PlanningSettled start log k) (move : Moves c k op answer k') :
    PlanningSettled start (⟨op, answer⟩ :: log) k' := by
  intro newer event older result split before returned complete
  cases newer with
  | nil =>
    rw [List.nil_append, List.cons.injEq] at split
    obtain ⟨rfl, rfl⟩ := split
    exact Or.inl (move.planned_of_result coherent.1 returned)
  | cons last newer =>
    rw [List.cons_append, List.cons.injEq] at split
    obtain ⟨rfl, split⟩ := split
    rcases settled newer event older result split before returned complete with
      ⟨record, rfl⟩ | ⟨saved, member, stores⟩
    · rcases move.of_planned complete with rfl | stores
      · exact Or.inl ⟨record, rfl⟩
      · exact Or.inr ⟨_, List.mem_cons_self, stores⟩
    · exact Or.inr ⟨saved, List.mem_cons_of_mem _ member, stores⟩

/-- **A planning result that is no suspension is stored as a plan before the call ends.** -/
theorem unsuspended_planning_stored {request : Request} {p : Ctl OperationControllerResult}
    (run : Exec world start (c.handle request) log p) (ended : p.Ended)
    {newer older : Log} {event : Event controllerSignature} {result : Dict}
    (split : log = newer ++ event :: older) (during : start <:+ older)
    (returned : planningResult? event = some result) (complete : ¬ IsSuspended result) :
    ∃ saved ∈ newer, StoresPlan result saved := by
  have entered : PlanningSettled start start request.entry := by
    intro newer event older _ split before
    have shorter := before.length_le
    rw [split, List.length_append, List.length_cons] at shorter
    omega
  obtain ⟨k, follows, _, settled⟩ :=
    Follows.exec_invariant (fun log k => Coherent log k ∧ PlanningSettled start log k)
      (fun _ _ _ _ _ before answered move =>
        ⟨before.1.step answered move, before.2.step before.1 move⟩)
      run (handle_follows c request) ⟨coherent_entry start request, entered⟩
  rcases settled newer event older result split during returned complete with
    ⟨record, rfl⟩ | stores
  · exact absurd (Follows.rest_of_ended follows ended) complete
  · exact stores

/-- **No failed planning stays failed**: in every call that has come to its end, a result of the
planning adapter with the status `failed`, or with an unknown one, was taken for a plan. -/
theorem failed_planning_advances {request : Request} {p : Ctl OperationControllerResult}
    (run : Exec world start (c.handle request) log p) (ended : p.Ended)
    {newer older : Log} {event : Event controllerSignature} {result : Dict}
    (split : log = newer ++ event :: older) (during : start <:+ older)
    (returned : planningResult? event = some result) (failed : PlanningFailed result) :
    ¬ StaysFailed result newer := by
  intro stays
  obtain ⟨saved, member, record, saves, state, _⟩ :=
    unsuspended_planning_stored run ended split during returned failed.not_isSuspended
  have forbidden := stays saved member
  rw [saves] at forbidden
  exact forbidden.1 (by rw [state]; decide)

def timedOut : Dict := [("status", .str "failed"), ("error", .str "timeout")]

theorem timedOut_failed : PlanningFailed timedOut :=
  ⟨.str "failed", rfl, by decide, by decide⟩

/-- A task whose planning times out, with a review and an execution that take what they get. -/
@[irreducible] def timedOutTask : Log × Ctl OperationControllerResult :=
  play (OperationController.handle .complete
      (.accept "task" "fix the auth bug" none (some "op-1") none)) []
    [.adapter (.ok timedOut), .adapter (.ok [("decision", .str "no_material_gap")]),
      .adapter (.ok [("status", .str "completed")])]

theorem timedOutTask_exec :
    Exec world [] (OperationController.handle .complete
      (.accept "task" "fix the auth bug" none (some "op-1") none)) timedOutTask.1 timedOutTask.2 := by
  unfold timedOutTask
  exact play_exec _ _ _

theorem timedOutTask_split : timedOutTask.1 = timedOutTask.1.take 11 ++
    ⟨ControllerOp.createPlan "fix the auth bug" [], .ok timedOut⟩ :: timedOutTask.1.drop 12 := by
  decide +kernel

theorem timedOutTask_executed :
    ¬ ∀ (c : OperationController) (request : Request) (start log : Log)
      (p : Ctl OperationControllerResult) (newer older : Log) (event : Event controllerSignature)
      (result : Dict), Reachable c start → Exec world start (c.handle request) log p → p.Ended →
      log = newer ++ event :: older → start <:+ older → planningResult? event = some result →
      PlanningFailed result → StaysFailed result newer := by
  intro every
  have stays := every _ _ _ _ _ _ _ _ timedOut .empty timedOutTask_exec (by decide +kernel)
    timedOutTask_split List.nil_suffix rfl timedOut_failed
  have executed : ⟨ControllerOp.execute "op-1" (.obj timedOut) [], .ok [("status", .str "completed")]⟩ ∈
      timedOutTask.1.take 11 := by decide +kernel
  exact stays _ executed rfl

theorem timedOutTask_not_failed : ¬ StaysFailed timedOut (timedOutTask.1.take 11) :=
  failed_planning_advances timedOutTask_exec (by decide +kernel) timedOutTask_split List.nil_suffix
    rfl timedOut_failed

end Audisor.Controller
