/-
**Executions that were cut.**

* `known_of_valid` — a plan with a valid state knows what its tasks depend on.
* `Interruptible` — no task has failed, and some task is left that neither completed nor is blocked.
* `validateState_interruptRunning` — **when the interrupted state is valid.**
* `Reconciles` — a state that was cut is interrupted by the next load or claim, and keeps no other
  execution from being claimed.
* **`reconciles_iff`** — exactly the interruptible states do. `cutState` has a failed task.
-/

import Audisor.Builder.Assignments
import Audisor.Builder.ExecutionStore

namespace Audisor.Builder

open Checked DeterministicScheduler

/-! ### Interrupted states -/

section

variable {scheduler : DeterministicScheduler} {state : BuildExecutionState}
  {status : ExecutionStatus} {manifest : Option String} {tasks : Assignment}

/-- **A plan with a valid state** has distinct ids, and knows what its tasks depend on. -/
theorem known_of_valid (valid : scheduler.validateState state = .ok ()) :
    (scheduler.plan.tasks.map fun task => task.taskId.folded).Nodup ∧
      ∀ task ∈ scheduler.plan.tasks, ∀ dependency ∈ task.dependsOn,
        dependency ∈ scheduler.plan.taskIds := by
  unfold validateState at valid
  simp only [bind_eq_ok, refuse_eq_ok, exists_const, not_not, not_or, ne_eq] at valid
  obtain ⟨-, unique, ids, -, ⟨⟩, each, -⟩ := valid
  have folded : state.tasks.map (fun record => record.taskId.folded) =
      scheduler.plan.tasks.map fun task => task.taskId.folded :=
    calc state.tasks.map (fun record => record.taskId.folded)
        = (state.tasks.map TaskStateRecord.taskId).map SafeIdentifier.folded := by
          rw [List.map_map]
          rfl
      _ = scheduler.plan.tasks.map fun task => task.taskId.folded := by
          rw [ids, BuildPlan.taskIds, List.map_map]
          rfl
  refine ⟨folded ▸ unique, fun task listed dependency needed => ?_⟩
  obtain ⟨own, -, statuses, read, -⟩ := by
    simpa only [bind_eq_ok] using forM_eq_ok.mp each task listed
  obtain ⟨found, looked⟩ := mapM_returns.mp ⟨statuses, read⟩ dependency needed
  unfold BuildExecutionState.statusOf at looked
  cases record : state.tasks.reverse.find? fun record => record.taskId = dependency with
  | none =>
    rw [record] at looked
    cases looked
  | some item =>
    have same := List.find?_some record
    have listed := List.mem_reverse.mp (List.mem_of_find?_eq_some record)
    rw [← ids, ← of_decide_eq_true same]
    exact List.mem_map.mpr ⟨item, listed, rfl⟩

def interrupted (tasks : Assignment) : Assignment := fun taskId =>
  if tasks taskId = .pending ∨ tasks taskId = .ready ∨ tasks taskId = .running then .interrupted
  else tasks taskId

theorem interruptRunning_assigned :
    interruptRunning (scheduler.assigned .running manifest tasks) =
      scheduler.assigned .interrupted manifest (interrupted tasks) := by
  unfold interruptRunning
  rw [if_neg fun both => both.1 rfl]
  unfold assigned interrupted
  congr 1
  rw [List.map_map]
  refine List.map_congr_left fun task _ => ?_
  rw [Function.comp_apply]
  split <;> rfl

/-- **A state that an interruption leaves valid**: nothing failed, and something was left to do. -/
def Interruptible (state : BuildExecutionState) : Prop :=
  (∀ record ∈ state.tasks, record.status ≠ .failed) ∧
    ∃ record ∈ state.tasks, record.status ≠ .completed ∧ record.status ≠ .blocked

theorem interrupted_cases (tasks : Assignment) (node : SafeIdentifier) :
    (interrupted tasks node = tasks node ∧ (tasks node).isTerminal = true) ∨
    (interrupted tasks node = .interrupted ∧ (tasks node).isTerminal = false) := by
  unfold interrupted
  cases state : tasks node <;> simp [TaskStatus.isTerminal]

theorem fits_interrupted {node : SafeIdentifier} {dependencies : List SafeIdentifier}
    (fits : Fits (tasks node) (dependencies.map tasks)) :
    Fits (interrupted tasks node) (dependencies.map (interrupted tasks)) := by
  have stays : ∀ other, (tasks other).isTerminal = true →
      interrupted tasks other = tasks other := by
    intro other terminal
    rcases interrupted_cases tasks other with ⟨same, -⟩ | ⟨-, active⟩
    · exact same
    · rw [terminal] at active
      cases active
  refine ⟨fun going => ?_, fun pending => ?_, fun blocked => ?_⟩
  · intro status held
    obtain ⟨other, needed, rfl⟩ := List.mem_map.mp held
    rcases interrupted_cases tasks node with ⟨same, -⟩ | ⟨cut, -⟩
    · rw [same] at going
      have done := fits.going going (tasks other) (List.mem_map.mpr ⟨other, needed, rfl⟩)
      rw [stays other (by rw [done]; rfl), done]
    · rw [cut] at going
      simp at going
  · rcases interrupted_cases tasks node with ⟨same, terminal⟩ | ⟨cut, -⟩
    · rw [← same, pending] at terminal
      cases terminal
    · rw [pending] at cut
      cases cut
  · rcases interrupted_cases tasks node with ⟨same, -⟩ | ⟨cut, -⟩
    · obtain ⟨status, held, stuck⟩ := fits.stuck (same ▸ blocked)
      obtain ⟨other, needed, rfl⟩ := List.mem_map.mp held
      refine ⟨_, List.mem_map.mpr ⟨other, needed, rfl⟩, ?_⟩
      rw [stays other (by rcases stuck with wrong | wrong <;> rw [wrong] <;> rfl)]
      exact stuck
    · rw [blocked] at cut
      cases cut

/-- **The terminal status of what was interrupted.** -/
theorem terminalStatus_interrupted :
    terminalStatus (scheduler.assigned status manifest (interrupted tasks)) = .ok .interrupted ↔
      (∀ node ∈ scheduler.plan.taskIds, tasks node ≠ .failed) ∧
        ∃ node ∈ scheduler.plan.taskIds, tasks node ≠ .completed ∧ tasks node ≠ .blocked := by
  have terminal : ¬ ((scheduler.plan.taskIds.map (interrupted tasks)).any
      fun status => !status.isTerminal) := by
    intro active
    obtain ⟨state, held, runs⟩ := List.any_eq_true.mp active
    obtain ⟨node, -, rfl⟩ := List.mem_map.mp held
    rcases interrupted_cases tasks node with ⟨same, ended⟩ | ⟨cut, -⟩
    · simp [same, ended] at runs
    · simp [cut, TaskStatus.isTerminal] at runs
  have failed : TaskStatus.failed ∈ scheduler.plan.taskIds.map (interrupted tasks) ↔
      ∃ node ∈ scheduler.plan.taskIds, tasks node = .failed := by
    rw [List.mem_map]
    refine exists_congr fun node => and_congr_right fun _ => ?_
    unfold interrupted
    cases tasks node <;> simp
  have cut : TaskStatus.interrupted ∈ scheduler.plan.taskIds.map (interrupted tasks) ↔
      ∃ node ∈ scheduler.plan.taskIds,
        tasks node ≠ .completed ∧ tasks node ≠ .failed ∧ tasks node ≠ .blocked := by
    rw [List.mem_map]
    refine exists_congr fun node => and_congr_right fun _ => ?_
    unfold interrupted
    cases tasks node <;> simp
  unfold terminalStatus
  rw [statuses_assigned, if_neg terminal]
  by_cases wrong : ∃ node ∈ scheduler.plan.taskIds, tasks node = .failed
  · rw [if_pos (failed.mpr wrong)]
    obtain ⟨node, listed, fails⟩ := wrong
    exact iff_of_false nofun fun both => both.1 node listed fails
  · rw [if_neg fun held => wrong (failed.mp held)]
    have none : ∀ node ∈ scheduler.plan.taskIds, tasks node ≠ .failed :=
      fun node listed fails => wrong ⟨node, listed, fails⟩
    by_cases left : ∃ node ∈ scheduler.plan.taskIds,
        tasks node ≠ .completed ∧ tasks node ≠ .blocked
    · obtain ⟨node, listed, open', free⟩ := left
      rw [if_pos (cut.mpr ⟨node, listed, open', none node listed, free⟩)]
      exact iff_of_true rfl ⟨none, node, listed, open', free⟩
    · rw [if_neg fun held => left ?_]
      · refine iff_of_false (fun ended => ?_) fun both => left both.2
        split at ended <;> cases ended
      · obtain ⟨node, listed, open', -, free⟩ := cut.mp held
        exact ⟨node, listed, open', free⟩

theorem interruptible_assigned : Interruptible (scheduler.assigned status manifest tasks) ↔
    (∀ node ∈ scheduler.plan.taskIds, tasks node ≠ .failed) ∧
      ∃ node ∈ scheduler.plan.taskIds, tasks node ≠ .completed ∧ tasks node ≠ .blocked := by
  unfold Interruptible assigned BuildPlan.taskIds
  simp only [List.mem_map, exists_exists_and_eq_and, forall_exists_index, and_imp,
    forall_apply_eq_imp_iff₂]

/-- **When the interrupted state is valid.** -/
theorem validateState_interruptRunning (valid : scheduler.validateState state = .ok ())
    (running : state.status = .running) :
    scheduler.validateState (interruptRunning state) = .ok () ↔ Interruptible state := by
  obtain ⟨unique, known⟩ := known_of_valid valid
  obtain ⟨tasks, recorded⟩ := exists_assigned valid
  rw [running] at recorded
  rw [recorded, validateState_assigned_iff unique known] at valid
  rw [recorded, interruptRunning_assigned, validateState_assigned_iff unique known,
    interruptible_assigned, ← terminalStatus_interrupted]
  have calm : (scheduler.plan.taskIds.map (interrupted tasks)).count .running ≤ 1 := by
    refine Nat.le_trans (Nat.le_of_eq (List.count_eq_zero.mpr fun held => ?_)) (Nat.zero_le 1)
    obtain ⟨node, -, runs⟩ := List.mem_map.mp held
    rcases interrupted_cases tasks node with ⟨same, ended⟩ | ⟨cut, -⟩
    · rw [← same, runs] at ended
      cases ended
    · rw [runs] at cut
      cases cut
  have final : validateStatus (scheduler.assigned .interrupted state.terminalManifestSha256
      (interrupted tasks)) = .ok () ↔
      terminalStatus (scheduler.assigned .interrupted state.terminalManifestSha256
        (interrupted tasks)) = .ok .interrupted := by
    unfold validateStatus
    rw [if_pos (.inr (.inr rfl))]
    simp only [bind_eq_ok, refuse_eq_ok, not_not, ne_eq]
    constructor
    · rintro ⟨terminal, ended, rfl⟩
      exact ended
    · exact fun ended => ⟨_, ended, rfl⟩
  rw [final]
  exact ⟨fun both => both.2.2,
    fun ended => ⟨calm, fun task listed => fits_interrupted (valid.2.1 task listed), ended⟩⟩

end

/-! ### Reconciliation -/

/-- What may have been written of a state: it passes the checks of its schema. -/
def Loadable (state : BuildExecutionState) : Prop := state.modelValidate = .ok state

/-- Nothing else holds the lock of an execution, and its state can be written. -/
structure Free (host : ExecutionHost) (path : String) : Prop where
  unlocked : host.held path = false
  writable : host.unwritable path = false

/-- **A state that was cut is reconciled**, by the next load or claim: it is interrupted, a request
with its key gets it, and no other execution is kept from being claimed. -/
structure Reconciles (plan : BuildPlan) (state : BuildExecutionState) : Prop where
  valid : schedulerFor plan (interruptRunning state) = .ok ()
  loaded : ∀ host path authority executions, Free host path →
    (loadAndReconcile host ⟨path, some state, some plan, authority⟩ executions).1 =
      .ok (interruptRunning state)
  resumed : ∀ host path own request authority executions, Free host path →
    own.idempotencyKey = request.idempotencyKey → own.requestDigest = authority.requestDigest →
    (visitRecord host request authority
      ⟨⟨path, some state, some plan, some own⟩, own, state⟩ executions).1 =
        .ok (some ⟨path, interruptRunning state, false, true⟩)
  passed : ∀ host path own request authority executions, Free host path →
    own.idempotencyKey ≠ request.idempotencyKey → own.executionId ≠ request.executionId →
    (visitRecord host request authority
      ⟨⟨path, some state, some plan, some own⟩, own, state⟩ executions).1 = .ok none

section

variable {host : ExecutionHost} {path : String} {plan : BuildPlan} {state : BuildExecutionState}

theorem schedulerFor_interruptRunning :
    schedulerFor plan (interruptRunning state) =
      validateState ⟨plan, state.executionId⟩ (interruptRunning state) := by
  have same : (interruptRunning state).executionId = state.executionId := by
    unfold interruptRunning
    split <;> rfl
  unfold schedulerFor
  rw [same]

theorem reconcileStale_of_valid (free : Free host path) (valid : schedulerFor plan state = .ok ())
    (after : schedulerFor plan (interruptRunning state) = .ok ()) (executions : Executions) :
    (reconcileStale host path state plan executions).1 = .ok (interruptRunning state) := by
  unfold reconcileStale
  rw [run_bind, run_ofExcept, valid]
  by_cases same : interruptRunning state = state
  · simp only [ne_eq, same, not_true_eq_false, if_false]
    rfl
  · simp only [ne_eq, same, not_false_eq_true, if_true, after]
    unfold persistState
    rw [free.writable]
    rfl

theorem length_le_of_loadable (loadable : Loadable state) : state.tasks.length ≤ 256 := by
  by_contra many
  unfold Loadable BuildExecutionState.modelValidate at loadable
  have some' : state.tasks ≠ [] := by
    intro none
    rw [none] at many
    exact many (by decide)
  simp only [some', Nat.lt_of_not_le many, if_false, if_true] at loadable
  cases loadable

theorem loadValidated_eq (loadable : Loadable state) (valid : schedulerFor plan state = .ok ())
    (authority : Option TargetAuthorityRecord) :
    loadPreparedPlan ⟨path, some state, some plan, authority⟩ = .ok plan ∧
      loadValidated ⟨path, some state, some plan, authority⟩ = .ok (state, plan) := by
  have read : loadState ⟨path, some state, some plan, authority⟩ = .ok state := by
    unfold loadState
    have checked : state.modelValidate = .ok state := loadable
    simp only [checked]
  have few : plan.tasks.length ≤ 256 := by
    obtain ⟨tasks, recorded⟩ := exists_assigned valid
    have few := length_le_of_loadable loadable
    rw [recorded] at few
    exact Nat.le_trans (Nat.le_of_eq (List.length_map _).symm) few
  have planned : loadPreparedPlan ⟨path, some state, some plan, authority⟩ = .ok plan := if_pos few
  refine ⟨planned, ?_⟩
  unfold loadValidated
  rw [read, planned]
  simp only [bind, Except.bind, valid]
  rfl

theorem existingPlan_eq (loadable : Loadable state) (valid : schedulerFor plan state = .ok ())
    {own : TargetAuthorityRecord} :
    existingPlan ⟨⟨path, some state, some plan, some own⟩, own, state⟩ = .ok plan := by
  unfold existingPlan
  rw [(loadValidated_eq loadable valid (some own)).1]
  simp only [bind, Except.bind, valid]
  rfl

/-- **Which states are reconciled after a crash.** -/
theorem reconciles_iff (loadable : Loadable state) (valid : schedulerFor plan state = .ok ())
    (running : state.status = .running) : Reconciles plan state ↔ Interruptible state := by
  have interruptible : schedulerFor plan (interruptRunning state) = .ok () ↔ Interruptible state := by
    rw [schedulerFor_interruptRunning]
    exact validateState_interruptRunning valid running
  refine ⟨fun reconciles => interruptible.mp reconciles.valid, fun left => ?_⟩
  have after := interruptible.mpr left
  refine ⟨after, ?_, ?_, ?_⟩
  · intro host path authority executions free
    unfold loadAndReconcile
    rw [(loadValidated_eq loadable valid authority).2]
    simp only [running, free.unlocked, List.mem_cons, reduceCtorEq, List.not_mem_nil, or_self,
      if_false, Bool.false_eq_true]
    exact reconcileStale_of_valid free valid after executions
  · intro host path own request authority executions free sameKey sameDigest
    unfold visitRecord
    rw [existingPlan_eq loadable valid, run_bind, run_ofExcept]
    simp only [sameKey, sameDigest, free.unlocked, ne_eq, not_true_eq_false, if_true, if_false,
      Bool.false_eq_true]
    exact run_bind_fst (reconcileStale_of_valid free valid after executions)
  · intro host path own request authority executions free otherKey otherId
    unfold visitRecord
    rw [existingPlan_eq loadable valid, run_bind, run_ofExcept]
    simp only [otherKey, otherId, if_false]
    by_cases stale : state.status = .running ∧ sameAuthority host own authority
    · rw [if_pos stale]
      simp only [free.unlocked, if_false, Bool.false_eq_true]
      exact run_bind_fst (reconcileStale_of_valid free valid after executions)
    · rw [if_neg stale]
      rfl

end

/-! ### A run that was cut -/

/-- A plan of three tasks: two of them in a row, and one apart. -/
def cutPlan : BuildPlan where
  buildId := ⟨"build-1", by decide⟩
  tasks := [⟨⟨"a", by decide⟩, []⟩, ⟨⟨"b", by decide⟩, [⟨"a", by decide⟩]⟩, ⟨⟨"c", by decide⟩, []⟩]

/-- The first task has failed, the second is blocked and the third is ready. -/
def cutState : BuildExecutionState where
  buildId := ⟨"build-1", by decide⟩
  executionId := ⟨"execution-1", by decide⟩
  status := .running
  tasks :=
    [⟨⟨"a", by decide⟩, .failed⟩, ⟨⟨"b", by decide⟩, .blocked⟩, ⟨⟨"c", by decide⟩, .ready⟩]

def quietHost : ExecutionHost where
  held := fun _ => false
  unwritable := fun _ => false
  foldCase := id
  finalState := fun _ => .error (.executionStoreError "Execution storage is unreadable")

/-- **It is not reconciled**: the load raises. -/
theorem cutState_raises :
    schedulerFor cutPlan cutState = .ok () ∧ cutState.status = .running ∧ Loadable cutState ∧
      (∃ message, (loadAndReconcile quietHost
        ⟨"execution-1", some cutState, some cutPlan, none⟩ []).1 = .error (.schedulerError message)) ∧
      ¬ Reconciles cutPlan cutState := by
  refine ⟨by decide, rfl, ?_, ⟨"Execution terminal status contradicts task state", by decide⟩,
    fun reconciles => ?_⟩
  · unfold Loadable
    decide
  · have valid := reconciles.valid
    revert valid
    decide

/-- While only the first task has completed, the state is reconciled. -/
theorem begunState_reconciles :
    Reconciles cutPlan
      { cutState with tasks := [⟨⟨"a", by decide⟩, .completed⟩, ⟨⟨"b", by decide⟩, .running⟩,
          ⟨⟨"c", by decide⟩, .ready⟩] } := by
  refine (reconciles_iff ?_ (by decide) rfl).mpr ⟨by simp, by simp⟩
  unfold Loadable
  decide

end Audisor.Builder
