/-
**States of a plan as assignments.**

* `BuildPlan.Prepared` — what the preparation of a build lets through: distinct ids, known
  dependencies, no cycle.
* `Assignment` — a status for each task; `assigned` is the state that records it.
* `validateState_assigned_iff`, `exists_assigned` — a valid state is an assignment that fits the graph.
* `complete`, `fail` — what the scheduler does to an assignment. `markRunning_assigned`,
  `markCompleted_assigned`, `markFailed_assigned` — **it does that to the state.**
-/

import Audisor.Builder.Scheduler
import Mathlib.Data.List.Count

namespace Audisor.Builder

open Checked Graph Relation

theorem find?_key {α β : Type} [DecidableEq β] {key : α → β} {items : List α} {item : α}
    (unique : (items.map key).Nodup) (member : item ∈ items) :
    items.find? (fun other => key other = key item) = some item := by
  cases found : items.find? fun other => key other = key item with
  | none => exact absurd (decide_eq_true rfl) (List.find?_eq_none.mp found item member)
  | some other =>
    have same := List.find?_some found
    have listed := List.mem_of_find?_eq_some found
    rw [List.inj_on_of_nodup_map unique listed member (of_decide_eq_true same)]

/-! ### Prepared plans -/

/-- **A prepared plan**: the checks that `deterministic_topological_order` and the schema make. -/
structure BuildPlan.Prepared (plan : BuildPlan) : Prop where
  some : plan.tasks ≠ []
  few : plan.tasks.length ≤ 256
  unique : (plan.tasks.map fun task => task.taskId.folded).Nodup
  known : ∀ task ∈ plan.tasks, ∀ dependency ∈ task.dependsOn, dependency ∈ plan.taskIds
  acyclic : ∀ taskId, ¬ TransGen plan.Needs taskId taskId

section

variable {plan : BuildPlan}

theorem mem_taskIds {taskId : SafeIdentifier} :
    taskId ∈ plan.taskIds ↔ ∃ task ∈ plan.tasks, task.taskId = taskId := List.mem_map

theorem nodup_taskIds (unique : (plan.tasks.map fun task => task.taskId.folded).Nodup) :
    plan.taskIds.Nodup := by
  have folded : plan.taskIds.map SafeIdentifier.folded =
      plan.tasks.map fun task => task.taskId.folded := by
    rw [BuildPlan.taskIds, List.map_map]
    rfl
  exact List.Nodup.of_map SafeIdentifier.folded (folded ▸ unique)

theorem eq_of_taskId (unique : plan.taskIds.Nodup) {task other : BuildTask}
    (listed : task ∈ plan.tasks) (also : other ∈ plan.tasks) (same : task.taskId = other.taskId) :
    task = other := List.inj_on_of_nodup_map unique listed also same

theorem needs_iff (unique : plan.taskIds.Nodup) {task : BuildTask} (listed : task ∈ plan.tasks)
    {other : SafeIdentifier} : plan.Needs other task.taskId ↔ other ∈ task.dependsOn := by
  constructor
  · rintro ⟨needs, among, needed⟩
    obtain ⟨found, also, same⟩ := List.mem_map.mp among
    obtain ⟨sameId, rfl⟩ := Prod.mk.inj same
    rwa [eq_of_taskId unique also listed sameId] at needed
  · exact fun needed => ⟨task.dependsOn, List.mem_map.mpr ⟨task, listed, rfl⟩, needed⟩

theorem mem_taskIds_of_needs {other node : SafeIdentifier} (edge : plan.Needs other node) :
    node ∈ plan.taskIds := by
  obtain ⟨needs, among, -⟩ := edge
  obtain ⟨task, listed, same⟩ := List.mem_map.mp among
  exact mem_taskIds.mpr ⟨task, listed, congrArg Prod.fst same⟩

theorem BuildPlan.Prepared.needed (prepared : plan.Prepared) {other node : SafeIdentifier}
    (edge : plan.Needs other node) : other ∈ plan.taskIds := by
  obtain ⟨task, listed, rfl⟩ := mem_taskIds.mp (mem_taskIds_of_needs edge)
  have needed := (needs_iff (nodup_taskIds prepared.unique) listed).mp edge
  exact prepared.known task listed other needed

/-- **The dependencies of a prepared plan are well founded.** -/
theorem BuildPlan.Prepared.wellFounded (prepared : plan.Prepared) : WellFounded plan.Needs := by
  exact wellFounded_of_acyclic plan.taskIds (fun _ _ => prepared.needed) prepared.acyclic

end

/-! ### Assignments -/

/-- A status for each task. -/
abbrev Assignment := SafeIdentifier → TaskStatus

namespace DeterministicScheduler

variable (scheduler : DeterministicScheduler)

def assigned (status : ExecutionStatus) (manifest : Option String) (tasks : Assignment) :
    BuildExecutionState where
  buildId := scheduler.plan.buildId
  executionId := scheduler.executionId
  status := status
  tasks := scheduler.plan.tasks.map fun task => ⟨task.taskId, tasks task.taskId⟩
  terminalManifestSha256 := manifest

/-- The state of an execution that runs. -/
abbrev running (tasks : Assignment) : BuildExecutionState := scheduler.assigned .running none tasks

variable {scheduler} {status : ExecutionStatus} {manifest : Option String} {tasks : Assignment}
  {taskId : SafeIdentifier}

theorem statuses_assigned :
    (scheduler.assigned status manifest tasks).tasks.map TaskStateRecord.status =
      scheduler.plan.taskIds.map tasks := by
  unfold assigned BuildPlan.taskIds
  rw [List.map_map, List.map_map]
  rfl

theorem statusOf_assigned (listed : taskId ∈ scheduler.plan.taskIds) :
    (scheduler.assigned status manifest tasks).statusOf taskId = .ok (tasks taskId) := by
  unfold BuildExecutionState.statusOf
  cases found : (scheduler.assigned status manifest tasks).tasks.reverse.find?
      fun record => record.taskId = taskId with
  | none =>
    obtain ⟨task, among, same⟩ := mem_taskIds.mp listed
    have absent := List.find?_eq_none.mp found ⟨task.taskId, tasks task.taskId⟩
      (List.mem_reverse.mpr (List.mem_map.mpr ⟨task, among, rfl⟩))
    exact absurd (decide_eq_true same) absent
  | some record =>
    obtain ⟨task, -, rfl⟩ := List.mem_map.mp (List.mem_reverse.mp (List.mem_of_find?_eq_some found))
    have same := List.find?_some found
    rw [← of_decide_eq_true same]

theorem taskOf_eq (unique : scheduler.plan.taskIds.Nodup) {task : BuildTask}
    (listed : task ∈ scheduler.plan.tasks) : scheduler.taskOf task.taskId = .ok task := by
  have reversed : (scheduler.plan.tasks.reverse.map BuildTask.taskId).Nodup := by
    rw [List.map_reverse]
    exact List.nodup_reverse.mpr unique
  unfold taskOf
  rw [find?_key reversed (List.mem_reverse.mpr listed)]

theorem mapM_statusOf {dependencies : List SafeIdentifier}
    (known : ∀ dependency ∈ dependencies, dependency ∈ scheduler.plan.taskIds) :
    dependencies.mapM (scheduler.assigned status manifest tasks).statusOf =
      .ok (dependencies.map tasks) := by
  have mapped : (dependencies.map id).mapM (scheduler.assigned status manifest tasks).statusOf =
      .ok (dependencies.map tasks) :=
    mapM_map fun dependency among => statusOf_assigned (known dependency among)
  rwa [List.map_id] at mapped

end DeterministicScheduler

/-! ### Valid states -/

/-- A status fits those of what the task depends on. -/
structure Fits (status : TaskStatus) (dependencies : List TaskStatus) : Prop where
  going : status ∈ [TaskStatus.ready, .running, .completed, .failed] →
    ∀ dependency ∈ dependencies, dependency = .completed
  waiting : status = .pending → ∃ dependency ∈ dependencies, dependency ≠ .completed
  stuck : status = .blocked →
    ∃ dependency ∈ dependencies, dependency = .failed ∨ dependency = .blocked

theorem validateTask_iff {status : TaskStatus} {dependencies : List TaskStatus} :
    DeterministicScheduler.validateTask status dependencies = .ok () ↔ Fits status dependencies := by
  unfold DeterministicScheduler.validateTask
  simp only [bind_eq_ok, refuse_eq_ok, exists_const, not_and, Bool.not_eq_true, not_or,
    List.any_eq_false, List.all_eq_false, decide_eq_true_eq]
  constructor
  · rintro ⟨going, waiting, stuck⟩
    refine ⟨fun among dependency held => ?_, fun pending => ?_, fun blocked => ?_⟩
    · exact not_not.mp (going among dependency held)
    · exact (waiting pending).2
    · by_contra free
      refine stuck blocked fun dependency held => ⟨fun wrong => free ?_, fun wrong => free ?_⟩
      · exact ⟨dependency, held, .inl wrong⟩
      · exact ⟨dependency, held, .inr wrong⟩
  · rintro ⟨going, waiting, stuck⟩
    refine ⟨fun among dependency held => not_not.mpr (going among dependency held),
      fun pending => ?_, fun blocked => ?_⟩
    · obtain ⟨dependency, held, wrong⟩ := waiting pending
      exact ⟨List.ne_nil_of_mem held, dependency, held, wrong⟩
    · obtain ⟨dependency, held, wrong⟩ := stuck blocked
      exact fun free => wrong.elim (free dependency held).1 (free dependency held).2

namespace DeterministicScheduler

variable {scheduler : DeterministicScheduler} {status : ExecutionStatus} {manifest : Option String}
  {tasks : Assignment}

/-- **When the state of an assignment is valid.** -/
theorem validateState_assigned_iff
    (unique : (scheduler.plan.tasks.map fun task => task.taskId.folded).Nodup)
    (known : ∀ task ∈ scheduler.plan.tasks, ∀ dependency ∈ task.dependsOn,
      dependency ∈ scheduler.plan.taskIds) :
    scheduler.validateState (scheduler.assigned status manifest tasks) = .ok () ↔
      (scheduler.plan.taskIds.map tasks).count .running ≤ 1 ∧
      (∀ task ∈ scheduler.plan.tasks, Fits (tasks task.taskId) (task.dependsOn.map tasks)) ∧
      validateStatus (scheduler.assigned status manifest tasks) = .ok () := by
  have folded : (scheduler.assigned status manifest tasks).tasks.map
      (fun record => record.taskId.folded) =
      scheduler.plan.tasks.map fun task => task.taskId.folded := List.map_map
  have ids : (scheduler.assigned status manifest tasks).tasks.map TaskStateRecord.taskId =
      scheduler.plan.taskIds := List.map_map
  have each : ∀ task ∈ scheduler.plan.tasks,
      (do let own ← (scheduler.assigned status manifest tasks).statusOf task.taskId
          let dependencies ←
            task.dependsOn.mapM (scheduler.assigned status manifest tasks).statusOf
          validateTask own dependencies) = .ok () ↔
        Fits (tasks task.taskId) (task.dependsOn.map tasks) := by
    intro task listed
    rw [statusOf_assigned (mem_taskIds.mpr ⟨task, listed, rfl⟩), mapM_statusOf (known task listed),
      ← validateTask_iff]
    rfl
  unfold validateState
  simp only [bind_eq_ok, refuse_eq_ok, exists_const, folded, ids, statuses_assigned, not_not,
    not_or, not_lt, ne_eq]
  constructor
  · rintro ⟨-, -, -, few, ⟨⟩, fits, final⟩
    refine ⟨few, fun task listed => ?_, final⟩
    exact (each task listed).mp (forM_eq_ok.mp fits task listed)
  · rintro ⟨few, fits, final⟩
    refine ⟨⟨rfl, rfl⟩, unique, trivial, few, (), forM_eq_ok.mpr fun task listed => ?_, final⟩
    exact (each task listed).mpr (fits task listed)

/-- **A valid state records an assignment.** -/
theorem exists_assigned {state : BuildExecutionState}
    (valid : scheduler.validateState state = .ok ()) :
    ∃ tasks, state = scheduler.assigned state.status state.terminalManifestSha256 tasks := by
  unfold validateState at valid
  simp only [bind_eq_ok, refuse_eq_ok, exists_const, not_not, not_or, ne_eq] at valid
  obtain ⟨⟨build, execution⟩, unique, ids, -⟩ := valid
  let own : Assignment := fun taskId =>
    ((state.tasks.find? fun record => record.taskId = taskId).map TaskStateRecord.status).getD .ready
  have recorded : ∀ record ∈ state.tasks, own record.taskId = record.status := by
    intro record among
    have distinct : (state.tasks.map TaskStateRecord.taskId).Nodup := by
      refine List.Nodup.of_map SafeIdentifier.folded ?_
      rw [List.map_map]
      exact unique
    show ((state.tasks.find? fun other => other.taskId = record.taskId).map _).getD _ = _
    rw [find?_key distinct among]
    rfl
  have listed : state.tasks = scheduler.plan.tasks.map fun task => ⟨task.taskId, own task.taskId⟩ := by
    calc state.tasks
        = state.tasks.map fun record => ⟨record.taskId, own record.taskId⟩ := by
          refine (List.map_id _).symm.trans (List.map_congr_left fun record among => ?_)
          rw [recorded record among]
          rfl
      _ = (state.tasks.map TaskStateRecord.taskId).map fun taskId => ⟨taskId, own taskId⟩ := by
          rw [List.map_map]
          rfl
      _ = scheduler.plan.tasks.map fun task => ⟨task.taskId, own task.taskId⟩ := by
          rw [ids, BuildPlan.taskIds, List.map_map]
          rfl
  refine ⟨own, ?_⟩
  unfold assigned
  rw [← build, ← execution, ← listed]

/-! ### What the scheduler does -/

noncomputable def complete (plan : BuildPlan) (tasks : Assignment) (taskId : SafeIdentifier) :
    Assignment :=
  open Classical in
  let updated := Function.update tasks taskId .completed
  fun other =>
    if updated other = .pending ∧ ∀ dependency, plan.Needs dependency other →
      updated dependency = .completed then .ready else updated other

/-- A task fails: what depends on it, and has not started, is blocked. -/
noncomputable def fail (plan : BuildPlan) (tasks : Assignment) (taskId : SafeIdentifier) :
    Assignment :=
  open Classical in
  fun other =>
    if other = taskId then .failed
    else if ReflTransGen plan.Needs taskId other ∧ (tasks other = .pending ∨ tasks other = .ready)
      then .blocked
    else tasks other

variable {taskId : SafeIdentifier}

theorem withStatus_assigned {new : TaskStatus} :
    (scheduler.assigned status manifest tasks).withStatus taskId new =
      scheduler.assigned status manifest (Function.update tasks taskId new) := by
  unfold BuildExecutionState.withStatus assigned
  rw [List.map_map]
  congr 1
  refine List.map_congr_left fun task _ => ?_
  by_cases same : task.taskId = taskId
  · rw [Function.comp_apply, if_pos same, same, Function.update_self]
  · rw [Function.comp_apply, if_neg same, Function.update_of_ne same]

theorem markRunning_assigned (listed : taskId ∈ scheduler.plan.taskIds)
    (ready : tasks taskId = .ready) :
    markRunning (scheduler.assigned status manifest tasks) taskId =
      .ok (scheduler.assigned status manifest (Function.update tasks taskId .running)) := by
  unfold markRunning
  rw [statusOf_assigned listed, ready, withStatus_assigned]
  rfl

theorem allCompleted_assigned {dependencies : List SafeIdentifier}
    (known : ∀ dependency ∈ dependencies, dependency ∈ scheduler.plan.taskIds) :
    allCompleted (scheduler.assigned status manifest tasks) dependencies =
      .ok (decide (∀ dependency ∈ dependencies, tasks dependency = .completed)) := by
  induction dependencies with
  | nil => simp [allCompleted]
  | cons dependency rest ih =>
    obtain ⟨here, there⟩ := List.forall_mem_cons.mp known
    unfold allCompleted
    rw [statusOf_assigned here, ih there]
    by_cases done : tasks dependency = .completed
    · simp [bind, Except.bind, done]
    · simp [bind, Except.bind, done, pure, Except.pure]

theorem complete_pending (unique : scheduler.plan.taskIds.Nodup) {task : BuildTask}
    (listed : task ∈ scheduler.plan.tasks) {updated : Assignment}
    (current : updated = Function.update tasks taskId .completed) :
    complete scheduler.plan tasks taskId task.taskId =
      if updated task.taskId = .pending ∧
        ∀ dependency ∈ task.dependsOn, updated dependency = .completed then .ready
      else updated task.taskId := by
  subst current
  unfold complete
  simp only [needs_iff unique listed]

/-- **The state after a task completes.** -/
theorem markCompleted_assigned (unique : scheduler.plan.taskIds.Nodup)
    (known : ∀ task ∈ scheduler.plan.tasks, ∀ dependency ∈ task.dependsOn,
      dependency ∈ scheduler.plan.taskIds)
    (listed : taskId ∈ scheduler.plan.taskIds) (started : tasks taskId = .running) :
    scheduler.markCompleted (scheduler.assigned status manifest tasks) taskId =
      .ok (scheduler.assigned .running manifest (complete scheduler.plan tasks taskId)) := by
  obtain ⟨updated, current⟩ : ∃ updated, updated = Function.update tasks taskId .completed :=
    ⟨_, rfl⟩
  have released : (scheduler.assigned status manifest updated).tasks.mapM
      (scheduler.release (scheduler.assigned status manifest updated)) =
      .ok (scheduler.assigned .running manifest (complete scheduler.plan tasks taskId)).tasks := by
    refine mapM_map fun task among => ?_
    have waited : allCompleted (scheduler.assigned status manifest updated) task.dependsOn =
        .ok (decide (∀ dependency ∈ task.dependsOn, updated dependency = .completed)) :=
      allCompleted_assigned (known task among)
    unfold release
    rw [taskOf_eq unique among, complete_pending unique among current]
    by_cases waiting : updated task.taskId = .pending
    · by_cases done : ∀ dependency ∈ task.dependsOn, updated dependency = .completed
      · rw [if_pos ⟨waiting, done⟩]
        rw [decide_eq_true done] at waited
        simp [bind, Except.bind, waiting, waited, pure, Except.pure]
      · rw [if_neg fun both => done both.2]
        rw [decide_eq_false done] at waited
        simp [bind, Except.bind, waiting, waited, pure, Except.pure]
    · rw [if_neg fun both => waiting both.1]
      simp [bind, Except.bind, waiting, pure, Except.pure]
  unfold markCompleted
  rw [statusOf_assigned listed, started, withStatus_assigned, ← current]
  simp only [bind, Except.bind, refuse, ne_eq, not_true_eq_false, if_false, released, pure,
    Except.pure]
  rfl

theorem mem_downstream {other : SafeIdentifier} :
    other ∈ scheduler.downstream taskId ↔ ReflTransGen scheduler.plan.Needs taskId other := by
  unfold downstream
  rw [mem_close_iff (by rw [BuildPlan.graph, List.length_map]; omega)]
  constructor
  · rintro ⟨origin, same, chain⟩
    rwa [List.mem_singleton.mp same] at chain
  · exact fun chain => ⟨taskId, List.mem_singleton.mpr rfl, chain⟩

/-- **The state after a task fails.** -/
theorem markFailed_assigned (listed : taskId ∈ scheduler.plan.taskIds)
    (started : tasks taskId = .running) :
    scheduler.markFailed (scheduler.assigned status manifest tasks) taskId =
      .ok (scheduler.assigned .running manifest (fail scheduler.plan tasks taskId)) := by
  unfold markFailed
  rw [statusOf_assigned listed, started]
  simp only [bind, Except.bind, refuse, ne_eq, not_true_eq_false, if_false, pure, Except.pure]
  congr 2
  unfold assigned
  rw [List.map_map]
  refine List.map_congr_left fun task _ => ?_
  unfold fail
  rw [Function.comp_apply]
  by_cases same : task.taskId = taskId
  · rw [if_pos same, if_pos same]
  · rw [if_neg same, if_neg same]
    by_cases down : ReflTransGen scheduler.plan.Needs taskId task.taskId ∧
        (tasks task.taskId = .pending ∨ tasks task.taskId = .ready)
    · rw [if_pos down, if_pos ⟨mem_downstream.mpr down.1, down.2⟩]
    · rw [if_neg down, if_neg fun both => down ⟨mem_downstream.mp both.1, both.2⟩]

/-- **The next ready task** is the first of the plan that is ready. -/
theorem nextReady_assigned (unique : scheduler.plan.taskIds.Nodup) :
    scheduler.nextReady (scheduler.assigned status manifest tasks) =
      .ok (scheduler.plan.tasks.find? fun task => tasks task.taskId = .ready) := by
  unfold nextReady assigned
  rw [List.find?_map]
  cases found : scheduler.plan.tasks.find? fun task => tasks task.taskId = .ready with
  | none =>
    have same : scheduler.plan.tasks.find? ((fun item : TaskStateRecord =>
        decide (item.status = .ready)) ∘ fun task => ⟨task.taskId, tasks task.taskId⟩) = none :=
      found
    rw [same]
    rfl
  | some task =>
    have same : scheduler.plan.tasks.find? ((fun item : TaskStateRecord =>
        decide (item.status = .ready)) ∘ fun task => ⟨task.taskId, tasks task.taskId⟩) =
          some task := found
    rw [same]
    show some <$> scheduler.taskOf task.taskId = _
    rw [taskOf_eq unique (List.mem_of_find?_eq_some found)]
    rfl

end DeterministicScheduler

end Audisor.Builder
