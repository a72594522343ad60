/-
**The order of the tasks of a plan.**

* `PlannedTask` — a task as the planning worker returns it, before its ids are checked.
* `deterministicTopologicalOrder` — the checks, the counts and the order, as an instance of Kahn's
  algorithm over the keys `(casefold, id)`.
* `WellFormed` — the lists of tasks that have an order; `TopologicalOrder` — what the order is.
* **`order_correct`** — an order exists exactly for the well-formed lists; it is topological, greedy, and
  the same for every permutation of the tasks and of their dependencies.
-/

import Mathlib.Data.Char
import Mathlib.Data.Prod.Lex
import Mathlib.Data.List.Lex
import Audisor.Builder.Scheduler
import Audisor.Graph.Kahn

namespace Audisor.Builder

open Checked Graph Relation

/-! ### Tasks -/

/-- **A task of the planning worker.** -/
structure PlannedTask (γ : Type) where
  taskId : String
  dependsOn : List String
  /-- The title, the prompt, the expected outputs and the validation. -/
  content : γ

/-- What the order of the tasks raises. -/
inductive PlanningError where
  | valueError (message : String)
  | dependencyValidationError (message : String)
  deriving DecidableEq

/-- `validate_safe_identifier(value, field_name)`. -/
def validateSafeIdentifier (value fieldName : String) : Except PlanningError Unit := do
  refuse (matchesSafeIdentifier value.toList = false)
    (.valueError (fieldName ++ " must be a safe identifier"))
  refuse (windowsReservedNames.contains ((casefold value).takeWhile (· ≠ '.')) = true)
    (.valueError (fieldName ++ " uses a reserved Windows name"))

variable {γ : Type}

/-- The loop over the ids of the tasks, after some of them. -/
def checkIds (seen : List (List Char)) : List (PlannedTask γ) → Except PlanningError Unit
  | [] => .ok ()
  | task :: rest => do
    validateSafeIdentifier task.taskId "task_id"
    refuse (seen.contains (casefold task.taskId) = true)
      (.dependencyValidationError "task IDs must be unique on Windows")
    checkIds (seen ++ [casefold task.taskId]) rest

/-- `adjacency` and `indegree`. -/
structure Counts where
  adjacency : String → List String := fun _ => []
  indegree : String → Int := fun _ => 0

def Counts.add (counts : Counts) (task dependency : String) : Counts :=
  { adjacency := Function.update counts.adjacency dependency (counts.adjacency dependency ++ [task])
    indegree := Function.update counts.indegree task (counts.indegree task + 1) }

/-- The loop over the dependencies of a task, after some of them. -/
def checkDependencies (known : List String) (task : String) (seen : List (List Char))
    (counts : Counts) : List String → Except PlanningError Counts
  | [] => .ok counts
  | dependency :: rest => do
    validateSafeIdentifier dependency "dependency task_id"
    refuse (seen.contains (casefold dependency) = true)
      (.dependencyValidationError ("task " ++ task ++ " contains a repeated dependency"))
    refuse (dependency = task)
      (.dependencyValidationError ("task " ++ task ++ " cannot depend on itself"))
    refuse (dependency ∉ known)
      (.dependencyValidationError ("task " ++ task ++ " depends on an unknown task"))
    checkDependencies known task (seen ++ [casefold dependency]) (counts.add task dependency) rest

def countDependencies (known : List String) (counts : Counts) :
    List (PlannedTask γ) → Except PlanningError Counts
  | [] => .ok counts
  | task :: rest => do
    let counts ← checkDependencies known task.taskId [] counts task.dependsOn
    countDependencies known counts rest

/-- `(value.casefold(), value)`. -/
def orderKey (id : String) : List Char ×ₗ List Char := toLex (casefold id, id.toList)

/-- `tasks_by_id[task_id]`: the ids are distinct. -/
def taskNamed (tasks : List (PlannedTask γ)) (id : String) : Option (PlannedTask γ) :=
  tasks.find? fun task => task.taskId = id

def PlannedTask.sorted (task : PlannedTask γ) : PlannedTask γ :=
  { task with
    dependsOn := task.dependsOn.mergeSort fun first second => orderKey first ≤ orderKey second }

def taskIds (tasks : List (PlannedTask γ)) : List String := tasks.map PlannedTask.taskId

/-- `indegree` is zero: the sort starts with the roots. -/
def Counts.start (counts : Counts) (ids : List String) : Sorting String :=
  { available := ids.filter fun id => counts.indegree id = 0, indegree := counts.indegree
    ordered := [] }

/-- **`deterministic_topological_order(tasks)`.** -/
def deterministicTopologicalOrder (tasks : List (PlannedTask γ)) :
    Except PlanningError (List (PlannedTask γ)) := do
  refuse (tasks.isEmpty = true) (.dependencyValidationError "ready plan has no tasks")
  checkIds [] tasks
  let counts ← countDependencies (taskIds tasks) {} tasks
  let start := counts.start (taskIds tasks)
  refuse (start.available = []) (.dependencyValidationError "dependency cycle leaves no root task")
  let orderedIds := (start.run orderKey counts.adjacency tasks.length).ordered
  refuse (orderedIds.length ≠ tasks.length) (.dependencyValidationError "dependency cycle detected")
  return orderedIds.filterMap fun id => (taskNamed tasks id).map PlannedTask.sorted

/-! ### The checks -/

theorem validateSafeIdentifier_ok {value fieldName : String} :
    validateSafeIdentifier value fieldName = .ok () ↔ isSafeIdentifier value = true := by
  rw [validateSafeIdentifier, then_eq_ok]
  simp only [refuse_eq_ok, isSafeIdentifier, Bool.and_eq_true, Bool.not_eq_true',
    Bool.not_eq_false, Bool.not_eq_true]

theorem checkIds_ok {seen : List (List Char)} {tasks : List (PlannedTask γ)} :
    checkIds seen tasks = .ok () ↔
      (∀ task ∈ tasks, isSafeIdentifier task.taskId = true) ∧
        ((taskIds tasks).map casefold).Nodup ∧ ∀ id ∈ taskIds tasks, casefold id ∉ seen := by
  induction tasks generalizing seen with
  | nil => simp [checkIds, taskIds]
  | cons task rest ih =>
    simp only [checkIds, then_eq_ok, refuse_eq_ok, validateSafeIdentifier_ok, ih, taskIds,
      List.map_cons, List.nodup_cons, List.forall_mem_cons, List.mem_append,
      List.mem_singleton, List.mem_map]
    grind

/-- **Dependencies that a task may have**: safe, known, other than the task, and not repeated. -/
structure Clean (known : List String) (task : String) (dependencies : List String) : Prop where
  safe : ∀ dependency ∈ dependencies, isSafeIdentifier dependency = true
  known : ∀ dependency ∈ dependencies, dependency ∈ known
  other : ∀ dependency ∈ dependencies, dependency ≠ task
  unrepeated : (dependencies.map casefold).Nodup

theorem checkDependencies_ok {known : List String} {task : String} {seen : List (List Char)}
    {counts counted : Counts} {dependencies : List String} :
    checkDependencies known task seen counts dependencies = .ok counted ↔
      (Clean known task dependencies ∧ ∀ dependency ∈ dependencies, casefold dependency ∉ seen) ∧
        counted = dependencies.foldl (fun counts => counts.add task) counts := by
  induction dependencies generalizing seen counts with
  | nil =>
    rw [checkDependencies, List.foldl_nil, Except.ok.injEq]
    refine ⟨fun same => ⟨⟨⟨?_, ?_, ?_, List.nodup_nil⟩, List.forall_mem_nil _⟩, same.symm⟩,
      fun clean => clean.2.symm⟩ <;> exact List.forall_mem_nil _
  | cons dependency rest ih =>
    simp only [checkDependencies, then_eq_ok, refuse_eq_ok, validateSafeIdentifier_ok, ih, not_not,
      List.contains_iff_mem, List.foldl_cons, List.mem_append, List.mem_singleton,
      List.forall_mem_cons]
    constructor
    · rintro ⟨safe, fresh, other, known, ⟨clean, apart⟩, same⟩
      refine ⟨⟨⟨List.forall_mem_cons.mpr ⟨safe, clean.safe⟩,
        List.forall_mem_cons.mpr ⟨known, clean.known⟩,
        List.forall_mem_cons.mpr ⟨other, clean.other⟩, ?_⟩, fresh, fun next member => ?_⟩, same⟩
      · rw [List.map_cons, List.nodup_cons]
        refine ⟨fun repeated => ?_, clean.unrepeated⟩
        obtain ⟨next, member, folded⟩ := List.mem_map.mp repeated
        exact apart next member (Or.inr folded)
      · exact fun before => apart next member (Or.inl before)
    · rintro ⟨⟨clean, fresh, apart⟩, same⟩
      obtain ⟨safe, safes⟩ := List.forall_mem_cons.mp clean.safe
      obtain ⟨known, knowns⟩ := List.forall_mem_cons.mp clean.known
      obtain ⟨other, others⟩ := List.forall_mem_cons.mp clean.other
      obtain ⟨single, unrepeated⟩ := List.nodup_cons.mp clean.unrepeated
      refine ⟨safe, fresh, other, known, ⟨⟨safes, knowns, others, unrepeated⟩,
        fun next member => ?_⟩, same⟩
      rintro (before | folded)
      · exact apart next member before
      · exact single (List.mem_map.mpr ⟨next, member, folded⟩)

theorem countDependencies_ok {known : List String} {tasks : List (PlannedTask γ)}
    {counts counted : Counts} :
    countDependencies known counts tasks = .ok counted ↔
      (∀ task ∈ tasks, Clean known task.taskId task.dependsOn) ∧
        counted = tasks.foldl
          (fun counts task => task.dependsOn.foldl (fun counts => counts.add task.taskId) counts)
            counts := by
  induction tasks generalizing counts with
  | nil => simp [countDependencies, eq_comm]
  | cons task rest ih =>
    simp only [countDependencies, bind_eq_ok, checkDependencies_ok, ih, List.foldl_cons,
      List.forall_mem_cons, List.not_mem_nil, not_false_eq_true, implies_true, and_true]
    constructor
    · rintro ⟨_, ⟨clean, rfl⟩, others, same⟩
      exact ⟨⟨clean, others⟩, same⟩
    · rintro ⟨⟨clean, others⟩, same⟩
      exact ⟨_, ⟨clean, rfl⟩, others, same⟩

/-! ### The counts -/

theorem foldl_add {dependencies : List String} (distinct : dependencies.Nodup) (task : String)
    (counts : Counts) :
    (∀ other, (dependencies.foldl (fun counts => counts.add task) counts).adjacency other =
        counts.adjacency other ++ if other ∈ dependencies then [task] else []) ∧
      ∀ id, (dependencies.foldl (fun counts => counts.add task) counts).indegree id =
        counts.indegree id + if id = task then (dependencies.length : Int) else 0 := by
  induction dependencies generalizing counts with
  | nil => simp
  | cons dependency rest ih =>
    obtain ⟨fresh, distinct⟩ := List.nodup_cons.mp distinct
    obtain ⟨adjacency, indegree⟩ := ih distinct (counts.add task dependency)
    constructor
    · intro other
      rw [List.foldl_cons, adjacency]
      by_cases own : other = dependency
      · rw [own, if_neg fresh, if_pos List.mem_cons_self, List.append_nil]
        exact Function.update_self _ _ _
      · have same : (counts.add task dependency).adjacency other = counts.adjacency other :=
          Function.update_of_ne own _ _
        rw [same]
        simp [own]
    · intro id
      rw [List.foldl_cons, indegree, List.length_cons]
      by_cases own : id = task
      · have more : (counts.add task dependency).indegree id = counts.indegree task + 1 := by
          rw [own]
          exact Function.update_self _ _ _
        rw [more, if_pos own, if_pos own, own]
        omega
      · have same : (counts.add task dependency).indegree id = counts.indegree id :=
          Function.update_of_ne own _ _
        rw [same, if_neg own, if_neg own]

def countsOf (tasks : List (PlannedTask γ)) (counts : Counts) : Counts :=
  tasks.foldl
    (fun counts task => task.dependsOn.foldl (fun counts => counts.add task.taskId) counts) counts

/-- **The dependents of an id**, in the order of the tasks. -/
theorem countsOf_adjacency {tasks : List (PlannedTask γ)}
    (distinct : ∀ task ∈ tasks, task.dependsOn.Nodup) (counts : Counts) (other : String) :
    (countsOf tasks counts).adjacency other =
      counts.adjacency other ++ taskIds (tasks.filter fun task => other ∈ task.dependsOn) := by
  induction tasks generalizing counts with
  | nil => simp [countsOf, taskIds]
  | cons task rest ih =>
    obtain ⟨own, others⟩ := List.forall_mem_cons.mp distinct
    have step : countsOf (task :: rest) counts = countsOf rest
        (task.dependsOn.foldl (fun counts => counts.add task.taskId) counts) := rfl
    rw [step, ih others, (foldl_add own task.taskId counts).1, List.append_assoc]
    congr 1
    by_cases needed : other ∈ task.dependsOn <;> simp [taskIds, needed]

/-- **What each task waits for at first.** -/
theorem countsOf_indegree {tasks : List (PlannedTask γ)}
    (distinct : ∀ task ∈ tasks, task.dependsOn.Nodup) (ids : (taskIds tasks).Nodup)
    (counts : Counts) :
    (∀ id ∉ taskIds tasks, (countsOf tasks counts).indegree id = counts.indegree id) ∧
      ∀ task ∈ tasks, (countsOf tasks counts).indegree task.taskId =
        counts.indegree task.taskId + task.dependsOn.length := by
  induction tasks generalizing counts with
  | nil => exact ⟨fun _ _ => rfl, List.forall_mem_nil _⟩
  | cons task rest ih =>
    obtain ⟨own, others⟩ := List.forall_mem_cons.mp distinct
    obtain ⟨fresh, ids⟩ := List.nodup_cons.mp ids
    have step : countsOf (task :: rest) counts = countsOf rest
        (task.dependsOn.foldl (fun counts => counts.add task.taskId) counts) := rfl
    have first := (foldl_add own task.taskId counts).2
    obtain ⟨outside, inside⟩ := ih others ids
      (task.dependsOn.foldl (fun counts => counts.add task.taskId) counts)
    rw [step]
    refine ⟨fun id unlisted => ?_, List.forall_mem_cons.mpr ⟨?_, fun next member => ?_⟩⟩
    · rw [taskIds, List.map_cons, List.mem_cons, not_or] at unlisted
      obtain ⟨apart, unlisted⟩ := unlisted
      rw [outside id unlisted, first, if_neg apart, Int.add_zero]
    · rw [outside _ fresh, first, if_pos rfl]
    · have apart : next.taskId ≠ task.taskId :=
        fun same => fresh (same ▸ List.mem_map_of_mem member)
      rw [inside next member, first, if_neg apart, Int.add_zero]

/-! ### The graph of the tasks -/

def TaskNeeds (tasks : List (PlannedTask γ)) (other id : String) : Prop :=
  ∃ task ∈ tasks, task.taskId = id ∧ other ∈ task.dependsOn

def needsOf (tasks : List (PlannedTask γ)) (id : String) : List String :=
  ((taskNamed tasks id).map PlannedTask.dependsOn).getD []

theorem taskNamed_mem {tasks : List (PlannedTask γ)} (ids : (taskIds tasks).Nodup)
    {task : PlannedTask γ} (member : task ∈ tasks) : taskNamed tasks task.taskId = some task := by
  induction tasks with
  | nil => cases member
  | cons first rest ih =>
    obtain ⟨fresh, ids⟩ := List.nodup_cons.mp ids
    rw [taskNamed, List.find?_cons]
    rcases List.mem_cons.mp member with rfl | member
    · rw [decide_eq_true rfl]
    · have apart : first.taskId ≠ task.taskId :=
        fun same => fresh (same ▸ List.mem_map_of_mem member)
      rw [decide_eq_false apart]
      exact ih ids member

theorem taskNamed_some {tasks : List (PlannedTask γ)} {task : PlannedTask γ} {id : String}
    (found : taskNamed tasks id = some task) : task ∈ tasks ∧ task.taskId = id :=
  ⟨List.mem_of_find?_eq_some found, by simpa using List.find?_some found⟩

theorem needsOf_mem {tasks : List (PlannedTask γ)} (ids : (taskIds tasks).Nodup)
    {task : PlannedTask γ} (member : task ∈ tasks) : needsOf tasks task.taskId = task.dependsOn := by
  rw [needsOf, taskNamed_mem ids member]
  rfl

/-- **The lists of tasks that have an order.** -/
structure WellFormed (tasks : List (PlannedTask γ)) : Prop where
  some : tasks ≠ []
  safe : ∀ task ∈ tasks, isSafeIdentifier task.taskId = true
  distinct : ((taskIds tasks).map casefold).Nodup
  clean : ∀ task ∈ tasks, Clean (taskIds tasks) task.taskId task.dependsOn
  acyclic : ∀ id, ¬ TransGen (TaskNeeds tasks) id id

section

variable {tasks : List (PlannedTask γ)} (distinct : ((taskIds tasks).map casefold).Nodup)
  (clean : ∀ task ∈ tasks, Clean (taskIds tasks) task.taskId task.dependsOn)

include distinct

theorem taskIds_nodup : (taskIds tasks).Nodup := List.Nodup.of_map casefold distinct

theorem taskNeeds_iff {other id : String} :
    Needs (taskIds tasks) (needsOf tasks) other id ↔ TaskNeeds tasks other id := by
  constructor
  · rintro ⟨listed, needed⟩
    obtain ⟨task, member, rfl⟩ := List.mem_map.mp listed
    rw [needsOf_mem (taskIds_nodup distinct) member] at needed
    exact ⟨task, member, rfl, needed⟩
  · rintro ⟨task, member, rfl, needed⟩
    refine ⟨List.mem_map_of_mem member, ?_⟩
    rwa [needsOf_mem (taskIds_nodup distinct) member]

include clean

/-- **The adjacency that is counted is that of the graph.** -/
theorem adjacent_tasks :
    Adjacent (taskIds tasks) (needsOf tasks) (countsOf tasks {}).adjacency := by
  have ids := taskIds_nodup distinct
  have once : ∀ task ∈ tasks, task.dependsOn.Nodup := fun task member =>
    List.Nodup.of_map casefold (clean task member).unrepeated
  have dependents (other : String) : (countsOf tasks {}).adjacency other =
      taskIds (tasks.filter fun task => other ∈ task.dependsOn) := by
    rw [countsOf_adjacency once]
    exact List.nil_append _
  refine ⟨ids, fun id listed => ?_, fun id listed other needed => ?_, fun other => ?_,
    fun other id => ?_⟩
  · obtain ⟨task, member, rfl⟩ := List.mem_map.mp listed
    rw [needsOf_mem ids member]
    exact once task member
  · obtain ⟨task, member, rfl⟩ := List.mem_map.mp listed
    rw [needsOf_mem ids member] at needed
    exact (clean task member).known other needed
  · rw [dependents]
    exact ids.sublist (List.filter_sublist.map _)
  · rw [dependents]
    refine Iff.trans ?_ (taskNeeds_iff distinct).symm
    simp only [taskIds, List.mem_map, List.mem_filter, decide_eq_true_eq, TaskNeeds]
    grind

theorem start_sound :
    Sorting.Sound (taskIds tasks) (needsOf tasks) ((countsOf tasks {}).start (taskIds tasks)) := by
  have ids := taskIds_nodup distinct
  have once : ∀ task ∈ tasks, task.dependsOn.Nodup := fun task member =>
    List.Nodup.of_map casefold (clean task member).unrepeated
  have counted : ∀ id ∈ taskIds tasks,
      (countsOf tasks {}).indegree id = ((needsOf tasks id).length : Int) := by
    intro id listed
    obtain ⟨task, member, rfl⟩ := List.mem_map.mp listed
    rw [(countsOf_indegree once ids {}).2 task member, needsOf_mem ids member]
    exact Int.zero_add _
  refine ⟨?_, fun id member => ?_, fun id listed => ?_, fun id listed => ?_⟩
  · exact ids.filter _
  · exact (List.mem_filter.mp member).1
  · refine (counted id listed).trans ?_
    simp [Counts.start]
  · simp only [Counts.start, List.nil_append, List.mem_filter, decide_eq_true_eq, listed, true_and,
      counted id listed, List.not_mem_nil, imp_false]
    rw [Int.natCast_eq_zero, List.length_eq_zero_iff, List.eq_nil_iff_forall_not_mem]

end

/-! ### The order -/

def sortedIds (tasks : List (PlannedTask γ)) : List String :=
  (((countsOf tasks {}).start (taskIds tasks)).run orderKey (countsOf tasks {}).adjacency
    tasks.length).ordered

def tasksNamed (tasks : List (PlannedTask γ)) (ids : List String) : List (PlannedTask γ) :=
  ids.filterMap fun id => (taskNamed tasks id).map PlannedTask.sorted

theorem orderKey_injective : Function.Injective orderKey := fun first second same =>
  String.toList_injective (congrArg Prod.snd (toLex.injective same))

section

variable {tasks : List (PlannedTask γ)} (distinct : ((taskIds tasks).map casefold).Nodup)
  (clean : ∀ task ∈ tasks, Clean (taskIds tasks) task.taskId task.dependsOn)

include distinct clean

/-- **The ids are sorted greedily, and completely where there is no cycle.** -/
theorem sortedIds_greedy :
    (sortedIds tasks).Subperm (taskIds tasks) ∧
      Greedy orderKey (· ∈ taskIds tasks) (TaskNeeds tasks) (sortedIds tasks) ∧
        ((sortedIds tasks).length = tasks.length ↔ ∀ id, ¬ TransGen (TaskNeeds tasks) id id) := by
  have graph : Needs (taskIds tasks) (needsOf tasks) = TaskNeeds tasks :=
    funext fun other => funext fun id => propext (taskNeeds_iff distinct)
  have count : (taskIds tasks).length = tasks.length := List.length_map _
  have begins : Greedy orderKey (· ∈ taskIds tasks) (Needs (taskIds tasks) (needsOf tasks))
      ((countsOf tasks {}).start (taskIds tasks)).ordered := greedy_nil
  obtain ⟨sound, done, greedy⟩ := Sorting.run_greedy (adjacent_tasks distinct clean)
    (start_sound distinct clean) begins (Nat.le_of_eq count)
  have complete := Sorting.run_complete_iff (adjacent_tasks distinct clean) sound done greedy
  rw [graph] at greedy complete
  rw [count] at complete
  have within := sound.distinct.subperm sound.inside
  rw [done, List.append_nil] at within
  exact ⟨within, greedy, complete⟩

omit distinct clean in
theorem start_available (some : tasks ≠ []) (complete : (sortedIds tasks).length = tasks.length) :
    ((countsOf tasks {}).start (taskIds tasks)).available ≠ [] := by
  intro none
  have idle : sortedIds tasks = [] := by
    have waiting : ∀ fuel, (((countsOf tasks {}).start (taskIds tasks)).run orderKey
        (countsOf tasks {}).adjacency fuel).ordered = [] := by
      intro fuel
      cases fuel with
      | zero => rfl
      | succ fuel =>
        rw [Sorting.run, none]
        rfl
    exact waiting tasks.length
  rw [idle] at complete
  exact some (List.eq_nil_of_length_eq_zero complete.symm)

end

/-- **The order of a list of tasks**: it exists exactly where the list is well-formed. -/
theorem order_ok {tasks result : List (PlannedTask γ)} :
    deterministicTopologicalOrder tasks = .ok result ↔
      WellFormed tasks ∧ tasksNamed tasks (sortedIds tasks) = result := by
  have counted {counts : Counts} : countDependencies (taskIds tasks) {} tasks = .ok counts ↔
      (∀ task ∈ tasks, Clean (taskIds tasks) task.taskId task.dependsOn) ∧
        counts = countsOf tasks {} := countDependencies_ok
  rw [deterministicTopologicalOrder, then_eq_ok, then_eq_ok, bind_eq_ok, checkIds_ok, refuse_eq_ok,
    Bool.not_eq_true, List.isEmpty_eq_false_iff]
  constructor
  · rintro ⟨some, ⟨safe, distinct, _⟩, counts, listed, rest⟩
    obtain ⟨clean, rfl⟩ := counted.mp listed
    obtain ⟨_, rest⟩ := then_eq_ok.mp rest
    obtain ⟨complete, rest⟩ := then_eq_ok.mp rest
    rw [refuse_eq_ok, ne_eq, not_not] at complete
    exact ⟨⟨some, safe, distinct, clean, (sortedIds_greedy distinct clean).2.2.mp complete⟩,
      pure_eq_ok.mp rest⟩
  · rintro ⟨⟨some, safe, distinct, clean, acyclic⟩, rfl⟩
    have complete := (sortedIds_greedy distinct clean).2.2.mpr acyclic
    refine ⟨some, ⟨safe, distinct, fun _ _ => List.not_mem_nil⟩, _, counted.mpr ⟨clean, rfl⟩, ?_⟩
    refine then_eq_ok.mpr ⟨refuse_eq_ok.mpr (start_available some complete),
      then_eq_ok.mpr ⟨refuse_eq_ok.mpr (not_not.mpr complete), rfl⟩⟩

/-! ### What the order is -/

/-- **A greedy topological order of the tasks**, each with its dependencies sorted. -/
structure TopologicalOrder (tasks result : List (PlannedTask γ)) : Prop where
  complete : result.Perm (tasks.map PlannedTask.sorted)
  ordered : ∀ earlier task later, result = earlier ++ task :: later →
    ∀ dependency ∈ task.dependsOn, dependency ∈ taskIds earlier
  greedy : ∀ earlier task later, result = earlier ++ task :: later →
    ∀ other ∈ tasks, other.taskId ∉ taskIds earlier →
      (∀ dependency ∈ other.dependsOn, dependency ∈ taskIds earlier) →
        other.taskId = task.taskId ∨ casefold task.taskId < casefold other.taskId

theorem PlannedTask.mem_sorted {task : PlannedTask γ} {dependency : String} :
    dependency ∈ task.sorted.dependsOn ↔ dependency ∈ task.dependsOn :=
  (List.mergeSort_perm _ _).mem_iff

theorem tasksNamed_ids {tasks : List (PlannedTask γ)} {ids : List String}
    (listed : ∀ id ∈ ids, id ∈ taskIds tasks) : taskIds (tasksNamed tasks ids) = ids := by
  induction ids with
  | nil => rfl
  | cons id rest ih =>
    obtain ⟨here, listed⟩ := List.forall_mem_cons.mp listed
    have found : (taskNamed tasks id).isSome = true := by
      obtain ⟨task, member, rfl⟩ := List.mem_map.mp here
      exact List.find?_isSome.mpr ⟨task, member, decide_eq_true rfl⟩
    obtain ⟨task, found⟩ := Option.isSome_iff_exists.mp found
    have same : tasksNamed tasks (id :: rest) = task.sorted :: tasksNamed tasks rest := by
      rw [tasksNamed, List.filterMap_cons, found]
      rfl
    rw [same, taskIds, List.map_cons]
    exact congrArg₂ List.cons (taskNamed_some found).2 (ih listed)

theorem tasksNamed_perm {tasks : List (PlannedTask γ)} {ids : List String}
    (distinct : (taskIds tasks).Nodup) (all : ids.Perm (taskIds tasks)) :
    (tasksNamed tasks ids).Perm (tasks.map PlannedTask.sorted) := by
  refine (all.filterMap _).trans (List.Perm.of_eq ?_)
  rw [taskIds, List.filterMap_map, ← List.filterMap_eq_map]
  refine List.filterMap_congr fun task member => ?_
  rw [Function.comp_apply, taskNamed_mem distinct member]
  rfl

/-- **The result is a greedy topological order.** -/
theorem WellFormed.topological {tasks : List (PlannedTask γ)} (wellFormed : WellFormed tasks) :
    TopologicalOrder tasks (tasksNamed tasks (sortedIds tasks)) := by
  obtain ⟨_, _, distinct, clean, acyclic⟩ := wellFormed
  obtain ⟨within, greedy, complete⟩ := sortedIds_greedy distinct clean
  have count : (taskIds tasks).length = tasks.length := List.length_map _
  have all : (sortedIds tasks).Perm (taskIds tasks) :=
    within.perm_of_length_le (by rw [count, complete.mpr acyclic])
  have ids := tasksNamed_ids fun id member => all.mem_iff.mp member
  have whole := tasksNamed_perm (taskIds_nodup distinct) all
  have place {earlier task later}
      (split : tasksNamed tasks (sortedIds tasks) = earlier ++ task :: later) :
      sortedIds tasks = taskIds earlier ++ task.taskId :: taskIds later := by
    rw [← ids, split, taskIds, List.map_append, List.map_cons]
    rfl
  refine ⟨whole, fun earlier task later split dependency needed => ?_,
    fun earlier task later split other member unplaced placed => ?_⟩
  · have among : task ∈ tasks.map PlannedTask.sorted :=
      whole.mem_iff.mp (split ▸ List.mem_append_right _ List.mem_cons_self)
    obtain ⟨original, member, rfl⟩ := List.mem_map.mp among
    exact greedy.ordered _ _ _ (place split) dependency
      ⟨original, member, rfl, PlannedTask.mem_sorted.mp needed⟩
  · obtain ⟨own, least⟩ := greedy _ _ _ (place split)
    have ready : Ready (· ∈ taskIds tasks) (TaskNeeds tasks) (taskIds earlier) other.taskId := by
      refine ⟨List.mem_map_of_mem member, unplaced, ?_⟩
      rintro dependency ⟨task, listed, same, needed⟩
      obtain rfl := (List.inj_on_of_nodup_map (taskIds_nodup distinct)) listed member same
      exact placed dependency needed
    rcases Prod.Lex.toLex_le_toLex.mp (least _ ready) with before | ⟨same, _⟩
    · exact Or.inr before
    · exact Or.inl (List.inj_on_of_nodup_map distinct ready.1 own.1 same.symm)

/-! ### Permutations -/

/-- The same task, with its dependencies in some order. -/
structure SameTask (first second : PlannedTask γ) : Prop where
  taskId : first.taskId = second.taskId
  content : first.content = second.content
  dependsOn : first.dependsOn.Perm second.dependsOn

/-- **A permutation of the tasks, and of the dependencies of each.** -/
def Shuffled (tasks others : List (PlannedTask γ)) : Prop :=
  ∃ moved, tasks.Perm moved ∧ List.Forall₂ SameTask moved others

theorem SameTask.sorted {first second : PlannedTask γ} (same : SameTask first second) :
    first.sorted = second.sorted := by
  obtain ⟨taskId, content, dependsOn⟩ := same
  have order : (first.dependsOn.mergeSort fun one two => orderKey one ≤ orderKey two) =
      second.dependsOn.mergeSort fun one two => orderKey one ≤ orderKey two := by
    have sorted (ids : List String) :
        (ids.mergeSort fun one two => orderKey one ≤ orderKey two).Pairwise
          fun one two => decide (orderKey one ≤ orderKey two) = true :=
      List.pairwise_mergeSort
        (fun one two three before behind => by
          simp only [decide_eq_true_eq] at before behind ⊢
          exact before.trans behind)
        (fun one two => by simpa using le_total (orderKey one) (orderKey two)) ids
    refine List.Perm.eq_of_pairwise (fun one two _ _ before behind => ?_) (sorted _) (sorted _)
      ((List.mergeSort_perm _ _).trans (dependsOn.trans (List.mergeSort_perm _ _).symm))
    simp only [decide_eq_true_eq] at before behind
    exact orderKey_injective (le_antisymm before behind)
  cases first
  cases second
  simp only at taskId content order
  simp only [PlannedTask.sorted, taskId, content, order]

theorem sameTasks_ids {first second : List (PlannedTask γ)}
    (same : List.Forall₂ SameTask first second) : taskIds first = taskIds second := by
  induction same with
  | nil => rfl
  | cons here _ ih => exact congrArg₂ List.cons here.taskId ih

section

variable {tasks others : List (PlannedTask γ)} (shuffled : Shuffled tasks others)

include shuffled

theorem Shuffled.ids : (taskIds others).Perm (taskIds tasks) := by
  obtain ⟨moved, perm, same⟩ := shuffled
  rw [← sameTasks_ids same]
  exact (perm.map _).symm

theorem Shuffled.back {other : PlannedTask γ} (member : other ∈ others) :
    ∃ task ∈ tasks, SameTask task other := by
  obtain ⟨moved, perm, same⟩ := shuffled
  obtain ⟨task, among, here⟩ := exists_mem_of_forall₂ same member
  exact ⟨task, perm.mem_iff.mpr among, here⟩

theorem Shuffled.forth {task : PlannedTask γ} (member : task ∈ tasks) :
    ∃ other ∈ others, SameTask task other := by
  obtain ⟨moved, perm, same⟩ := shuffled
  obtain ⟨other, among, here⟩ := exists_mem_of_forall₂ same.flip (perm.mem_iff.mp member)
  exact ⟨other, among, here⟩

theorem Shuffled.needs : TaskNeeds others = TaskNeeds tasks := by
  funext needed id
  refine propext ⟨?_, ?_⟩
  · rintro ⟨other, member, rfl, among⟩
    obtain ⟨task, listed, same⟩ := shuffled.back member
    exact ⟨task, listed, same.taskId, same.dependsOn.mem_iff.mpr among⟩
  · rintro ⟨task, member, rfl, among⟩
    obtain ⟨other, listed, same⟩ := shuffled.forth member
    exact ⟨other, listed, same.taskId.symm, same.dependsOn.mem_iff.mp among⟩

theorem Shuffled.wellFormed (wellFormed : WellFormed tasks) : WellFormed others := by
  obtain ⟨some, safe, distinct, clean, acyclic⟩ := wellFormed
  refine ⟨fun none => ?_, fun other member => ?_, ?_, fun other member => ?_, ?_⟩
  · obtain ⟨task, member⟩ := List.exists_mem_of_ne_nil _ some
    obtain ⟨other, listed, _⟩ := shuffled.forth member
    rw [none] at listed
    cases listed
  · obtain ⟨task, listed, same⟩ := shuffled.back member
    rw [← same.taskId]
    exact safe task listed
  · exact (shuffled.ids.map casefold).nodup_iff.mpr distinct
  · obtain ⟨task, listed, same⟩ := shuffled.back member
    obtain ⟨safes, known, apart, unrepeated⟩ := clean task listed
    refine ⟨fun id among => safes id (same.dependsOn.mem_iff.mpr among),
      fun id among => shuffled.ids.mem_iff.mpr (known id (same.dependsOn.mem_iff.mpr among)),
      fun id among => ?_, (same.dependsOn.map casefold).nodup_iff.mp unrepeated⟩
    rw [← same.taskId]
    exact apart id (same.dependsOn.mem_iff.mpr among)
  · rw [shuffled.needs]
    exact acyclic

/-- **A permutation has the same order.** -/
theorem Shuffled.order (wellFormed : WellFormed tasks) :
    tasksNamed others (sortedIds others) = tasksNamed tasks (sortedIds tasks) := by
  have whole := shuffled.wellFormed wellFormed
  obtain ⟨_, _, distinct, clean, acyclic⟩ := wellFormed
  obtain ⟨_, _, distinct', clean', acyclic'⟩ := whole
  obtain ⟨within, greedy, complete⟩ := sortedIds_greedy distinct clean
  obtain ⟨_, greedy', complete'⟩ := sortedIds_greedy distinct' clean'
  have nodes : (· ∈ taskIds others) = (· ∈ taskIds tasks) :=
    funext fun id => propext shuffled.ids.mem_iff
  have count : others.length = tasks.length := by
    have lengths := shuffled.ids.length_eq
    rwa [taskIds, taskIds, List.length_map, List.length_map] at lengths
  rw [nodes, shuffled.needs] at greedy'
  have same : sortedIds others = sortedIds tasks :=
    greedy'.unique (fun _ _ _ _ keys => orderKey_injective keys) greedy
      (by rw [complete'.mpr acyclic', complete.mpr acyclic, count])
  rw [same]
  refine List.filterMap_congr fun id listed => ?_
  obtain ⟨task, member, rfl⟩ := List.mem_map.mp (within.subset listed)
  obtain ⟨other, among, twin⟩ := shuffled.forth member
  rw [taskNamed_mem (taskIds_nodup distinct) member, twin.taskId,
    taskNamed_mem (taskIds_nodup distinct') among, Option.map_some, Option.map_some, twin.sorted]

end

/-- **`deterministic_topological_order` is correct**: it succeeds exactly on the well-formed lists, with a
greedy topological order of the tasks, which is the same for every permutation. -/
theorem order_correct (tasks : List (PlannedTask γ)) :
    ((∃ result, deterministicTopologicalOrder tasks = .ok result) ↔ WellFormed tasks) ∧
      ∀ result, deterministicTopologicalOrder tasks = .ok result →
        TopologicalOrder tasks result ∧
          ∀ others, Shuffled tasks others → deterministicTopologicalOrder others = .ok result := by
  refine ⟨⟨fun ⟨result, ordered⟩ => (order_ok.mp ordered).1,
    fun wellFormed => ⟨_, order_ok.mpr ⟨wellFormed, rfl⟩⟩⟩, fun result ordered => ?_⟩
  obtain ⟨wellFormed, rfl⟩ := order_ok.mp ordered
  refine ⟨wellFormed.topological, fun others shuffled => ?_⟩
  exact order_ok.mpr ⟨shuffled.wellFormed wellFormed, shuffled.order wellFormed⟩

end Audisor.Builder
