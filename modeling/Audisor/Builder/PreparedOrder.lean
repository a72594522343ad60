/-
**Prepared plans run in the order in which they were prepared.**

* **`canonical_iff`** — the order check of `load` passes what `deterministic_topological_order` returns.
* `BuildPlan.rows` — the ids of a plan, task by task, as the preparation handles them.
* `ordered_of_planned`, `prepared_of_planned` — a plan with the tasks that `deterministic_topological_order`
  returns is prepared, and in order.
* `runTasks_sublist` — along the loop, the tasks that start stand in the order of the plan.
* **`runs_as_planned`** — so does the whole run, and it leaves out only what a failure blocks.
-/

import Audisor.Builder.Reconciliation
import Audisor.Builder.Schedules
import Audisor.Builder.TaskOrder

namespace Audisor.Builder

open Checked Graph Relation DeterministicScheduler

variable {γ : Type}

/-- **A plan is in its own order exactly where it is the order of some plan**: what is published is what
can be loaded. -/
theorem canonical_iff (tasks : List (PlannedTask γ)) :
    deterministicTopologicalOrder tasks = .ok tasks ↔
      ∃ planned, deterministicTopologicalOrder planned = .ok tasks := by
  refine ⟨fun ordered => ⟨tasks, ordered⟩, fun ⟨planned, ordered⟩ => ?_⟩
  obtain ⟨wellFormed, rfl⟩ := order_ok.mp ordered
  have sorted : List.Forall₂ SameTask (planned.map PlannedTask.sorted) planned :=
    List.forall₂_map_left_iff.mpr (List.forall₂_same.mpr fun _ _ => ⟨rfl, rfl, List.mergeSort_perm _ _⟩)
  obtain ⟨moved, same, perm⟩ := List.perm_comp_forall₂ wellFormed.topological.complete sorted
  have shuffled : Shuffled planned (tasksNamed planned (sortedIds planned)) :=
    ⟨moved, perm.symm, same.flip.imp fun _ _ ⟨taskId, content, dependsOn⟩ =>
      ⟨taskId.symm, content.symm, dependsOn.symm⟩⟩
  exact order_ok.mpr ⟨shuffled.wellFormed wellFormed, shuffled.order wellFormed⟩

section

variable {planned result : List (PlannedTask γ)} {plan : BuildPlan}

/-! ### From the planning worker to the plan -/

def BuildPlan.rows (plan : BuildPlan) : List (String × List String) :=
  plan.tasks.map fun task => (task.taskId.value, task.dependsOn.map SafeIdentifier.value)

theorem SafeIdentifier.value_injective : Function.Injective SafeIdentifier.value := by
  rintro ⟨value, _⟩ ⟨_, _⟩ same
  cases same
  rfl

theorem rows_ids (same : plan.rows = result.map fun task => (task.taskId, task.dependsOn)) :
    plan.taskIds.map SafeIdentifier.value = taskIds result := by
  have ids := congrArg (List.map Prod.fst) same
  rw [BuildPlan.rows, List.map_map, List.map_map] at ids
  rw [BuildPlan.taskIds, List.map_map]
  exact ids

variable (ordered : deterministicTopologicalOrder planned = .ok result)
  (same : plan.rows = result.map fun task => (task.taskId, task.dependsOn))

include ordered same

theorem unique_of_planned : (plan.tasks.map fun task => task.taskId.folded).Nodup := by
  obtain ⟨wellFormed, rfl⟩ := order_ok.mp ordered
  have shuffled := wellFormed.topological.complete.map PlannedTask.taskId
  rw [List.map_map] at shuffled
  have folded := (shuffled.map casefold).nodup_iff.mpr wellFormed.distinct
  rw [show (plan.tasks.map fun task => task.taskId.folded) =
    (plan.taskIds.map SafeIdentifier.value).map casefold by
      rw [BuildPlan.taskIds, List.map_map, List.map_map]; rfl, rows_ids same]
  exact folded

/-- **The plan is in order**: each task stands behind all that it depends on. -/
theorem ordered_of_planned : Ordered plan.Needs plan.taskIds := by
  obtain ⟨wellFormed, rfl⟩ := order_ok.mp ordered
  intro earlier node later split other edge
  obtain ⟨front, back, cut, rfl, behind⟩ := List.map_eq_append_iff.mp split
  obtain ⟨task, rest, rfl, rfl, rfl⟩ := List.map_eq_cons_iff.mp behind
  rw [BuildPlan.rows, cut, List.map_append, List.map_cons] at same
  obtain ⟨front', back', cut', ids, behind'⟩ := List.map_eq_append_iff.mp same.symm
  obtain ⟨task', rest', rfl, own, -⟩ := List.map_eq_cons_iff.mp behind'
  obtain ⟨-, needs⟩ := Prod.mk.inj own
  have unique := nodup_taskIds (unique_of_planned ordered (by rw [BuildPlan.rows, cut,
    List.map_append, List.map_cons, same]))
  have needed : other.value ∈ task'.dependsOn := by
    rw [needs]
    exact List.mem_map_of_mem ((needs_iff unique (cut ▸ List.mem_append_right _
      List.mem_cons_self)).mp edge)
  have before := wellFormed.topological.ordered front' task' rest' cut' _ needed
  obtain ⟨source, among, value⟩ := List.mem_map.mp before
  have pair : (source.taskId, source.dependsOn) ∈
      front.map fun task => (task.taskId.value, task.dependsOn.map SafeIdentifier.value) :=
    ids ▸ List.mem_map_of_mem among
  obtain ⟨listed, member, equal⟩ := List.mem_map.mp pair
  have id : listed.taskId.value = other.value := (Prod.mk.inj equal).1.trans value
  exact List.mem_map.mpr ⟨listed, member, SafeIdentifier.value_injective id⟩

theorem prepared_of_planned (few : plan.tasks.length ≤ 256) : plan.Prepared where
  some none := by
    obtain ⟨wellFormed, rfl⟩ := order_ok.mp ordered
    have shuffled := wellFormed.topological.complete
    rw [BuildPlan.rows, none] at same
    rw [List.map_eq_nil_iff.mp same.symm] at shuffled
    exact wellFormed.some (List.map_eq_nil_iff.mp (List.nil_perm.mp shuffled))
  few := few
  unique := unique_of_planned ordered same
  known task listed dependency needed := by
    have unique := nodup_taskIds (unique_of_planned ordered same)
    obtain ⟨earlier, later, split⟩ := List.append_of_mem (List.mem_map_of_mem listed)
    have before := ordered_of_planned ordered same earlier task.taskId later split dependency
      ((needs_iff unique listed).mpr needed)
    have among : dependency ∈ plan.tasks.map BuildTask.taskId := by
      rw [split]
      exact List.mem_append_left _ before
    exact among
  acyclic := (ordered_of_planned ordered same).acyclic fun _ _ => mem_taskIds_of_needs

end

/-! ### The loop -/

section

variable {scheduler : DeterministicScheduler} {succeeds : SafeIdentifier → Bool} {tasks : Assignment}
  {rounds : List Round}

/-- Where no task of a front part of the plan is ready, none of it is pending. -/
theorem settled_front (ordered : Ordered scheduler.plan.Needs scheduler.plan.taskIds)
    (coherent : Coherent scheduler.plan tasks)
    (calm : ∀ node ∈ scheduler.plan.taskIds, tasks node ≠ .running) (front : List SafeIdentifier) :
    front <+: scheduler.plan.taskIds → (∀ node ∈ front, tasks node ≠ .ready) →
      ∀ node ∈ front, tasks node ≠ .pending := by
  induction front using List.reverseRecOn with
  | nil => exact fun _ _ => List.forall_mem_nil _
  | append_singleton front last ih =>
    rintro ⟨rest, split⟩ idle
    obtain ⟨idle, idle'⟩ := List.forall_mem_append.mp idle
    rw [List.append_assoc] at split
    have settled := ih ⟨_, split⟩ idle
    refine List.forall_mem_append.mpr ⟨settled, List.forall_mem_singleton.mpr fun pending => ?_⟩
    have among : ∀ {node}, node ∈ front ++ ([last] ++ rest) → node ∈ scheduler.plan.taskIds := split ▸ id
    have own : last ∈ scheduler.plan.taskIds := among (List.mem_append_right _ List.mem_cons_self)
    obtain ⟨other, edge, incomplete⟩ := coherent.waits last own pending
    have before := ordered front last rest split.symm other edge
    have listed := among (List.mem_append_left _ before)
    have free := coherent.free other last edge pending
    unfold TaskStatus.Stuck at free
    have calm := calm other listed
    have whole := coherent.whole other listed
    have settled := settled other before
    have idle := idle other before
    cases held : tasks other <;> simp_all

/-- **The loop starts the tasks in the order of the plan**: what it passes over it never starts. -/
theorem runTasks_sublist (prepared : scheduler.plan.Prepared)
    (ordered : Ordered scheduler.plan.Needs scheduler.plan.taskIds) {fuel : Nat}
    (ran : scheduler.runTasks succeeds fuel (scheduler.running tasks) = .ok (some rounds))
    (coherent : Coherent scheduler.plan tasks)
    (calm : ∀ node ∈ scheduler.plan.taskIds, tasks node ≠ .running) :
    (startedIds rounds).Sublist (unfinished scheduler.plan tasks) := by
  induction fuel generalizing tasks rounds with
  | zero => cases ran
  | succ fuel ih =>
    have next := @nextReady_assigned scheduler .running none tasks (nodup_taskIds prepared.unique)
    unfold runTasks at ran
    rw [next] at ran
    cases found : scheduler.plan.tasks.find? fun task => tasks task.taskId = .ready with
    | none =>
      rw [found] at ran
      obtain rfl := Option.some.inj (Except.ok.inj ran)
      exact List.nil_sublist _
    | some task =>
      obtain ⟨now, earlier, later, cut, idle⟩ := List.find?_eq_some_iff_append.mp found
      have ready := of_decide_eq_true now
      have listed : task ∈ scheduler.plan.tasks := cut ▸ List.mem_append_right _ List.mem_cons_self
      rw [found] at ran
      simp only [bind, Except.bind, runTask_running prepared listed ready] at ran
      obtain ⟨rest, again, ran⟩ := bind_eq_ok.mp ran
      obtain ⟨rounds', rfl, rfl⟩ := Option.map_eq_some_iff.mp (Except.ok.inj ran)
      have settled := @settle_cases scheduler.plan tasks task.taskId succeeds
      have onward := ih again (coherent_settle coherent ready) fun node among => by
        have calm := calm node among
        grind
      have ids : scheduler.plan.taskIds =
          earlier.map BuildTask.taskId ++ task.taskId :: later.map BuildTask.taskId := by
        rw [BuildPlan.taskIds, cut, List.map_append, List.map_cons]
      have asleep : ∀ node ∈ earlier.map BuildTask.taskId, tasks node ≠ .ready := by
        refine List.forall_mem_map.mpr fun other among => ?_
        simpa using idle other among
      have passed := settled_front ordered coherent calm _ ⟨_, ids.symm⟩ asleep
      have kept : List.Sublist (unfinished scheduler.plan (settle scheduler.plan succeeds tasks
          task.taskId)) ((later.map BuildTask.taskId).filter fun node =>
            tasks node = .pending ∨ tasks node = .ready) := by
        unfold unfinished
        rw [ids, List.filter_append, List.filter_cons_of_neg (by grind),
          List.filter_eq_nil_iff.mpr (by grind), List.nil_append]
        exact List.monotone_filter_right _ fun node _ => by grind
      show (task.taskId :: startedIds rounds').Sublist _
      unfold unfinished
      rw [ids, List.filter_append, List.filter_cons_of_pos (by simp [ready])]
      exact ((onward.trans kept).cons_cons _).trans (List.sublist_append_right _ _)

theorem Rounds.completed {last : Assignment} {node : SafeIdentifier}
    (taken : Rounds scheduler succeeds tasks rounds last) (done : last node = .completed) :
    tasks node = .completed ∨ node ∈ startedIds rounds := by
  induction taken with
  | ended => exact .inl done
  | @next tasks last task rounds _ _ _ ih =>
    have settled := @settle_cases scheduler.plan tasks task.taskId succeeds node
    have before := ih done
    show _ ∨ node ∈ task.taskId :: startedIds rounds
    grind

/-- **A round that is cut off** is settled by an interruption unless a task has failed. -/
theorem Rounds.interruptible {last : Assignment} (prepared : scheduler.plan.Prepared)
    (taken : Rounds scheduler succeeds tasks rounds last) (coherent : Coherent scheduler.plan tasks)
    (calm : ∀ node ∈ scheduler.plan.taskIds, tasks node ≠ .running) {before after : List Round}
    {round : Round} (split : rounds = before ++ round :: after) :
    scheduler.validateState (interruptRunning round.started) = .ok () ↔
      (∀ node ∈ scheduler.plan.taskIds, tasks node ≠ .failed) ∧
        ∀ earlier ∈ before, succeeds earlier.task.taskId = true := by
  induction taken generalizing before with
  | ended => simp at split
  | @next tasks last task rounds listed ready rest ih =>
    have own : task.taskId ∈ scheduler.plan.taskIds := mem_taskIds.mpr ⟨task, listed, rfl⟩
    have settled := @settle_cases scheduler.plan tasks task.taskId succeeds
    cases before with
    | nil =>
      obtain ⟨rfl, -⟩ := List.cons.inj split
      have valid := (Rounds.next listed ready rest).valid prepared coherent calm _ List.mem_cons_self
      rw [validateState_interruptRunning valid.1 rfl, interruptible_assigned]
      grind [Function.update_apply]
    | cons first before =>
      obtain ⟨rfl, onward⟩ := List.cons.inj split
      have calm' : ∀ node ∈ scheduler.plan.taskIds,
          settle scheduler.plan succeeds tasks task.taskId node ≠ .running := by grind
      have later := ih (coherent_settle coherent ready) calm' onward
      rw [later, List.forall_mem_cons]
      grind

end

/-- **A published plan runs in its order**, whatever its tasks do: each task in its turn, but for those
behind a failure, which end blocked; without a failure, every task. A run that is cut off can be reconciled
until its first failure. -/
theorem runs_as_planned {planned result : List (PlannedTask γ)} {plan : BuildPlan}
    (ordered : deterministicTopologicalOrder planned = .ok result)
    (same : plan.rows = result.map fun task => (task.taskId, task.dependsOn))
    (few : plan.tasks.length ≤ 256) (executionId : SafeIdentifier)
    (succeeds : SafeIdentifier → Bool) :
    ∃ initial rounds, initialState ⟨plan, executionId⟩ = .ok initial ∧
      (∀ fuel, plan.tasks.length < fuel →
        runTasks ⟨plan, executionId⟩ succeeds fuel initial = .ok (some rounds)) ∧
      (startedIds rounds).Sublist plan.taskIds ∧
      (∀ node ∈ plan.taskIds, node ∉ startedIds rounds →
        (lastState initial rounds).statusOf node = .ok .blocked) ∧
      ((∀ node ∈ plan.taskIds, succeeds node = true) → startedIds rounds = plan.taskIds) ∧
      ∀ before round after, rounds = before ++ round :: after →
        (validateState ⟨plan, executionId⟩ (interruptRunning round.started) = .ok () ↔
          ∀ earlier ∈ before, succeeds earlier.task.taskId = true) := by
  have prepared : plan.Prepared := prepared_of_planned ordered same few
  obtain ⟨rounds, last, walked, taken⟩ := @runTasks_rounds ⟨plan, executionId⟩ succeeds prepared
    (initialTasks plan)
  have coherent := coherent_initial plan
  have initial := @initialTasks_cases plan
  have calm : ∀ node ∈ plan.taskIds, initialTasks plan node ≠ .running := by grind
  obtain ⟨kept, idle⟩ := taken.coherent coherent calm
  have settled := settled_of_idle prepared kept idle
  have blocked : ∀ node ∈ plan.taskIds, node ∉ startedIds rounds → last node = .blocked := by
    intro node listed absent
    have failed : last node = .failed ↔ _ := taken.failed_iff
    have completed : last node = .completed → _ := taken.completed
    have settled := settled node listed
    grind
  have few' : (unfinished plan (initialTasks plan)).length ≤ plan.tasks.length :=
    (List.length_filter_le _ _).trans (List.length_map _).le
  have inOrder : (startedIds rounds).Sublist plan.taskIds :=
    (runTasks_sublist prepared (ordered_of_planned ordered same) (walked _ (Nat.lt_succ_self _))
      coherent calm).trans List.filter_sublist
  refine ⟨_, rounds, initialState_eq prepared, fun fuel enough => walked fuel (few'.trans_lt enough),
    inOrder, fun node listed absent => ?_, fun succeed => ?_, fun before round after split => ?_⟩
  · rw [taken.lastState, statusOf_assigned listed, blocked node listed absent]
  · have all : plan.taskIds ⊆ startedIds rounds := by
      intro node listed
      by_contra absent
      obtain ⟨other, also, failed, -⟩ := (blocked_iff prepared kept settled node listed).mp
        (blocked node listed absent)
      have ended := taken.failed_iff.mp failed
      have succeed := succeed other also
      grind
    exact inOrder.eq_of_length_le (List.subperm_of_subset (nodup_taskIds prepared.unique) all).length_le
  · rw [taken.interruptible prepared coherent calm split]
    exact and_iff_right (by grind)

/-- The chain, planned backwards, with a failure in it. -/
theorem chainPlan_planned : ∃ initial rounds,
    initialState ⟨chainPlan, ⟨"execution-1", by decide⟩⟩ = .ok initial ∧
      runTasks ⟨chainPlan, ⟨"execution-1", by decide⟩⟩ (fun id => id.value ≠ "b") 5 initial =
        .ok (some rounds) ∧ (startedIds rounds).Sublist chainPlan.taskIds := by
  have ordered : deterministicTopologicalOrder
      [⟨"d", [], ()⟩, ⟨"c", ["b"], ()⟩, ⟨"b", ["a"], ()⟩, ⟨"a", [], ()⟩] =
        .ok [⟨"a", [], ()⟩, ⟨"b", ["a"], ()⟩, ⟨"c", ["b"], ()⟩, ⟨"d", [], ()⟩] := by
    with_unfolding_all rfl
  obtain ⟨initial, rounds, starts, walked, sublist, -⟩ := @runs_as_planned Unit _ _ chainPlan
    ordered rfl (by decide) ⟨"execution-1", by decide⟩ fun id => id.value ≠ "b"
  exact ⟨initial, rounds, starts, walked 5 (by decide), sublist⟩

end Audisor.Builder
