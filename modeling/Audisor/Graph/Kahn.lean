/-
**Kahn's algorithm with a priority.**

* `Sorting` — what is available, what each node still waits for, and the order so far. `release`, `place`
  and `run` are the rounds of the algorithm.
* `Ready`, `Greedy` — a node whose needs are all placed; an order that places the least of them each time.
  **`Greedy.unique`** — there is only one such order of a given length.
* `Sound` — the invariant: what is available is what is ready. `Sound.place` — a round keeps it.
* **`run_greedy`** — a run ends with nothing available, in a greedy order.
  **`run_complete_iff`** — it places every node exactly when there is no cycle.
-/

import Mathlib.Data.List.MinMax
import Mathlib.Data.List.Perm.Subperm
import Audisor.Graph.Dependencies

namespace Graph

open Relation

variable {α κ : Type} [DecidableEq α] [LinearOrder κ]

/-! ### The algorithm -/

/-- The state of a sort. -/
structure Sorting (α : Type) where
  available : List α
  indegree : α → Int
  ordered : List α

namespace Sorting

/-- One dependent of a node that has been placed: it is available once it waits for nothing more. -/
def release (state : Sorting α) (dependent : α) : Sorting α :=
  let count := state.indegree dependent - 1
  { state with
    indegree := Function.update state.indegree dependent count
    available := if count = 0 then state.available ++ [dependent] else state.available }

variable (key : α → κ) (adjacency : α → List α)

/-- A node is placed, and its dependents are released in the order of their keys. -/
def place (state : Sorting α) (node : α) : Sorting α :=
  ((adjacency node).mergeSort fun first second => key first ≤ key second).foldl release
    { state with available := state.available.erase node, ordered := state.ordered ++ [node] }

/-- The rounds: each places the least node that is available. -/
def run : Nat → Sorting α → Sorting α
  | 0, state => state
  | fuel + 1, state =>
    match state.available.argmin key with
    | none => state
    | some node => run fuel (state.place key adjacency node)

end Sorting

/-! ### Greedy orders -/

/-- A node that is not placed, and needs nothing else than what is. -/
def Ready (isNode : α → Prop) (needs : α → α → Prop) (placed : List α) (node : α) : Prop :=
  isNode node ∧ node ∉ placed ∧ ∀ other, needs other node → other ∈ placed

/-- **Each node is the least of those that are ready.** -/
def Greedy (key : α → κ) (isNode : α → Prop) (needs : α → α → Prop) (order : List α) : Prop :=
  ∀ earlier node later, order = earlier ++ node :: later →
    Ready isNode needs earlier node ∧
      ∀ other, Ready isNode needs earlier other → key node ≤ key other

section

variable {key : α → κ} {isNode : α → Prop} {needs : α → α → Prop} {order : List α}

omit [DecidableEq α] in
theorem greedy_nil : Greedy key isNode needs [] := by
  intro earlier node later split
  exact absurd split.symm (List.append_ne_nil_of_right_ne_nil _ (List.cons_ne_nil _ _))

omit [DecidableEq α] in
theorem Greedy.concat (greedy : Greedy key isNode needs order) {node : α}
    (ready : Ready isNode needs order node)
    (least : ∀ other, Ready isNode needs order other → key node ≤ key other) :
    Greedy key isNode needs (order ++ [node]) := by
  intro earlier next later split
  rcases List.eq_nil_or_concat later with rfl | ⟨later, last, rfl⟩
  · obtain ⟨rfl, same⟩ := List.append_inj' split rfl
    obtain ⟨rfl, -⟩ := List.cons.inj same
    exact ⟨ready, least⟩
  · rw [List.concat_eq_append, ← List.cons_append, ← List.append_assoc] at split
    obtain ⟨inner, -⟩ := List.append_inj' split rfl
    exact greedy earlier next later inner

omit [DecidableEq α] in
theorem Greedy.ordered (greedy : Greedy key isNode needs order) : Ordered needs order :=
  fun earlier node later split => (greedy earlier node later split).1.2.2

omit [DecidableEq α] in
/-- **There is one greedy order.** -/
theorem Greedy.unique (injective : ∀ first second, isNode first → isNode second →
      key first = key second → first = second)
    {first second : List α} (one : Greedy key isNode needs first)
    (two : Greedy key isNode needs second) (same : first.length = second.length) :
    first = second := by
  have suffixes (earlier : List α) : ∀ front back : List α, front.length = back.length →
      Greedy key isNode needs (earlier ++ front) → Greedy key isNode needs (earlier ++ back) →
        front = back := by
    intro front
    induction front generalizing earlier with
    | nil =>
      intro back length _ _
      exact (List.eq_nil_of_length_eq_zero length.symm).symm
    | cons node front ih =>
      intro back length one two
      cases back with
      | nil => cases length
      | cons other back =>
        obtain ⟨ready, least⟩ := one earlier node front rfl
        obtain ⟨ready', least'⟩ := two earlier other back rfl
        obtain rfl := injective node other ready.1 ready'.1
          (le_antisymm (least other ready') (least' node ready))
        rw [ih (earlier ++ [node]) back (Nat.succ.inj length)]
        · rw [List.append_assoc]
          exact one
        · rw [List.append_assoc]
          exact two
  exact suffixes [] first second same one two

end

/-! ### Graphs -/

/-- **The dependents of the nodes of a graph**, whose nodes have their needs in it, each once. -/
structure Adjacent (nodes : List α) (needs adjacency : α → List α) : Prop where
  distinct : nodes.Nodup
  once : ∀ node ∈ nodes, (needs node).Nodup
  inside : ∀ node ∈ nodes, ∀ other ∈ needs node, other ∈ nodes
  dependents : ∀ other, (adjacency other).Nodup
  mem : ∀ other node, node ∈ adjacency other ↔ node ∈ nodes ∧ other ∈ needs node

def Needs (nodes : List α) (needs : α → List α) (other node : α) : Prop :=
  node ∈ nodes ∧ other ∈ needs node

namespace Sorting

variable {nodes : List α} {needs adjacency : α → List α} {state : Sorting α} {key : α → κ}

/-- **The invariant of the rounds.** -/
structure Sound (nodes : List α) (needs : α → List α) (state : Sorting α) : Prop where
  distinct : (state.ordered ++ state.available).Nodup
  inside : ∀ node ∈ state.ordered ++ state.available, node ∈ nodes
  count : ∀ node ∈ nodes,
    state.indegree node = ((needs node).filter fun other => other ∉ state.ordered).length
  ready : ∀ node ∈ nodes, node ∈ state.ordered ++ state.available ↔
    ∀ other ∈ needs node, other ∈ state.ordered

/-- **What the release of some nodes does.** -/
theorem foldl_release {released : List α} (distinct : released.Nodup) (state : Sorting α) :
    released.foldl release state =
      { available := state.available ++
          released.filter fun node => state.indegree node - 1 = 0
        indegree := fun node =>
          if node ∈ released then state.indegree node - 1 else state.indegree node
        ordered := state.ordered } := by
  induction released generalizing state with
  | nil => simp
  | cons first rest ih =>
    obtain ⟨fresh, distinct⟩ := List.nodup_cons.mp distinct
    rw [List.foldl_cons, ih distinct]
    have others : ∀ node ∈ rest,
        (release state first).indegree node = state.indegree node := by
      intro node member
      exact Function.update_of_ne (fun same : node = first => fresh (same ▸ member)) _ _
    have same : (rest.filter fun node => (release state first).indegree node - 1 = 0) =
        rest.filter fun node => state.indegree node - 1 = 0 :=
      List.filter_congr fun node member => by rw [others node member]
    rw [same]
    congr 1
    · by_cases zero : state.indegree first - 1 = 0
      · rw [release, List.filter_cons_of_pos (by simpa using zero)]
        simp [zero]
      · rw [release, List.filter_cons_of_neg (by simpa using zero)]
        simp [zero]
    · funext node
      by_cases member : node ∈ rest
      · rw [if_pos member, if_pos (List.mem_cons_of_mem _ member), others node member]
      · rw [if_neg member]
        by_cases own : node = first
        · rw [own, if_pos List.mem_cons_self]
          exact Function.update_self _ _ _
        · rw [if_neg (by simp [own, member])]
          exact Function.update_of_ne own _ _

variable (adjacent : Adjacent nodes needs adjacency)

theorem place_eq (node : α) (dependents : ∀ other, (adjacency other).Nodup) :
    ∃ released, (∀ other, other ∈ released ↔ other ∈ adjacency node ∧ state.indegree other = 1) ∧
      released.Nodup ∧
      state.place key adjacency node =
        { available := state.available.erase node ++ released
          indegree := fun other =>
            if other ∈ adjacency node then state.indegree other - 1 else state.indegree other
          ordered := state.ordered ++ [node] } := by
  have sorted := List.mergeSort_perm (adjacency node) fun first second => key first ≤ key second
  have distinct := sorted.nodup_iff.mpr (dependents node)
  refine ⟨((adjacency node).mergeSort fun first second => key first ≤ key second).filter
    fun other => state.indegree other - 1 = 0, fun other => ?_, distinct.filter _, ?_⟩
  · rw [List.mem_filter, sorted.mem_iff, decide_eq_true_eq]
    exact and_congr_right fun _ => by omega
  · rw [place, foldl_release distinct]
    simp only [sorted.mem_iff]

theorem all_placed_iff {waiting placed : List α} :
    (∀ need ∈ waiting, need ∈ placed) ↔
      ((waiting.filter fun need => need ∉ placed).length : Int) = 0 := by
  rw [Int.natCast_eq_zero, List.length_eq_zero_iff, List.filter_eq_nil_iff]
  simp only [decide_eq_true_eq, not_not]

include adjacent

theorem waits_place {node other : α} (listed : other ∈ nodes) (fresh : node ∉ state.ordered) :
    (((needs other).filter fun need => need ∉ state.ordered ++ [node]).length : Int) =
      ((needs other).filter fun need => need ∉ state.ordered).length -
        if node ∈ needs other then 1 else 0 := by
  have split : ((needs other).filter fun need => need ∉ state.ordered ++ [node]) =
      ((needs other).filter fun need => need ∉ state.ordered).erase node := by
    rw [((adjacent.once other listed).filter _).erase_eq_filter, List.filter_filter]
    refine List.filter_congr fun need _ => ?_
    by_cases same : need = node <;> simp [same]
  rw [split]
  by_cases needed : node ∈ needs other
  · have waits : node ∈ (needs other).filter fun need => need ∉ state.ordered :=
      List.mem_filter.mpr ⟨needed, by simpa using fresh⟩
    have some := List.length_pos_of_mem waits
    rw [List.length_erase_of_mem waits, if_pos needed]
    omega
  · rw [List.erase_of_not_mem fun waits => needed (List.mem_filter.mp waits).1, if_neg needed]
    omega

/-- **A round keeps the invariant.** -/
theorem Sound.place (sound : Sound nodes needs state) {node : α} (free : node ∈ state.available) :
    Sound nodes needs (state.place key adjacency node) := by
  obtain ⟨released, mem_released, once, same⟩ :=
    @place_eq α κ _ _ adjacency state key node adjacent.dependents
  have fresh : node ∉ state.ordered := fun placed =>
    (List.nodup_append.mp sound.distinct).2.2 node placed node free rfl
  have moved : ((state.ordered ++ [node]) ++ state.available.erase node).Perm
      (state.ordered ++ state.available) := by
    rw [List.append_assoc]
    exact (List.perm_cons_erase free).symm.append_left _
  have unready : ∀ other ∈ released, other ∉ state.ordered ++ state.available := by
    intro other member held
    obtain ⟨dependent, one⟩ := (mem_released other).mp member
    have listed := ((adjacent.mem node other).mp dependent).1
    have none := all_placed_iff.mp ((sound.ready other listed).mp held)
    rw [← sound.count other listed] at none
    omega
  rw [same]
  constructor
  · rw [← List.append_assoc, List.nodup_append]
    refine ⟨moved.nodup_iff.mpr sound.distinct, once, fun other held freed member => ?_⟩
    rintro rfl
    exact unready other member (moved.mem_iff.mp held)
  · intro other held
    rw [← List.append_assoc, List.mem_append, moved.mem_iff] at held
    rcases held with held | freed
    · exact sound.inside other held
    · exact ((adjacent.mem node other).mp ((mem_released other).mp freed).1).1
  · intro other listed
    rw [waits_place adjacent listed fresh, ← sound.count other listed]
    simp only [adjacent.mem, listed, true_and]
    split <;> omega
  · intro other listed
    have held : other ∈ state.ordered ++ state.available ↔ state.indegree other = 0 := by
      rw [sound.ready other listed, all_placed_iff, sound.count other listed]
    have freed : other ∈ released ↔ node ∈ needs other ∧ state.indegree other = 1 := by
      rw [mem_released, adjacent.mem, and_iff_right listed]
    rw [← List.append_assoc, List.mem_append, moved.mem_iff, held, freed, all_placed_iff,
      waits_place adjacent listed fresh, ← sound.count other listed]
    by_cases needed : node ∈ needs other
    · have waiting : state.indegree other ≠ 0 := fun none =>
        fresh ((sound.ready other listed).mp (held.mpr none) node needed)
      rw [if_pos needed, and_iff_right needed]
      omega
    · rw [if_neg needed]
      simp only [needed, false_and, or_false]
      omega

omit adjacent in
/-- **What is ready is what is available.** -/
theorem Sound.ready_iff (sound : Sound nodes needs state) {node : α} :
    Ready (· ∈ nodes) (Needs nodes needs) state.ordered node ↔ node ∈ state.available := by
  constructor
  · rintro ⟨listed, unplaced, placed⟩
    have held := (sound.ready node listed).mpr fun other needed => placed other ⟨listed, needed⟩
    exact (List.mem_append.mp held).resolve_left unplaced
  · intro free
    have held := List.mem_append_right state.ordered free
    have listed := sound.inside node held
    refine ⟨listed, fun placed => ?_, fun other edge => ?_⟩
    · exact (List.nodup_append.mp sound.distinct).2.2 node placed node free rfl
    · exact (sound.ready node listed).mp held other edge.2

omit adjacent in
theorem Sound.length_le (sound : Sound nodes needs state) :
    state.ordered.length + state.available.length ≤ nodes.length := by
  rw [← List.length_append]
  exact (sound.distinct.subperm sound.inside).length_le

/-- **A run with a round for each node ends with nothing available, in a greedy order.** -/
theorem run_greedy {fuel : Nat} (sound : Sound nodes needs state)
    (greedy : Greedy key (· ∈ nodes) (Needs nodes needs) state.ordered)
    (enough : nodes.length ≤ fuel + state.ordered.length) :
    Sound nodes needs (state.run key adjacency fuel) ∧
      (state.run key adjacency fuel).available = [] ∧
        Greedy key (· ∈ nodes) (Needs nodes needs) (state.run key adjacency fuel).ordered := by
  induction fuel generalizing state with
  | zero =>
    have within := sound.length_le
    refine ⟨sound, List.eq_nil_of_length_eq_zero ?_, greedy⟩
    change state.available.length = 0
    omega
  | succ fuel ih =>
    rw [run]
    cases least : state.available.argmin key with
    | none => exact ⟨sound, List.argmin_eq_none.mp least, greedy⟩
    | some node =>
      have free : node ∈ state.available := List.argmin_mem least
      obtain ⟨released, _, _, placed⟩ :=
        @place_eq α κ _ _ adjacency state key node adjacent.dependents
      have ordered : (state.place key adjacency node).ordered = state.ordered ++ [node] := by
        rw [placed]
      refine ih (sound.place adjacent free) ?_ ?_
      · rw [ordered]
        refine greedy.concat (sound.ready_iff.mpr free) fun other ready => ?_
        exact List.le_of_mem_argmin (sound.ready_iff.mp ready) least
      · rw [ordered, List.length_append, List.length_singleton]
        omega

/-- **A run places every node exactly when there is no cycle.** -/
theorem run_complete_iff (sound : Sound nodes needs state) (done : state.available = [])
    (greedy : Greedy key (· ∈ nodes) (Needs nodes needs) state.ordered) :
    state.ordered.length = nodes.length ↔ ∀ node, ¬ TransGen (Needs nodes needs) node node := by
  have distinct := sound.distinct
  have inside := sound.inside
  rw [done, List.append_nil] at distinct inside
  have within : state.ordered.Subperm nodes := distinct.subperm inside
  constructor
  · intro complete
    have all := within.perm_of_length_le complete.ge
    exact greedy.ordered.acyclic fun other node edge => all.mem_iff.mpr edge.1
  · intro acyclic
    have founded := wellFounded_of_acyclic nodes
      (fun other node edge => adjacent.inside node edge.1 other edge.2) acyclic
    have placed : ∀ node ∈ nodes, node ∈ state.ordered := by
      intro node
      induction node using founded.induction with
      | _ node ih =>
        intro listed
        have held := (sound.ready node listed).mpr fun other needed =>
          ih other ⟨listed, needed⟩ (adjacent.inside node listed other needed)
        rwa [done, List.append_nil] at held
    exact (within.antisymm (adjacent.distinct.subperm placed)).length_eq

end Sorting

end Graph
