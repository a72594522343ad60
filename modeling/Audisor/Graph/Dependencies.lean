/-
**Finite dependency graphs, and orders of their nodes.**

* `acyclic_of_rank` — a relation along which a rank grows has no cycle.
* `wellFounded_of_acyclic` — a relation without cycles on finitely many nodes is well founded.
* `stuck_iff` — what is stuck on something bad, by one edge or by many.
* `not_waiting` — where everything that waits does so for something that waits, nothing waits.
* `Edge` — the edges of a graph that is given as the list of each node's needs.
* `pass`, `close` — the nodes that depend on some others, collected in passes over all nodes.
  **`mem_close_iff`** — they are the nodes that a chain of edges leads to.
* `Ordered needs nodes` — each node of the list comes after everything it needs.
* `Ordered.concat` — a node may follow once everything it needs is there.
* **`Ordered.acyclic`** — where all nodes with needs are in an ordered list, there is no cycle.
* `Ordered.of_keys` — items are in order when their keys are.
-/

import Mathlib.Data.Fintype.EquivFin
import Mathlib.Data.Finset.Card
import Mathlib.Data.Set.Finite.List
import Mathlib.Logic.Relation
import Mathlib.Order.WellFounded
import Mathlib.Data.List.Forall2

namespace Graph

open Relation

section

variable {α : Type}

/-! ### Well-founded graphs -/

/-- **A relation without cycles on finitely many nodes is well founded.** -/
theorem wellFounded_of_acyclic {needs : α → α → Prop} (nodes : List α)
    (inside : ∀ a b, needs a b → a ∈ nodes) (acyclic : ∀ a, ¬ TransGen needs a a) :
    WellFounded needs := by
  have finite : Finite {a // a ∈ nodes} := (List.finite_toSet nodes).to_subtype
  let chain : {a // a ∈ nodes} → {a // a ∈ nodes} → Prop := fun a b => TransGen needs a.1 b.1
  have trans : IsTrans _ chain := ⟨fun _ _ _ first second => first.trans second⟩
  have irrefl : Std.Irrefl chain := ⟨fun a => acyclic a.1⟩
  have founded : WellFounded chain := Finite.wellFounded_of_trans_of_irrefl chain
  have known : ∀ a : {a // a ∈ nodes}, Acc needs a.1 := by
    intro a
    induction a using founded.induction with
    | _ a ih => exact Acc.intro _ fun b edge => ih ⟨b, inside b a.1 edge⟩ (.single edge)
  exact ⟨fun a => Acc.intro _ fun b edge => known ⟨b, inside b a edge⟩⟩

theorem acyclic_of_rank {needs : α → α → Prop} (rank : α → Nat)
    (grows : ∀ a b, needs a b → rank a < rank b) (a : α) : ¬ TransGen needs a a := by
  have along : ∀ b, TransGen needs a b → rank a < rank b := by
    intro b chain
    induction chain with
    | single edge => exact grows _ _ edge
    | tail _ edge ih => exact Nat.lt_trans ih (grows _ _ edge)
  exact fun cycle => Nat.lt_irrefl _ (along a cycle)

section

variable {needs : α → α → Prop} (founded : WellFounded needs)
include founded

/-- **What is stuck** on something bad by one edge or by many: exactly what a chain leads to. -/
theorem stuck_iff {bad stuck : α → Prop}
    (each : ∀ node, stuck node ↔ ∃ other, needs other node ∧ (bad other ∨ stuck other)) (node : α) :
    stuck node ↔ ∃ other, bad other ∧ TransGen needs other node := by
  constructor
  · induction node using founded.induction with
    | _ node ih =>
      intro held
      obtain ⟨other, edge, wrong | held⟩ := (each node).mp held
      · exact ⟨other, wrong, .single edge⟩
      · obtain ⟨origin, wrong, chain⟩ := ih other edge held
        exact ⟨origin, wrong, chain.tail edge⟩
  · rintro ⟨other, wrong, chain⟩
    induction chain with
    | single edge => exact (each _).mpr ⟨other, edge, .inl wrong⟩
    | tail _ edge ih => exact (each _).mpr ⟨_, edge, .inr ih⟩

/-- **Nothing waits** where everything that waits does so for something that waits. -/
theorem not_waiting {waiting : α → Prop}
    (each : ∀ node, waiting node → ∃ other, needs other node ∧ waiting other) (node : α) :
    ¬ waiting node := by
  induction node using founded.induction with
  | _ node ih =>
    intro waits
    obtain ⟨other, edge, also⟩ := each node waits
    exact ih other edge also

end

/-! ### Closures in passes -/

/-- An edge of a graph given by each node with its needs: the second needs the first. -/
def Edge (graph : List (α × List α)) (other node : α) : Prop :=
  ∃ needs, (node, needs) ∈ graph ∧ other ∈ needs

section

variable [DecidableEq α]

/-- One node, in a pass: it is added when it needs a node that is there. -/
def visit (found : List α) (node : α × List α) : List α :=
  if node.1 ∉ found ∧ ∃ other ∈ node.2, other ∈ found then found ++ [node.1] else found

def pass (graph : List (α × List α)) (found : List α) : List α := graph.foldl visit found

def close (graph : List (α × List α)) : Nat → List α → List α
  | 0, found => found
  | fuel + 1, found =>
    if (pass graph found).length = found.length then found
    else close graph fuel (pass graph found)

variable {graph : List (α × List α)} {found : List α}

theorem subset_visit (node : α × List α) : found ⊆ visit found node := by
  unfold visit
  split
  · exact List.subset_append_left _ _
  · exact List.Subset.refl _

theorem length_visit (node : α × List α) : found.length ≤ (visit found node).length := by
  unfold visit
  split
  · rw [List.length_append]
    exact Nat.le_add_right _ _
  · exact Nat.le_refl _

theorem length_pass : found.length ≤ (pass graph found).length := by
  unfold pass
  induction graph generalizing found with
  | nil => exact Nat.le_refl _
  | cons node rest ih => exact Nat.le_trans (length_visit node) ih

theorem subset_pass : found ⊆ pass graph found := by
  unfold pass
  induction graph generalizing found with
  | nil => exact List.Subset.refl _
  | cons node rest ih => exact List.Subset.trans (subset_visit node) ih

/-- **A pass adds what an edge leads to.** -/
theorem pass_adds {property : α → Prop}
    (along : ∀ other node, Edge graph other node → property other → property node)
    (start : ∀ node ∈ found, property node) : ∀ node ∈ pass graph found, property node := by
  unfold pass
  induction graph generalizing found with
  | nil => exact start
  | cons first rest ih =>
    refine ih (fun other node edge => along other node ?_) ?_
    · obtain ⟨needs, listed, needed⟩ := edge
      exact ⟨needs, List.mem_cons_of_mem _ listed, needed⟩
    · intro node held
      unfold visit at held
      split at held
      · rename_i added
        obtain ⟨-, other, needed, held'⟩ := added
        rcases List.mem_append.mp held with before | new
        · exact start node before
        · rw [List.mem_singleton.mp new]
          exact along other first.1 ⟨first.2, List.mem_cons_self, needed⟩ (start other held')
      · exact start node held

theorem closed_of_pass (same : (pass graph found).length = found.length) {other node : α}
    (edge : Edge graph other node) (held : other ∈ found) : node ∈ found := by
  obtain ⟨needs, listed, needed⟩ := edge
  unfold pass at same
  induction graph with
  | nil => cases listed
  | cons first rest ih =>
    rw [List.foldl_cons] at same
    have kept : visit found first = found := by
      have grown : (visit found first).length ≤ (pass rest (visit found first)).length := length_pass
      have shorter : (visit found first).length ≤ found.length := grown.trans (Nat.le_of_eq same)
      unfold visit at shorter ⊢
      split
      · rename_i added
        rw [if_pos added, List.length_append, List.length_singleton] at shorter
        omega
      · rfl
    rw [kept] at same
    rcases List.mem_cons.mp listed with rfl | later
    · by_contra absent
      have longer := congrArg List.length kept
      unfold visit at longer
      rw [if_pos ⟨absent, other, needed, held⟩, List.length_append, List.length_singleton] at longer
      omega
    · exact ih same later

theorem pass_eq_self (vain : ∀ node ∈ pass graph found, node ∈ graph.map Prod.fst → node ∈ found) :
    pass graph found = found := by
  unfold pass at vain ⊢
  induction graph with
  | nil => rfl
  | cons first rest ih =>
    rw [List.foldl_cons] at vain ⊢
    have kept : visit found first = found := by
      by_cases added : first.1 ∉ found ∧ ∃ other ∈ first.2, other ∈ found
      · have grown : visit found first ⊆ pass rest (visit found first) := subset_pass
        refine absurd (vain first.1 (grown ?_) List.mem_cons_self) added.1
        unfold visit
        rw [if_pos added]
        exact List.mem_append_right _ (List.mem_singleton.mpr rfl)
      · unfold visit
        rw [if_neg added]
    rw [kept] at vain ⊢
    exact ih fun node held listed => vain node held (List.mem_cons_of_mem _ listed)

def missing (graph : List (α × List α)) (found : List α) : Finset α :=
  (graph.map Prod.fst).toFinset \ found.toFinset

theorem card_missing_pass (more : (pass graph found).length ≠ found.length) :
    (missing graph (pass graph found)).card < (missing graph found).card := by
  have added : ∃ node ∈ pass graph found, node ∈ graph.map Prod.fst ∧ node ∉ found := by
    by_contra vain
    push Not at vain
    exact more (congrArg List.length (pass_eq_self vain))
  obtain ⟨node, held, listed, absent⟩ := added
  apply Finset.card_lt_card
  rw [Finset.ssubset_iff_of_subset]
  · refine ⟨node, ?_, ?_⟩
    · exact Finset.mem_sdiff.mpr ⟨List.mem_toFinset.mpr listed, by rwa [List.mem_toFinset]⟩
    · intro still
      exact (Finset.mem_sdiff.mp still).2 (List.mem_toFinset.mpr held)
  · intro other still
    obtain ⟨among, notYet⟩ := Finset.mem_sdiff.mp still
    refine Finset.mem_sdiff.mpr ⟨among, fun before => notYet ?_⟩
    exact List.mem_toFinset.mpr (subset_pass (List.mem_toFinset.mp before))

theorem subset_close (fuel : Nat) : found ⊆ close graph fuel found := by
  induction fuel generalizing found with
  | zero => exact List.Subset.refl _
  | succ fuel ih =>
    unfold close
    split
    · exact List.Subset.refl _
    · exact List.Subset.trans subset_pass ih

theorem close_adds {property : α → Prop}
    (along : ∀ other node, Edge graph other node → property other → property node) (fuel : Nat)
    (start : ∀ node ∈ found, property node) : ∀ node ∈ close graph fuel found, property node := by
  induction fuel generalizing found with
  | zero => exact start
  | succ fuel ih =>
    unfold close
    split
    · exact start
    · exact ih (pass_adds along start)

theorem close_closed {fuel : Nat} (enough : (missing graph found).card < fuel) {other node : α}
    (edge : Edge graph other node) (held : other ∈ close graph fuel found) :
    node ∈ close graph fuel found := by
  induction fuel generalizing found with
  | zero => omega
  | succ fuel ih =>
    unfold close at held ⊢
    by_cases same : (pass graph found).length = found.length
    · rw [if_pos same] at held ⊢
      exact closed_of_pass same edge held
    · rw [if_neg same] at held ⊢
      have fewer := card_missing_pass same
      exact ih (by omega) held

/-- **The closure holds exactly what a chain of edges leads to**, given a pass for each node. -/
theorem mem_close_iff {fuel : Nat} (enough : graph.length < fuel) (node : α) :
    node ∈ close graph fuel found ↔ ∃ origin ∈ found, ReflTransGen (Edge graph) origin node := by
  have room : (missing graph found).card < fuel := by
    have few : (missing graph found).card ≤ graph.length :=
      calc (missing graph found).card
          ≤ (graph.map Prod.fst).toFinset.card := Finset.card_le_card Finset.sdiff_subset
        _ ≤ (graph.map Prod.fst).length := List.toFinset_card_le _
        _ = graph.length := List.length_map _
    omega
  constructor
  · revert node
    refine close_adds ?_ fuel fun node held => ⟨node, held, .refl⟩
    rintro other node edge ⟨origin, held, chain⟩
    exact ⟨origin, held, chain.tail edge⟩
  · rintro ⟨origin, held, chain⟩
    induction chain with
    | refl => exact subset_close fuel held
    | tail _ edge ih => exact close_closed room edge ih

end

end

variable {α β : Type} {needs : α → α → Prop} {nodes : List α}

def Ordered (needs : α → α → Prop) (nodes : List α) : Prop :=
  ∀ earlier node later, nodes = earlier ++ node :: later →
    ∀ other, needs other node → other ∈ earlier

theorem ordered_nil : Ordered needs [] := by
  intro earlier node later split
  exact absurd split.symm (List.append_ne_nil_of_right_ne_nil _ (List.cons_ne_nil _ _))

theorem Ordered.concat (ordered : Ordered needs nodes) {node : α}
    (ready : ∀ other, needs other node → other ∈ nodes) : Ordered needs (nodes ++ [node]) := by
  intro earlier next later split other edge
  rcases List.eq_nil_or_concat later with rfl | ⟨later, last, rfl⟩
  · obtain ⟨rfl, same⟩ := List.append_inj' split rfl
    obtain ⟨rfl, -⟩ := List.cons.inj same
    exact ready other edge
  · rw [List.concat_eq_append, ← List.cons_append, ← List.append_assoc] at split
    obtain ⟨inner, -⟩ := List.append_inj' split rfl
    exact ordered earlier next later inner other edge

/-- **An order leaves no room for a cycle.** -/
theorem Ordered.acyclic [DecidableEq α] (ordered : Ordered needs nodes)
    (inside : ∀ other node, needs other node → node ∈ nodes) (node : α) :
    ¬ TransGen needs node node := by
  refine acyclic_of_rank (fun node => nodes.idxOf node) (fun other node edge => ?_) node
  obtain ⟨earlier, later, split, first⟩ := List.eq_append_cons_of_mem (inside other node edge)
  have before : other ∈ earlier := ordered earlier node later split other edge
  calc nodes.idxOf other = earlier.idxOf other := by rw [split, List.idxOf_append_of_mem before]
    _ < earlier.length := List.idxOf_lt_length_of_mem before
    _ = nodes.idxOf node := by
      rw [split, List.idxOf_append_of_notMem first, List.idxOf_cons_self, Nat.add_zero]

/-- **Items are in order when their keys are.** -/
theorem Ordered.of_keys {key : β → α} {items : List β} (ordered : Ordered needs (items.map key)) :
    ∀ earlier item later, items = earlier ++ item :: later →
      ∀ other, needs other (key item) → other ∈ earlier.map key := by
  rintro earlier item later rfl other edge
  exact ordered (earlier.map key) (key item) (later.map key) List.map_append other edge

end Graph
