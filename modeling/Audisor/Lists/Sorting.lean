/-
**Sorting by an order of the members.**

* `pairwise_insertionSort` — a list is in order after it is sorted, where the relation is total and
  transitive on its members.
* `insertionSort_perm_eq` — the sorted list does not depend on the order of the list, where members that
  tie are the same.
* **`exists_insertionSort_ne`** — two different members that tie are sorted as they stand, so some
  permutation of the list is sorted to another one.
* `sortedSet` — the members of a list, each once, in their order.
-/

import Mathlib.Data.List.Dedup
import Mathlib.Data.List.Sort
import Mathlib.Data.String.Basic

namespace Lists

variable {α : Type*} {r : α → α → Prop} [DecidableRel r] {items others : List α}

/-- **A sorted list is in order**, for a relation that orders the members. -/
theorem pairwise_insertionSort (total : ∀ a ∈ items, ∀ b ∈ items, r a b ∨ r b a)
    (transitive : ∀ a ∈ items, ∀ b ∈ items, ∀ c ∈ items, r a b → r b c → r a c) :
    (items.insertionSort r).Pairwise r := by
  let member : {a // a ∈ items} → {a // a ∈ items} → Prop := fun a b => r a.1 b.1
  have orders : Std.Total member := ⟨fun a b => total a.1 a.2 b.1 b.2⟩
  have chains : IsTrans _ member := ⟨fun a b c => transitive a.1 a.2 b.1 b.2 c.1 c.2⟩
  have mapped : (items.attach.insertionSort member).map Subtype.val = items.insertionSort r := by
    rw [List.map_insertionSort member r Subtype.val _ fun _ _ _ _ => Iff.rfl,
      List.attach_map_subtype_val]
  rw [← mapped, List.pairwise_map]
  exact List.pairwise_insertionSort member items.attach

/-- **Sorting forgets the order of the list**, where members that tie are the same. -/
theorem insertionSort_perm_eq (total : ∀ a ∈ items, ∀ b ∈ items, r a b ∨ r b a)
    (transitive : ∀ a ∈ items, ∀ b ∈ items, ∀ c ∈ items, r a b → r b c → r a c)
    (antisymmetric : ∀ a ∈ items, ∀ b ∈ items, r a b → r b a → a = b) (perm : items.Perm others) :
    items.insertionSort r = others.insertionSort r := by
  have sorted := pairwise_insertionSort total transitive
  have sorted' : (others.insertionSort r).Pairwise r := by
    refine pairwise_insertionSort (fun a own b own' => ?_) fun a own b own' c own'' => ?_
    · exact total a (perm.mem_iff.mpr own) b (perm.mem_iff.mpr own')
    · exact transitive a (perm.mem_iff.mpr own) b (perm.mem_iff.mpr own') c (perm.mem_iff.mpr own'')
  refine List.Perm.eq_of_pairwise (fun a b own own' => ?_) sorted sorted' ?_
  · rw [List.mem_insertionSort] at own own'
    exact antisymmetric a own b (perm.mem_iff.mpr own')
  · exact ((List.perm_insertionSort r items).trans perm).trans (List.perm_insertionSort r others).symm

theorem filter_insertionSort [DecidableEq α] {group : List α} (ties : ∀ a ∈ group, ∀ b ∈ group, r a b)
    {rest : List α} (apart : ∀ a ∈ rest, a ∉ group) :
    ((group ++ rest).insertionSort r).filter (· ∈ group) = group := by
  have kept : group.Sublist ((group ++ rest).insertionSort r) :=
    List.sublist_insertionSort (List.pairwise_of_forall_mem_list ties)
      (List.sublist_append_left group rest)
  have inside := kept.filter (· ∈ group)
  rw [List.filter_eq_self.mpr fun a own => decide_eq_true own] at inside
  refine (inside.eq_of_length ?_).symm
  have counted := ((List.perm_insertionSort r (group ++ rest)).filter (· ∈ group)).length_eq
  rw [counted, List.filter_append, List.filter_eq_self.mpr fun a own => decide_eq_true own,
    List.filter_eq_nil_iff.mpr fun a own => by simpa using apart a own, List.append_nil]

/-- **Where two different members tie, the order of the list shows in the sorted list.** -/
theorem exists_insertionSort_ne [DecidableEq α] {items : List α} {a b : α} (own : a ∈ items)
    (own' : b ∈ items) (apart : a ≠ b) (ties : ∀ c ∈ [a, b], ∀ d ∈ [a, b], r c d) :
    ∃ others : List α, others.Perm items ∧ others.insertionSort r ≠ items.insertionSort r := by
  -- The copies of `a` and of `b`, in either order, before all the others.
  obtain ⟨firsts, firsts_eq⟩ : ∃ firsts, firsts = items.filter fun c => decide (c = a) := ⟨_, rfl⟩
  obtain ⟨others, others_eq⟩ : ∃ others, others = items.filter fun c => !decide (c = a) := ⟨_, rfl⟩
  obtain ⟨seconds, seconds_eq⟩ : ∃ seconds, seconds = others.filter fun c => decide (c = b) := ⟨_, rfl⟩
  obtain ⟨rest, rest_eq⟩ : ∃ rest, rest = others.filter fun c => !decide (c = b) := ⟨_, rfl⟩
  have first {c : α} : c ∈ firsts ↔ c ∈ items ∧ c = a := by simp [firsts_eq]
  have second {c : α} : c ∈ seconds ↔ c ∈ items ∧ c ≠ a ∧ c = b := by
    rw [seconds_eq, others_eq, List.mem_filter, List.mem_filter, Bool.not_eq_true',
      decide_eq_false_iff_not, decide_eq_true_eq, and_assoc]
  have left {c : α} : c ∈ rest ↔ c ∈ items ∧ c ≠ a ∧ c ≠ b := by
    rw [rest_eq, others_eq, List.mem_filter, List.mem_filter, Bool.not_eq_true', Bool.not_eq_true',
      decide_eq_false_iff_not, decide_eq_false_iff_not, and_assoc]
  have parts : (firsts ++ (seconds ++ rest)).Perm items := by
    rw [seconds_eq, rest_eq, firsts_eq]
    refine ((List.filter_append_perm _ others).append_left _).trans ?_
    rw [others_eq]
    exact List.filter_append_perm _ items
  have swapped : (seconds ++ firsts ++ rest).Perm items := by
    refine (List.perm_append_comm.append_right rest).trans ?_
    rw [List.append_assoc]
    exact parts
  have tied {c d : α} (member : c ∈ firsts ++ seconds) (member' : d ∈ firsts ++ seconds) : r c d := by
    have listed {c : α} (member : c ∈ firsts ++ seconds) : c ∈ [a, b] := by
      rcases List.mem_append.mp member with found | found
      · rw [(first.mp found).2]
        exact List.mem_cons_self
      · rw [(second.mp found).2.2]
        exact List.mem_cons_of_mem _ List.mem_cons_self
    exact ties c (listed member) d (listed member')
  have outside {c : α} (member : c ∈ rest) : c ∉ firsts ++ seconds := by
    intro group
    rcases List.mem_append.mp group with found | found
    · exact (left.mp member).2.1 (first.mp found).2
    · exact (left.mp member).2.2 (second.mp found).2.2
  have order := filter_insertionSort (r := r) (fun c found d found' => tied found found')
    fun c member => outside member
  have order' : ((seconds ++ firsts ++ rest).insertionSort r).filter (· ∈ seconds ++ firsts) =
      seconds ++ firsts :=
    filter_insertionSort
      (fun c found d found' => tied (List.perm_append_comm.mem_iff.mp found)
        (List.perm_append_comm.mem_iff.mp found'))
      fun c member group => outside member (List.perm_append_comm.mem_iff.mp group)
  by_contra never
  push Not at never
  have groups : firsts ++ seconds = seconds ++ firsts := by
    rw [List.append_assoc, never _ parts] at order
    rw [never _ swapped] at order'
    rw [← order, ← order']
    exact List.filter_congr fun c _ => by rw [decide_eq_decide]; exact List.perm_append_comm.mem_iff
  cases front : firsts with
  | nil => exact List.not_mem_nil (front ▸ first.mpr ⟨own, rfl⟩)
  | cons c tail =>
    cases back : seconds with
    | nil => exact List.not_mem_nil (back ▸ second.mpr ⟨own', apart.symm, rfl⟩)
    | cons d tail' =>
      rw [front, back, List.cons_append, List.cons_append, List.cons.injEq] at groups
      have start : c = a := (first.mp (front ▸ List.mem_cons_self)).2
      have finish : d = b := (second.mp (back ▸ List.mem_cons_self)).2.2
      exact apart (start.symm.trans (groups.1.trans finish))

/-! ### Sorted sets -/

/-- `sorted(set(items))`. -/
def sortedSet (items : List String) : List String := items.dedup.insertionSort fun a b => a ≤ b

theorem nodup_sortedSet (items : List String) : (sortedSet items).Nodup :=
  (List.perm_insertionSort _ _).nodup_iff.mpr (List.nodup_dedup _)

end Lists
