/-
**Reading a growing list page by page.**

* `Ascending key items` — every item has a larger key than the items before it.
* `page`, `advance` — the items behind a cursor, up to a limit, and the key of the last of them.
* `Stands` — what a reader has, what is left, and the cursor between them.
* **`Stands.onward`**, **`Stands.grow`** — a page goes on where the last one ended, and what is added with
  larger keys is still to come.
-/

import Mathlib.Data.List.Basic
import Mathlib.Order.Lattice

namespace Cursors

variable {α κ : Type} [LinearOrder κ] {key : α → κ}

def Ascending (key : α → κ) (items : List α) : Prop := items.Pairwise fun a b => key a < key b

def page (key : α → κ) (cursor : κ) (limit : Nat) (items : List α) : List α :=
  (items.filter fun item => cursor < key item).take limit

def advance (key : α → κ) (cursor : κ) (items : List α) : κ := (items.getLast?.map key).getD cursor

/-- **Where a reader stands**: the cursor is the start, or the key of something that was read. -/
structure Stands (key : α → κ) (start : κ) (items seen rest : List α) (cursor : κ) : Prop where
  parts : items = seen ++ rest
  before : ∀ item ∈ seen, key item ≤ cursor
  behind : ∀ item ∈ rest, cursor < key item
  held : cursor = start ∨ ∃ item ∈ seen, key item = cursor

/-! ### Ascending lists -/

theorem Ascending.append_single {items : List α} (ascending : Ascending key items) {item : α}
    (above : ∀ other ∈ items, key other < key item) : Ascending key (items ++ [item]) := by
  refine List.pairwise_append.mpr ⟨ascending, List.pairwise_singleton _ _, ?_⟩
  intro other listed last same
  rw [List.mem_singleton.mp same]
  exact above other listed

theorem Ascending.le_getLast {items : List α} (ascending : Ascending key items) {last : α}
    (ends : items.getLast? = some last) : ∀ item ∈ items, key item ≤ key last := by
  obtain ⟨front, rfl⟩ := List.getLast?_eq_some_iff.mp ends
  intro item listed
  rcases List.mem_append.mp listed with early | late
  · exact ((List.pairwise_append.mp ascending).2.2 item early last
      (List.mem_singleton_self _)).le
  · rw [List.mem_singleton.mp late]

theorem Ascending.nodup {items : List α} (ascending : Ascending key items) : items.Nodup := by
  refine List.Pairwise.imp ?_ ascending
  rintro item _ less rfl
  exact lt_irrefl _ less

/-! ### Readers -/

theorem stands_start {start : κ} {items : List α} (above : ∀ item ∈ items, start < key item) :
    Stands key start items [] items start where
  parts := rfl
  before := List.forall_mem_nil _
  behind := above
  held := .inl rfl

namespace Stands

variable {start cursor : κ} {items seen rest : List α}

/-- **A page is what comes next.** -/
theorem page_eq (stands : Stands key start items seen rest cursor) (limit : Nat) :
    page key cursor limit items = rest.take limit := by
  have old : seen.filter (fun item => cursor < key item) = [] := by
    refine List.filter_eq_nil_iff.mpr fun item listed => ?_
    rw [decide_eq_true_eq, not_lt]
    exact stands.before item listed
  have new : rest.filter (fun item => cursor < key item) = rest :=
    List.filter_eq_self.mpr fun item listed => decide_eq_true (stands.behind item listed)
  rw [page, stands.parts, List.filter_append, old, new, List.nil_append]

/-- **The reader goes on behind the page.** -/
theorem onward (stands : Stands key start items seen rest cursor)
    (ascending : Ascending key items) (limit : Nat) :
    Stands key start items (seen ++ rest.take limit) (rest.drop limit)
      (advance key cursor (rest.take limit)) := by
  have whole : items = seen ++ rest.take limit ++ rest.drop limit := by
    rw [List.append_assoc, List.take_append_drop]
    exact stands.parts
  cases ends : (rest.take limit).getLast? with
  | none =>
    have empty := List.getLast?_eq_none_iff.mp ends
    rw [advance, ends]
    refine ⟨whole, ?_, fun item listed => stands.behind item (List.mem_of_mem_drop listed), ?_⟩
    · rw [empty, List.append_nil]
      exact stands.before
    · rw [empty, List.append_nil]
      exact stands.held
  | some last =>
    have inside := List.mem_of_getLast? ends
    have later : cursor < key last := stands.behind last (List.mem_of_mem_take inside)
    rw [whole] at ascending
    obtain ⟨front, -, across⟩ := List.pairwise_append.mp ascending
    have pages : Ascending key (rest.take limit) := (List.pairwise_append.mp front).2.1
    rw [advance, ends]
    refine ⟨whole, List.forall_mem_append.mpr ⟨?_, pages.le_getLast ends⟩, ?_, ?_⟩
    · exact fun item listed => (stands.before item listed).trans later.le
    · exact fun item listed => across last (List.mem_append_right _ inside) item listed
    · exact .inr ⟨last, List.mem_append_right _ inside, rfl⟩

/-- **What is added with larger keys is still to come.** -/
theorem grow (stands : Stands key start items seen rest cursor) {more : List α}
    (begun : ∀ item ∈ more, start < key item)
    (above : ∀ item ∈ more, ∀ other ∈ items, key other < key item) :
    Stands key start (items ++ more) seen (rest ++ more) cursor where
  parts := by rw [stands.parts, List.append_assoc]
  before := stands.before
  behind := by
    refine List.forall_mem_append.mpr ⟨stands.behind, fun item added => ?_⟩
    rcases stands.held with first | ⟨other, listed, same⟩
    · rw [first]
      exact begun item added
    · rw [← same]
      refine above item added other ?_
      rw [stands.parts]
      exact List.mem_append_left _ listed
  held := stands.held

end Stands

end Cursors
