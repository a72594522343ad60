/-
**Times as texts of one width, and their order.**

* `padded` — a number in a fixed number of decimal digits. `padded_append_lt` — the order of two texts
  that begin with such numbers.
* `Moment` — a time of the calendar, as `datetime` has it. `stamp` — `strftime("%Y%m%dT%H%M%S%fZ")`.
* **`stamp_lt`** — the stamps of two times are in the order of the times.
-/

import Audisor.Json.Text
import Mathlib.Data.List.Lex
import Mathlib.Algebra.Order.Ring.Nat

namespace Text

open Json (digitChar)

/-! ### Numbers of one width -/

/-- `str(n).zfill(width)`, of a number that fits. -/
def padded : Nat → Nat → List Char
  | 0, _ => []
  | width + 1, n => padded width (n / 10) ++ [digitChar (n % 10)]

theorem length_padded (width n : Nat) : (padded width n).length = width := by
  induction width generalizing n with
  | zero => rfl
  | succ width ih => rw [padded, List.length_append, ih, List.length_singleton]

theorem digitChar_lt : ∀ b < 10, ∀ a < b, digitChar a < digitChar b := by decide

theorem digitChar_ne_hyphen : ∀ a < 10, digitChar a ≠ '-' := by decide

theorem hyphen_not_mem_padded (width n : Nat) : '-' ∉ padded width n := by
  induction width generalizing n with
  | zero => exact List.not_mem_nil
  | succ width ih =>
    rw [padded, List.mem_append, List.mem_singleton, not_or]
    exact ⟨ih _, (digitChar_ne_hyphen _ (Nat.mod_lt _ (by decide))).symm⟩

theorem append_lt_append {a b x y : List Char} (width : a.length = b.length) (less : a < b) :
    a ++ x < b ++ y := by
  induction a generalizing b with
  | nil =>
    cases b with
    | nil => exact absurd less (List.not_lt_nil _)
    | cons d b => cases width
  | cons c a ih =>
    cases b with
    | nil => cases width
    | cons d b =>
      rw [List.cons_append, List.cons_append, List.cons_lt_cons_iff]
      refine (List.cons_lt_cons_iff.mp less).imp_right fun both => ⟨both.1, ?_⟩
      exact ih (Nat.succ.inj width) both.2

theorem padded_lt {width n m : Nat} (less : n < m) (bounded : m < 10 ^ width) :
    padded width n < padded width m := by
  induction width generalizing n m with
  | zero =>
    rw [pow_zero, Nat.lt_one_iff] at bounded
    omega
  | succ width ih =>
    rw [padded, padded]
    rcases Nat.lt_or_ge (n / 10) (m / 10) with front | front
    · rw [pow_succ] at bounded
      refine append_lt_append ?_ (ih front (by omega))
      rw [length_padded, length_padded]
    · have same : n / 10 = m / 10 := by omega
      rw [same]
      refine List.append_left_lt (List.cons_lt_cons_iff.mpr (.inl ?_))
      exact digitChar_lt _ (by omega) _ (by omega)

/-- **Two texts that begin with numbers of one width** are in the order of the numbers, and then of what
follows. -/
theorem padded_append_lt {width n m : Nat} {x y : List Char} (bounded : m < 10 ^ width)
    (order : n < m ∨ n = m ∧ x < y) : padded width n ++ x < padded width m ++ y := by
  rcases order with less | ⟨rfl, rest⟩
  · exact append_lt_append (by rw [length_padded, length_padded]) (padded_lt less bounded)
  · exact List.append_left_lt rest

/-! ### Times -/

/-- A time of the calendar, in a year of four digits. -/
structure Moment where
  year : Fin (10 ^ 4)
  month : Fin (10 ^ 2)
  day : Fin (10 ^ 2)
  hour : Fin (10 ^ 2)
  minute : Fin (10 ^ 2)
  second : Fin (10 ^ 2)
  microsecond : Fin (10 ^ 6)
  deriving DecidableEq

def Moment.fields (time : Moment) : List Nat :=
  [time.year.val, time.month.val, time.day.val, time.hour.val, time.minute.val, time.second.val,
    time.microsecond.val]

/-- `earlier < later`, of times in one zone. -/
def Moment.Before (earlier later : Moment) : Prop := earlier.fields < later.fields

instance (earlier later : Moment) : Decidable (earlier.Before later) :=
  inferInstanceAs (Decidable (earlier.fields < later.fields))

/-- `time.strftime("%Y%m%dT%H%M%S%fZ")`. -/
def stamp (time : Moment) : List Char :=
  padded 4 time.year ++ (padded 2 time.month ++ (padded 2 time.day ++ 'T' :: (padded 2 time.hour ++
    (padded 2 time.minute ++ (padded 2 time.second ++ (padded 6 time.microsecond ++ ['Z']))))))

theorem length_stamp (time : Moment) : (stamp time).length = 22 := by
  simp only [stamp, List.length_append, List.length_cons, length_padded, List.length_nil]

theorem hyphen_not_mem_stamp (time : Moment) : '-' ∉ stamp time := by
  simp only [stamp, List.mem_append, List.mem_cons, not_or, hyphen_not_mem_padded, not_false_eq_true,
    true_and, List.not_mem_nil]
  decide

/-- **The stamps of two times are in the order of the times**, field by field. -/
theorem stamp_lt {earlier later : Moment} (before : earlier.Before later) :
    stamp earlier < stamp later := by
  simp only [Moment.Before, Moment.fields, List.cons_lt_cons_iff] at before
  refine padded_append_lt later.year.isLt (before.imp_right fun both => ⟨both.1, ?_⟩)
  refine padded_append_lt later.month.isLt (both.2.imp_right fun both => ⟨both.1, ?_⟩)
  refine padded_append_lt later.day.isLt (both.2.imp_right fun both => ⟨both.1, ?_⟩)
  refine List.cons_lt_cons_iff.mpr (.inr ⟨rfl, ?_⟩)
  refine padded_append_lt later.hour.isLt (both.2.imp_right fun both => ⟨both.1, ?_⟩)
  refine padded_append_lt later.minute.isLt (both.2.imp_right fun both => ⟨both.1, ?_⟩)
  refine padded_append_lt later.second.isLt (both.2.imp_right fun both => ⟨both.1, ?_⟩)
  refine padded_append_lt later.microsecond.isLt (both.2.imp_right fun both => ⟨both.1, ?_⟩)
  exact absurd both.2 (List.not_lt_nil _)

end Text
