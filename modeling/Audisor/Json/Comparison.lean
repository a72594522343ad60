/-
**The order of values is a weak order.**

* `numberValue` — the rational that a scaled number is. `sameNumber_iff`, `lessNumber_iff`.
* `eq_congr_left`, `eq_comm'` — equality is a congruence, and symmetric.
* `less_congr_left`, `less_congr_right` — the order does not tell equal values apart.
* `less_asymm`, `less_trans`, `less_total` — of two values that compare, one is less or they are equal.
* **`notLess_trans`** — among values that compare, not being less is transitive.
-/

import Audisor.Json.Order
import Audisor.Json.Trees
import Mathlib.Algebra.Order.Field.Power
import Mathlib.Tactic.Positivity

namespace Json

/-! ### Numbers -/

/-- `mantissa · 10 ^ exponent`. -/
def numberValue (x : Int × Int) : ℚ := x.1 * 10 ^ x.2

theorem numberValue_scaled (x : Int × Int) {exponent : Int} (below : exponent ≤ x.2) :
    ((x.1 * 10 ^ (x.2 - exponent).toNat : Int) : ℚ) * 10 ^ exponent = numberValue x := by
  push_cast
  rw [numberValue, mul_assoc, ← zpow_natCast, Int.toNat_of_nonneg (by omega),
    ← zpow_add₀ (by norm_num), sub_add_cancel]

theorem sameNumber_iff {x y : Int × Int} :
    sameNumber x y = true ↔ numberValue x = numberValue y := by
  rw [sameNumber, beq_iff_eq, ← numberValue_scaled x (min_le_left x.2 y.2),
    ← numberValue_scaled y (min_le_right x.2 y.2), mul_left_inj' (by positivity)]
  exact Int.cast_inj.symm

theorem lessNumber_iff {x y : Int × Int} :
    lessNumber x y = true ↔ numberValue x < numberValue y := by
  rw [lessNumber, decide_eq_true_eq, ← numberValue_scaled x (min_le_left x.2 y.2),
    ← numberValue_scaled y (min_le_right x.2 y.2), mul_lt_mul_iff_left₀ (by positivity)]
  exact Int.cast_lt.symm

/-! ### Equality -/

theorem eq_number_iff {a b : Json} {x : Int × Int} (own : a.number? = some x) :
    eq a b = true ↔ ∃ y, b.number? = some y ∧ numberValue x = numberValue y := by
  have numbers : eq a b = eqNumber a b := by
    cases a <;> first | rfl | cases own
  rw [numbers, eqNumber, own]
  cases b.number? with
  | none => simp
  | some y => simpa using sameNumber_iff

theorem number_of_eq {a b : Json} {x : Int × Int} (own : a.number? = some x) (same : eq a b = true) :
    ∃ y, b.number? = some y ∧ numberValue x = numberValue y :=
  (eq_number_iff own).mp same

theorem eqFields_iff {fields others : Dict} : eqFields fields others = true ↔
    ∀ key value, get? fields key = some value →
      ∃ other, get? others key = some other ∧ eq value other = true := by
  induction fields with
  | nil => exact iff_of_true rfl (by rintro key value ⟨⟩)
  | cons field rest ih =>
    obtain ⟨own, value⟩ := field
    rw [eqFields, Bool.and_eq_true, ih, Bool.or_eq_true]
    constructor
    · rintro ⟨here, later⟩ key found stated
      rw [get?_cons] at stated
      cases next : get? rest key with
      | some other =>
        rw [next, Option.some_or] at stated
        exact later key found (next.trans stated)
      | none =>
        rw [next, Option.none_or] at stated
        split at stated
        · rename_i same
          subst same
          cases stated
          rw [hasKey, next] at here
          cases there : get? others own with
          | none => simp [there] at here
          | some other => exact ⟨other, rfl, by simpa [there] using here⟩
        · cases stated
    · intro all
      constructor
      · cases next : get? rest own with
        | some other => exact .inl (by rw [hasKey, next]; rfl)
        | none =>
          obtain ⟨other, there, same⟩ := all own value (by rw [get?_cons, next, if_pos rfl]; rfl)
          exact .inr (by rw [there]; exact same)
      · intro key found stated
        exact all key found (by rw [get?_cons, stated, Option.some_or])

/-- **Objects are equal when they have the same keys, with equal values.** -/
theorem eq_obj_iff {fields others : Dict} : eq (.obj fields) (.obj others) = true ↔
    (∀ key, hasKey fields key = hasKey others key) ∧ ∀ key value other,
      get? fields key = some value → get? others key = some other → eq value other = true := by
  rw [eq, Bool.and_eq_true, eqFields_iff, List.all_eq_true]
  constructor
  · rintro ⟨each, listed⟩
    refine ⟨fun key => Bool.eq_iff_iff.mpr ⟨fun here => ?_, fun there => ?_⟩, ?_⟩
    · obtain ⟨value, stated⟩ := Option.isSome_iff_exists.mp here
      obtain ⟨other, there, -⟩ := each key value stated
      exact Option.isSome_iff_exists.mpr ⟨other, there⟩
    · obtain ⟨other, stated⟩ := Option.isSome_iff_exists.mp there
      exact listed _ (mem_of_get? stated)
    · intro key value other stated there
      obtain ⟨found, there', same⟩ := each key value stated
      rwa [Option.some.inj (there.symm.trans there')]
  · rintro ⟨keys, each⟩
    constructor
    · intro key value stated
      have there : hasKey others key = true := by rw [← keys, hasKey, stated]; rfl
      obtain ⟨other, found⟩ := Option.isSome_iff_exists.mp there
      exact ⟨other, found, each key value other stated found⟩
    · intro field member
      rw [keys]
      by_contra absent
      rw [hasKey, Option.not_isSome_iff_eq_none] at absent
      exact get?_eq_none_iff.mp absent field member rfl

/-- **Equal values are equal to the same values.** -/
theorem eq_congr_left (a : Json) : ∀ b c : Json, eq a b = true → eq a c = eq b c := by
  have numbers {a : Json} {x : Int × Int} (own : a.number? = some x) (b c : Json)
      (same : eq a b = true) : eq a c = eq b c := by
    obtain ⟨y, own', values⟩ := number_of_eq own same
    rw [Bool.eq_iff_iff, eq_number_iff own, eq_number_iff own', values]
  induction a using tree_induction with
  | null =>
    intro b c same
    cases b <;> first | rfl | cases same
  | bool | int | float => exact numbers rfl
  | str text =>
    intro b c same
    cases b with
    | str other =>
      rw [eq, beq_iff_eq] at same
      rw [same]
    | _ => cases same
  | arr items ih =>
    intro b c same
    cases b with
    | arr others =>
      cases c with
      | arr rest =>
        rw [eq] at same
        rw [eq, eq]
        induction items generalizing others rest with
        | nil =>
          cases others with
          | nil => rfl
          | cons other others => cases same
        | cons item items step =>
          cases others with
          | nil => cases same
          | cons other others =>
            rw [eqItems, Bool.and_eq_true] at same
            cases rest with
            | nil => rfl
            | cons third rest =>
              rw [eqItems, eqItems, ih item List.mem_cons_self other third same.1,
                step (fun part member => ih part (List.mem_cons_of_mem _ member)) others same.2 rest]
      | _ => rfl
    | _ => cases same
  | obj fields ih =>
    intro b c same
    cases b with
    | obj others =>
      cases c with
      | obj rest =>
        obtain ⟨keys, each⟩ := eq_obj_iff.mp same
        rw [Bool.eq_iff_iff, eq_obj_iff, eq_obj_iff]
        refine and_congr (forall_congr' fun key => by rw [keys key]) (forall_congr' fun key => ?_)
        have keyed := keys key
        rw [hasKey, hasKey] at keyed
        cases here : get? fields key with
        | none =>
          rw [here] at keyed
          rw [Option.isNone_iff_eq_none.mp (Option.isSome_eq_false_iff.mp keyed.symm)]
        | some value =>
          rw [here] at keyed
          obtain ⟨other, there⟩ := Option.isSome_iff_exists.mp keyed.symm
          have alike (third : Json) : eq value third = eq other third :=
            ih (key, value) (mem_of_get? here) other third (each key value other here there)
          rw [there]
          constructor
          · rintro all _ third ⟨⟩ found
            rw [← alike]
            exact all value third rfl found
          · rintro all _ third ⟨⟩ found
            rw [alike]
            exact all other third rfl found
      | _ => rfl
    | _ => cases same

theorem eq_comm' (a b : Json) : eq a b = eq b a := by
  have forth {a b : Json} (same : eq a b = true) : eq b a = true := by
    rw [← eq_congr_left a b a same]
    exact eq_self a
  exact Bool.eq_iff_iff.mpr ⟨forth, forth⟩

/-! ### The order -/

theorem less_number {a b : Json} {x y : Int × Int} (own : a.number? = some x)
    (own' : b.number? = some y) : less a b = some (lessNumber x y) := by
  cases a <;> cases own <;> cases b <;> cases own' <;> rfl

theorem less_number_none {a b : Json} {x : Int × Int} (own : a.number? = some x)
    (other : b.number? = none) : less a b = none ∧ less b a = none := by
  cases a <;> cases own <;> cases b <;> cases other <;> exact ⟨rfl, rfl⟩

theorem less_congr (a : Json) : ∀ b c : Json, eq a b = true →
    less a c = less b c ∧ less c a = less c b := by
  have numbers {a : Json} {x : Int × Int} (own : a.number? = some x) (b c : Json)
      (same : eq a b = true) : less a c = less b c ∧ less c a = less c b := by
    obtain ⟨y, own', values⟩ := number_of_eq own same
    cases third : c.number? with
    | none =>
      have left := less_number_none own third
      have right := less_number_none own' third
      exact ⟨left.1.trans right.1.symm, left.2.trans right.2.symm⟩
    | some z =>
      rw [less_number own third, less_number own' third, less_number third own,
        less_number third own']
      constructor <;> rw [Option.some.injEq, Bool.eq_iff_iff, lessNumber_iff, lessNumber_iff, values]
  induction a using tree_induction with
  | null =>
    intro b c same
    cases b <;> first | exact ⟨rfl, rfl⟩ | cases same
  | bool | int | float => exact numbers rfl
  | str text =>
    intro b c same
    cases b with
    | str other =>
      rw [eq, beq_iff_eq] at same
      rw [same]
      exact ⟨rfl, rfl⟩
    | _ => cases same
  | obj fields =>
    intro b c same
    cases b with
    | obj others => cases c <;> exact ⟨rfl, rfl⟩
    | _ => cases same
  | arr items ih =>
    intro b c same
    cases b with
    | arr others =>
      cases c with
      | arr rest =>
        rw [eq] at same
        rw [less, less, less, less]
        induction items generalizing others rest with
        | nil =>
          cases others with
          | nil => exact ⟨rfl, rfl⟩
          | cons other others => cases same
        | cons item items step =>
          cases others with
          | nil => cases same
          | cons other others =>
            rw [eqItems, Bool.and_eq_true] at same
            cases rest with
            | nil => exact ⟨rfl, rfl⟩
            | cons third rest =>
              have heads := ih item List.mem_cons_self other third same.1
              have tails := step (fun part member => ih part (List.mem_cons_of_mem _ member)) others
                same.2 rest
              have left : eq item third = eq other third := eq_congr_left item other third same.1
              have right : eq third item = eq third other := by
                rw [eq_comm' third item, left, eq_comm']
              simp only [lessItems]
              rw [heads.1, heads.2, tails.1, tails.2, left, right]
              exact ⟨rfl, rfl⟩
      | _ => exact ⟨rfl, rfl⟩
    | _ => cases same

theorem less_isSome_cases {a b : Json} (compared : (less a b).isSome) :
    (∃ x y, a.number? = some x ∧ b.number? = some y) ∨ (∃ text other, a = .str text ∧ b = .str other) ∨
      ∃ items others, a = .arr items ∧ b = .arr others := by
  cases own : a.number? with
  | some x =>
    cases other : b.number? with
    | some y => exact .inl ⟨x, y, rfl, rfl⟩
    | none =>
      rw [(less_number_none own other).1] at compared
      cases compared
  | none =>
    cases a <;> cases own <;> cases b <;> first
      | exact .inr (.inl ⟨_, _, rfl, rfl⟩)
      | exact .inr (.inr ⟨_, _, rfl, rfl⟩)
      | cases compared

/-- **What is less is not equal, and not greater.** -/
theorem less_true (a : Json) : ∀ b : Json, less a b = some true →
    eq a b = false ∧ less b a = some false := by
  induction a using tree_induction with
  | arr items ih =>
    intro b smaller
    cases b with
    | arr others =>
      rw [less] at smaller
      rw [less, eq]
      induction items generalizing others with
      | nil =>
        cases others with
        | nil => cases smaller
        | cons other others => exact ⟨rfl, rfl⟩
      | cons item items step =>
        cases others with
        | nil => cases smaller
        | cons other others =>
          rw [lessItems] at smaller
          rw [lessItems, eqItems, eq_comm' other item]
          cases heads : eq item other with
          | true =>
            rw [heads, if_pos rfl] at smaller
            rw [if_pos rfl, Bool.true_and]
            exact step (fun part member => ih part (List.mem_cons_of_mem _ member)) others smaller
          | false =>
            rw [heads, if_neg (by rintro ⟨⟩)] at smaller
            rw [if_neg (by rintro ⟨⟩), Bool.false_and]
            exact ⟨rfl, (ih item List.mem_cons_self other smaller).2⟩
    | _ => cases smaller
  | str text =>
    intro b smaller
    cases b with
    | str other =>
      have below : text < other := by simpa [less] using smaller
      rw [eq, less, decide_eq_false (not_lt_of_gt below)]
      exact ⟨beq_false_of_ne below.ne, rfl⟩
    | _ => cases smaller
  | null | obj => intro b smaller; cases b <;> cases smaller
  | bool | int | float =>
    intro b smaller
    obtain ⟨x, y, own, own'⟩ := (less_isSome_cases (by rw [smaller]; rfl)).resolve_right (by simp)
    rw [less_number own own', Option.some.injEq, lessNumber_iff] at smaller
    rw [less_number own' own, Bool.eq_false_iff, ne_eq, eq_number_iff own]
    refine ⟨?_, ?_⟩
    · rintro ⟨z, found, values⟩
      rw [Option.some.inj (own'.symm.trans found)] at smaller
      exact smaller.ne values
    · rw [Option.some.injEq, Bool.eq_false_iff, ne_eq, lessNumber_iff]
      exact smaller.not_gt

/-- **What is not less is equal or greater.** -/
theorem less_false (a : Json) : ∀ b : Json, less a b = some false →
    eq a b = true ∨ less b a = some true := by
  induction a using tree_induction with
  | arr items ih =>
    intro b above
    cases b with
    | arr others =>
      rw [less] at above
      rw [less, eq]
      induction items generalizing others with
      | nil =>
        cases others with
        | nil => exact .inl rfl
        | cons other others => cases above
      | cons item items step =>
        cases others with
        | nil => exact .inr rfl
        | cons other others =>
          rw [lessItems] at above
          rw [lessItems, eqItems, eq_comm' other item]
          cases heads : eq item other with
          | true =>
            rw [heads, if_pos rfl] at above
            rw [if_pos rfl, Bool.true_and]
            exact step (fun part member => ih part (List.mem_cons_of_mem _ member)) others above
          | false =>
            rw [heads, if_neg (by rintro ⟨⟩)] at above
            rw [if_neg (by rintro ⟨⟩)]
            exact .inr ((ih item List.mem_cons_self other above).resolve_left (by rw [heads]; rintro ⟨⟩))
    | _ => cases above
  | str text =>
    intro b above
    cases b with
    | str other =>
      rw [less, Option.some.injEq, decide_eq_false_iff_not] at above
      have reached : other ≤ text := not_lt.mp above
      rcases reached.lt_or_eq with below | same
      · exact .inr (by rw [less, decide_eq_true below])
      · exact .inl (by rw [eq, same, beq_self_eq_true])
    | _ => cases above
  | null | obj => intro b above; cases b <;> cases above
  | bool | int | float =>
    intro b above
    obtain ⟨x, y, own, own'⟩ := (less_isSome_cases (by rw [above]; rfl)).resolve_right (by simp)
    rw [less_number own own', Option.some.injEq, Bool.eq_false_iff, ne_eq, lessNumber_iff, not_lt]
      at above
    rw [less_number own' own, eq_number_iff own, Option.some.injEq, lessNumber_iff]
    exact above.lt_or_eq.symm.imp (fun same => ⟨y, own', same.symm⟩) id

/-- **The order is transitive.** -/
theorem less_trans (a : Json) : ∀ b c : Json, less a b = some true → less b c = some true →
    less a c = some true := by
  induction a using tree_induction with
  | arr items ih =>
    intro b c first second
    cases b with
    | arr others =>
      cases c with
      | arr rest =>
        rw [less] at first second ⊢
        induction items generalizing others rest with
        | nil =>
          cases others with
          | nil => cases first
          | cons other others =>
            cases rest with
            | nil => cases second
            | cons third rest => rfl
        | cons item items step =>
          cases others with
          | nil => cases first
          | cons other others =>
            cases rest with
            | nil => cases second
            | cons third rest =>
              rw [lessItems] at first second ⊢
              cases heads : eq item other with
              | true =>
                rw [heads, if_pos rfl] at first
                rw [eq_congr_left item other third heads, (less_congr item other third heads).1]
                split at second
                · rename_i equal
                  rw [if_pos equal]
                  exact step (fun part member => ih part (List.mem_cons_of_mem _ member)) others
                    first rest second
                · rename_i apart
                  rw [if_neg apart]
                  exact second
              | false =>
                rw [heads, if_neg (by rintro ⟨⟩)] at first
                split at second
                · rename_i equal
                  have same : eq third other = true := by rwa [eq_comm']
                  rw [eq_comm' item third, eq_congr_left third other item same, eq_comm' other item,
                    heads, if_neg (by rintro ⟨⟩), (less_congr third other item same).2]
                  exact first
                · have smaller := ih item List.mem_cons_self other third first second
                  rw [(less_true item third smaller).1, if_neg (by rintro ⟨⟩)]
                  exact smaller
      | _ => cases second
    | _ => cases first
  | str text =>
    intro b c first second
    cases b with
    | str other =>
      cases c with
      | str third =>
        have below : text < other := by simpa [less] using first
        have above : other < third := by simpa [less] using second
        rw [less, decide_eq_true (below.trans above)]
      | _ => cases second
    | _ => cases first
  | null | obj => intro b c first; cases b <;> cases first
  | bool | int | float =>
    intro b c first second
    obtain ⟨x, y, own, own'⟩ := (less_isSome_cases (by rw [first]; rfl)).resolve_right (by simp)
    cases third : c.number? with
    | none =>
      rw [(less_number_none own' third).1] at second
      cases second
    | some z =>
      rw [less_number own own', Option.some.injEq, lessNumber_iff] at first
      rw [less_number own' third, Option.some.injEq, lessNumber_iff] at second
      rw [less_number own third, Option.some.injEq, lessNumber_iff]
      exact first.trans second

/-- **Among values that compare, not being less is transitive.** -/
theorem notLess_trans {a b c : Json} (compared : (less b a).isSome) (first : less b a ≠ some true)
    (second : less c b ≠ some true) : less c a ≠ some true := by
  intro smaller
  have above : less b a = some false := by
    cases found : less b a with
    | none => rw [found] at compared; cases compared
    | some answer =>
      cases answer with
      | false => rfl
      | true => exact absurd found first
  rcases less_false b a above with same | greater
  · rw [← (less_congr b a c same).2] at smaller
    exact second smaller
  · exact second (less_trans c a b smaller greater)

theorem notLess_total (a b : Json) : less b a ≠ some true ∨ less a b ≠ some true := by
  by_cases smaller : less b a = some true
  · refine .inr fun greater => ?_
    rw [(less_true b a smaller).2] at greater
    cases greater
  · exact .inl smaller

end Json
