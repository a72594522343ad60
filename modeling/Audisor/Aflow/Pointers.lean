/-
**Where the locations of a plan lead.**

* `readInt_decimal` — `int` reads the numeral of a number.
* `pointerTokens_path` — the tokens of a pointer are the ones that it is written with.
* `resolves_item`, `resolves_field` — the pointers to an item of a list, and to a field of one.
-/

import Audisor.Aflow.Substantiation
import Audisor.Json.RoundTrip

namespace Text

/-! ### Numerals -/

theorem strip_visible {text : List Char} (visible : ∀ c ∈ text, isWhitespace c = false) :
    strip text = text := by
  have kept : text.dropWhile isWhitespace = text := by
    cases text with
    | nil => rfl
    | cons c rest => rw [List.dropWhile_cons, if_neg (by simp [visible c List.mem_cons_self])]
  rw [strip, kept, List.rdropWhile]
  have kept' : text.reverse.dropWhile isWhitespace = text.reverse := by
    cases reversed : text.reverse with
    | nil => rfl
    | cons c rest =>
      have member : c ∈ text := List.mem_reverse.mp (reversed ▸ List.mem_cons_self)
      rw [List.dropWhile_cons, if_neg (by simp [visible c member])]
  rw [kept', List.reverse_reverse]

theorem isDigit_bounds {c : Char} (digit : c.isDigit = true) : 48 ≤ c.toNat ∧ c.toNat ≤ 57 := by
  simp only [Char.isDigit, Bool.and_eq_true, decide_eq_true_eq, UInt32.le_iff_toNat_le] at digit
  exact digit

theorem isDigit_visible {c : Char} (digit : c.isDigit = true) : isWhitespace c = false := by
  obtain ⟨low, high⟩ := isDigit_bounds digit
  have apart : ∀ n, 48 ≤ n → n ≤ 57 → isWhitespace (Char.ofNat n) = false := by decide
  have same := apart c.toNat low high
  rwa [Char.ofNat_toNat] at same

theorem digitValue_digit {c : Char} (digit : c.isDigit = true) :
    digitValue c = some (c.toNat - '0'.toNat) := by
  obtain ⟨low, high⟩ := isDigit_bounds digit
  have ascii : zeros.find? (fun first => first ≤ c.toNat ∧ c.toNat < first + 10) = some 0x0030 := by
    rw [zeros, List.find?_cons_of_pos]
    simp only [decide_eq_true_eq]
    omega
  rw [digitValue, ascii]
  rfl

theorem readDigits_digits {digits : List Char} (all : ∀ c ∈ digits, c.isDigit = true)
    (value : Nat) : readDigits value digits =
      some (digits.foldl (fun total digit => 10 * total + (digit.toNat - '0'.toNat)) value) := by
  induction digits generalizing value with
  | nil => rfl
  | cons c rest ih =>
    rw [List.forall_mem_cons] at all
    have plain : c ≠ '_' := by
      rintro rfl
      exact absurd all.1 (by decide)
    rw [readDigits, digitValue_digit all.1]
    · exact ih all.2 _
    · rintro _ _ rfl
      exact absurd rfl plain

/-- **`int` reads a numeral.** -/
theorem readInt_decimal (n : Nat) : readInt (Json.decimal n) = some (n : Int) := by
  have all := Json.decimal_isDigit n
  have read : readNatural (Json.decimal n) = some n := by
    obtain ⟨c, rest, spelled⟩ := List.exists_cons_of_ne_nil (Json.decimal_ne_nil n)
    rw [spelled, List.forall_mem_cons] at all
    have value := Json.ofDigits_decimal n
    rw [spelled, Json.ofDigits, List.foldl_cons, Nat.mul_zero, Nat.zero_add] at value
    rw [spelled, readNatural, digitValue_digit all.1, Option.bind_some,
      readDigits_digits all.2, value]
  rw [readInt, strip_visible fun c member => isDigit_visible (all c member)]
  split
  · rename_i spelled
    rw [spelled, List.forall_mem_cons] at all
    exact absurd all.1 (by decide)
  · rename_i spelled
    rw [spelled, List.forall_mem_cons] at all
    exact absurd all.1 (by decide)
  · rw [read]
    rfl

theorem replaceMark_absent {first second mark : Char} {text : List Char} (absent : first ∉ text) :
    replaceMark first second mark text = text := by
  fun_induction replaceMark first second mark text with
  | case1 a b rest found ih =>
    rw [found.1] at absent
    exact absurd List.mem_cons_self absent
  | case2 a b rest other ih => rw [ih fun member => absent (List.mem_cons_of_mem _ member)]
  | case3 => rfl

end Text

namespace Audisor.Aflow

open Json

/-! ### Pointers -/

def Plain (token : List Char) : Prop := '/' ∉ token ∧ '~' ∉ token

theorem plain_decimal (n : Nat) : Plain (decimal n) :=
  ⟨fun member => absurd (decimal_isDigit n _ member) (by decide),
    fun member => absurd (decimal_isDigit n _ member) (by decide)⟩

def pathText (tokens : List (List Char)) : List Char := tokens.flatMap fun token => '/' :: token

theorem splitOn_path (rest : List (List Char)) (first : List Char)
    (plain : ∀ token ∈ first :: rest, '/' ∉ token) :
    (first ++ pathText rest).splitOn '/' = first :: rest := by
  induction rest generalizing first with
  | nil =>
    rw [pathText, List.flatMap_nil, List.append_nil]
    exact List.splitOn_eq_singleton (plain first List.mem_cons_self)
  | cons token others ih =>
    rw [pathText, List.flatMap_cons, List.cons_append,
      List.splitOn_append_cons_self_of_not_mem (plain first List.mem_cons_self)]
    exact congrArg _ (ih token fun other member => plain other (List.mem_cons_of_mem _ member))

/-- **The tokens of a pointer** are the ones that it is written with. -/
theorem pointerTokens_path {first : List Char} {rest : List (List Char)} (written : first ≠ [])
    (plain : ∀ token ∈ first :: rest, Plain token) :
    pointerTokens (pathText (first :: rest)) = first :: rest := by
  obtain ⟨c, tail, rfl⟩ := List.exists_cons_of_ne_nil written
  have apart : c ≠ '/' := fun same =>
    (plain _ List.mem_cons_self).1 (same ▸ List.mem_cons_self)
  have opens : (pathText ((c :: tail) :: rest)).dropWhile (· = '/') =
      (c :: tail) ++ pathText rest := by
    rw [pathText, List.flatMap_cons, List.cons_append, List.dropWhile_cons, if_pos (by simp),
      List.cons_append, List.dropWhile_cons, if_neg (by simpa using apart)]
    rfl
  rw [pointerTokens, opens, splitOn_path rest _ fun token member => (plain token member).1]
  conv_rhs => rw [← List.map_id ((c :: tail) :: rest)]
  apply List.map_congr_left
  intro token member
  rw [Text.replaceMark_absent (plain token member).2,
    Text.replaceMark_absent (plain token member).2, id]

/-! ### Locations -/

theorem pythonItem_natural (items : List Json) (index : Nat) :
    pythonItem items (index : Int) = items[index]? := by
  have natural : ¬ (index : Int) < 0 := by omega
  rw [pythonItem]
  simp only [if_neg natural, Int.toNat_natCast]

theorem stepInto_item (items : List Json) (index : Nat) :
    stepInto (decimal index) (.arr items) = items[index]? := by
  rw [stepInto, Text.readInt_decimal, Option.bind_some, pythonItem_natural]

theorem stepInto_field (fields : Dict) (field : String) :
    stepInto field.toList (.obj fields) = get? fields field := by
  rw [stepInto, String.ofList_toList]

theorem planScoped_plan (rest : String) : planScoped ("/plan" ++ rest) = rest.toList := by
  rw [planScoped, Text.removeStart, String.toList_append, if_pos]
  · exact List.drop_left
  · rw [List.isPrefixOf_iff_prefix]
    exact List.prefix_append _ _

/-- **The pointer to an item of a list** resolves inside the list. -/
theorem resolves_item {fields : Dict} {field : String} {items : List Json} {index : Nat}
    (written : field ≠ "") (plain : Plain field.toList)
    (found : get? fields field = some (.arr items)) :
    resolvePointer (.obj fields) (pathText [field.toList, decimal index]) =
      decide (index < items.length) := by
  have tokens := @pointerTokens_path field.toList [decimal index]
    (fun empty => written (String.toList_eq_nil_iff.mp empty)) (by
      simp only [List.forall_mem_cons, List.not_mem_nil, false_imp_iff, implies_true, and_true]
      exact ⟨plain, plain_decimal index⟩)
  rw [resolvePointer, tokens]
  simp only [List.foldl_cons, List.foldl_nil, Option.bind_some, stepInto_field, found, stepInto_item]
  rw [show (pathText [field.toList, decimal index]).isEmpty = false from rfl, Bool.false_or,
    Bool.eq_iff_iff, Option.isSome_iff_ne_none, Ne, List.getElem?_eq_none_iff, decide_eq_true_eq]
  omega

/-- **The pointer to a field of an item** resolves when the item has the field. -/
theorem resolves_field {fields own : Dict} {field inner : String} {items : List Json} {index : Nat}
    (written : field ≠ "") (plain : Plain field.toList) (plain' : Plain inner.toList)
    (found : get? fields field = some (.arr items)) (listed : items[index]? = some (.obj own)) :
    resolvePointer (.obj fields) (pathText [field.toList, decimal index, inner.toList]) =
      hasKey own inner := by
  have tokens := @pointerTokens_path field.toList [decimal index, inner.toList]
    (fun empty => written (String.toList_eq_nil_iff.mp empty)) (by
      simp only [List.forall_mem_cons, List.not_mem_nil, false_imp_iff, implies_true, and_true]
      exact ⟨plain, plain_decimal index, plain'⟩)
  rw [resolvePointer, tokens]
  simp only [List.foldl_cons, List.foldl_nil, Option.bind_some, stepInto_field, found,
    stepInto_item, listed]
  rfl

end Audisor.Aflow
