/-
**Which characters the text of a value contains.**

* `texts` — the strings of a value, keys included.
* **`mem_render`** — with `ensure_ascii=False`, a character that is not a printable ASCII one is in
  the text of a value exactly when it lies above them and is in one of the value's strings.
-/

import Audisor.Json.RoundTrip
import Audisor.Text.Lines

namespace Json

open Text

/-! ### The characters of a text -/

def Printable (c : Char) : Prop := 0x20 ≤ c.toNat ∧ c.toNat ≤ 0x7e

instance (c : Char) : Decidable (Printable c) := inferInstanceAs (Decidable (_ ∧ _))

mutual

def texts : Json → List String
  | .str text => [text]
  | .arr items => textsItems items
  | .obj fields => textsFields fields
  | _ => []

def textsItems : List Json → List String
  | [] => []
  | item :: rest => texts item ++ textsItems rest

def textsFields : List (String × Json) → List String
  | [] => []
  | (key, value) :: rest => key :: (texts value ++ textsFields rest)

end

theorem not_mem_of_printable {c : Char} (text : List Char) (special : ¬ Printable c)
    (plain : ∀ d ∈ text, Printable d) : c ∉ text := fun member => special (plain c member)

theorem isNumberChar_printable {c : Char} (number : isNumberChar c = true) : Printable c := by
  simp only [isNumberChar, Bool.or_eq_true, beq_iff_eq, Char.isDigit, Bool.and_eq_true,
    decide_eq_true_eq] at number
  rcases number with ((((⟨low, high⟩ | rfl) | rfl) | rfl) | rfl) | rfl
  · have low : 48 ≤ c.toNat := low
    have high : c.toNat ≤ 57 := high
    exact ⟨by omega, by omega⟩
  all_goals decide

theorem unicodeEscape_printable (n : Nat) : ∀ c ∈ unicodeEscape n, Printable c := by
  have digit : ∀ n, Printable (hexChar (n % 16)) := by
    have small : ∀ d < 16, Printable (hexChar d) := by decide
    exact fun n => small _ (Nat.mod_lt _ (by decide))
  have four : ∀ n, ∀ c ∈ '\\' :: 'u' :: hex4 n, Printable c := by
    intro n c member
    simp only [hex4, List.mem_cons, List.not_mem_nil, or_false] at member
    rcases member with rfl | rfl | rfl | rfl | rfl | rfl
    · decide
    · decide
    all_goals exact digit _
  intro c member
  unfold unicodeEscape at member
  split at member
  · exact four _ c member
  · rcases List.mem_append.mp member with first | second
    · exact four _ c first
    · exact four _ c second

theorem not_mem_gap {c : Char} (special : ¬ Printable c) (style : Style) : c ∉ style.gap := by
  unfold Style.gap
  split
  · exact List.not_mem_nil
  · exact not_mem_of_printable _ special (forall_chars (by decide))

theorem mem_escapeChar {style : Style} (raw : style.ensureAscii = false) {c : Char}
    (special : ¬ Printable c) (d : Char) : c ∈ escapeChar style d ↔ 0x7e < c.toNat ∧ c = d := by
  have escaped : ∀ {text : List Char}, (∀ e ∈ text, Printable e) → (Printable d ∨ d.toNat < 0x20) →
      (c ∈ text ↔ 0x7e < c.toNat ∧ c = d) := by
    intro text plain known
    refine ⟨fun member => absurd (plain c member) special, ?_⟩
    rintro ⟨high, rfl⟩
    rcases known with known | low
    · exact absurd known special
    · omega
  unfold escapeChar
  split
  · subst_vars; exact escaped (forall_chars (by decide)) (by decide)
  split
  · subst_vars; exact escaped (forall_chars (by decide)) (by decide)
  split
  · subst_vars; exact escaped (forall_chars (by decide)) (by decide)
  split
  · subst_vars; exact escaped (forall_chars (by decide)) (by decide)
  split
  · subst_vars; exact escaped (forall_chars (by decide)) (by decide)
  split
  · subst_vars; exact escaped (forall_chars (by decide)) (by decide)
  split
  · subst_vars; exact escaped (forall_chars (by decide)) (by decide)
  split
  · rename_i control
    simp only [raw, Bool.false_eq_true, false_and, or_false] at control
    exact escaped (unicodeEscape_printable _) (Or.inr control)
  · rename_i plain
    simp only [raw, Bool.false_eq_true, false_and, or_false] at plain
    rw [List.mem_singleton]
    refine ⟨fun same => ⟨?_, same⟩, And.right⟩
    subst same
    simp only [Printable] at special
    omega

theorem mem_renderString {style : Style} (raw : style.ensureAscii = false) {c : Char}
    (special : ¬ Printable c) (text : List Char) :
    c ∈ renderString style text ↔ 0x7e < c.toNat ∧ c ∈ text := by
  have quote : c ≠ '"' := by
    rintro rfl
    exact special (by decide)
  simp only [renderString, List.mem_cons, List.mem_append, List.mem_flatMap, List.not_mem_nil,
    or_false, quote, false_or, mem_escapeChar raw special]
  constructor
  · rintro ⟨d, member, high, rfl⟩
    exact ⟨high, member⟩
  · rintro ⟨high, member⟩
    exact ⟨c, member, high, rfl⟩

mutual

/-- **A character beyond the printable ones is in the text of a value exactly when it is in one of
its strings.** -/
theorem mem_render {style : Style} (raw : style.ensureAscii = false) {c : Char}
    (special : ¬ Printable c) : ∀ value : Json,
    c ∈ render style value ↔ 0x7e < c.toNat ∧ ∃ text ∈ texts value, c ∈ text.toList
  | .null => by
    simpa [render, texts] using
      not_mem_of_printable ['n', 'u', 'l', 'l'] special (forall_chars (by decide))
  | .bool true => by
    simpa [render, texts] using
      not_mem_of_printable ['t', 'r', 'u', 'e'] special (forall_chars (by decide))
  | .bool false => by
    simpa [render, texts] using
      not_mem_of_printable ['f', 'a', 'l', 's', 'e'] special (forall_chars (by decide))
  | .int n => by
    simpa [render, texts] using not_mem_of_printable _ special fun d member =>
      isNumberChar_printable (renderInt_isNumberChar n d member)
  | .float literal => by
    simpa [render, texts] using not_mem_of_printable _ special fun d member =>
      isNumberChar_printable (float_isNumberChar literal d member)
  | .str text => by
    simp [render, texts, mem_renderString raw special]
  | .arr items => by
    have bracket : c ≠ '[' := by
      rintro rfl
      exact special (by decide)
    rw [render, List.mem_cons, mem_renderItems raw special items, texts]
    simp [bracket]
  | .obj fields => by
    have brace : c ≠ '{' := by
      rintro rfl
      exact special (by decide)
    rw [render, List.mem_cons, mem_renderFields raw special fields, texts]
    simp [brace]

theorem mem_renderItems {style : Style} (raw : style.ensureAscii = false) {c : Char}
    (special : ¬ Printable c) : ∀ items : List Json,
    c ∈ renderItems style items ↔ 0x7e < c.toNat ∧ ∃ text ∈ textsItems items, c ∈ text.toList
  | [] => by
    simpa [renderItems, textsItems] using not_mem_of_printable [']'] special (forall_chars (by decide))
  | item :: rest => by
    rw [renderItems, List.mem_append, mem_render raw special item, mem_renderMoreItems raw special rest, textsItems]
    simp only [List.mem_append, or_and_right, exists_or, and_or_left]

theorem mem_renderMoreItems {style : Style} (raw : style.ensureAscii = false) {c : Char}
    (special : ¬ Printable c) : ∀ items : List Json,
    c ∈ renderMoreItems style items ↔ 0x7e < c.toNat ∧ ∃ text ∈ textsItems items, c ∈ text.toList
  | [] => by
    simpa [renderMoreItems, textsItems] using
      not_mem_of_printable [']'] special (forall_chars (by decide))
  | item :: rest => by
    have comma : c ≠ ',' := by
      rintro rfl
      exact special (by decide)
    rw [renderMoreItems, List.mem_cons, List.mem_append, List.mem_append, mem_render raw special item,
      mem_renderMoreItems raw special rest, textsItems]
    simp only [comma, not_mem_gap special style, false_or, List.mem_append, or_and_right, exists_or,
      and_or_left]

theorem mem_renderFields {style : Style} (raw : style.ensureAscii = false) {c : Char}
    (special : ¬ Printable c) : ∀ fields : List (String × Json),
    c ∈ renderFields style fields ↔ 0x7e < c.toNat ∧ ∃ text ∈ textsFields fields, c ∈ text.toList
  | [] => by
    simpa [renderFields, textsFields] using
      not_mem_of_printable ['}'] special (forall_chars (by decide))
  | (key, value) :: rest => by
    have colon : c ≠ ':' := by
      rintro rfl
      exact special (by decide)
    rw [renderFields, List.mem_append, List.mem_cons, List.mem_append, List.mem_append,
      mem_renderString raw special, mem_render raw special value, mem_renderMoreFields raw special rest, textsFields]
    simp only [colon, not_mem_gap special style, false_or, List.mem_append, List.mem_cons,
      or_and_right, exists_or, and_or_left, exists_eq_left]

theorem mem_renderMoreFields {style : Style} (raw : style.ensureAscii = false) {c : Char}
    (special : ¬ Printable c) : ∀ fields : List (String × Json),
    c ∈ renderMoreFields style fields ↔
      0x7e < c.toNat ∧ ∃ text ∈ textsFields fields, c ∈ text.toList
  | [] => by
    simpa [renderMoreFields, textsFields] using
      not_mem_of_printable ['}'] special (forall_chars (by decide))
  | (key, value) :: rest => by
    have colon : c ≠ ':' := by
      rintro rfl
      exact special (by decide)
    have comma : c ≠ ',' := by
      rintro rfl
      exact special (by decide)
    rw [renderMoreFields, List.mem_cons, List.mem_append, List.mem_append, List.mem_cons,
      List.mem_append, List.mem_append, mem_renderString raw special, mem_render raw special value,
      mem_renderMoreFields raw special rest, textsFields]
    simp only [colon, comma, not_mem_gap special style, false_or, List.mem_append, List.mem_cons,
      or_and_right, exists_or, and_or_left, exists_eq_left]

end

end Json
