/-
**Lines of a text, as Python cuts them.**

* `splitlines`, `universalNewlines`, `strip` — `str.splitlines`, the newline translation of a file
  that is opened in text mode, and `str.strip`.
* `pieces` — the text between the line boundaries, one more than there are boundaries.
  **`splitlines_filterMap`** — a reader that drops empty lines sees the same in both.
* `unfinished` — the text behind the last boundary. `pieces_onto` — what is written behind a text
  goes on with its unfinished piece.
* `decode_append` — UTF-8 text, and bytes behind it; `decode_cut` — the bytes of a text, cut.
-/

import Mathlib.Data.List.DropRight

namespace Text

theorem forall_chars {p : Char → Prop} [DecidablePred p] {text : List Char}
    (checked : (text.all fun c => p c) = true) : ∀ c ∈ text, p c := by
  simpa using checked

/-! ### As Python computes them -/

/-- Where `str.splitlines` cuts. -/
def isLineBoundary (c : Char) : Bool :=
  c ∈ ['\n', '\x0b', '\x0c', '\r', '\x1c', '\x1d', '\x1e', '\u0085', '\u2028', '\u2029']

/-- What `str.isspace` says of a character. -/
def isWhitespace (c : Char) : Bool :=
  ('\t' ≤ c && c ≤ '\r') || ('\x1c' ≤ c && c ≤ ' ') || ('\u2000' ≤ c && c ≤ '\u200a') ||
    c ∈ ['\u0085', '\u00a0', '\u1680', '\u2028', '\u2029', '\u202f', '\u205f', '\u3000']

/-- `\r\n` and `\r` become `\n`. -/
def universalNewlines : List Char → List Char
  | '\r' :: '\n' :: rest => '\n' :: universalNewlines rest
  | '\r' :: rest => '\n' :: universalNewlines rest
  | c :: rest => c :: universalNewlines rest
  | [] => []

def splitlinesFrom (line : List Char) : List Char → List (List Char)
  | [] => if line.isEmpty then [] else [line]
  | '\r' :: '\n' :: rest => line :: splitlinesFrom [] rest
  | c :: rest =>
    if isLineBoundary c then line :: splitlinesFrom [] rest else splitlinesFrom (line ++ [c]) rest

/-- `text.splitlines()`. -/
def splitlines (text : List Char) : List (List Char) := splitlinesFrom [] text

/-- `text.strip()`. -/
def strip (text : List Char) : List Char := (text.dropWhile isWhitespace).rdropWhile isWhitespace

theorem universalNewlines_of_noReturn {text : List Char} (noReturn : '\r' ∉ text) :
    universalNewlines text = text := by
  fun_induction universalNewlines text
  case case1 => simp at noReturn
  case case2 => simp at noReturn
  case case3 c rest _ _ ih => rw [ih fun member => noReturn (List.mem_cons_of_mem _ member)]
  case case4 => rfl

/-! ### Pieces -/

def pieces (text : List Char) : List (List Char) := text.splitOnP isLineBoundary

theorem splitlinesFrom_filterMap {α : Type} {read : List Char → Option α} (blank : read [] = none)
    (line text : List Char) :
    (splitlinesFrom line text).filterMap read =
      (text.splitOnPPrepend isLineBoundary line.reverse).filterMap read := by
  fun_induction splitlinesFrom line text
  case case1 line empty =>
    rw [List.isEmpty_iff.mp empty]
    simp [blank]
  case case2 line unempty => simp
  case case3 line rest ih =>
    rw [List.splitOnPPrepend_cons_pos rfl, List.splitOnP_eq_splitOnPPrepend,
      List.splitOnPPrepend_cons_pos rfl, List.reverse_reverse, List.reverse_nil,
      List.filterMap_cons, List.filterMap_cons, List.filterMap_cons, blank, ih]
    rfl
  case case4 line c rest _ boundary ih =>
    rw [List.splitOnPPrepend_cons_pos boundary, List.reverse_reverse, List.filterMap_cons,
      List.filterMap_cons, ih]
    rfl
  case case5 line c rest _ inner ih =>
    rw [List.splitOnPPrepend_cons_neg (by simpa using inner), ih, List.reverse_append]
    rfl

/-- **A reader that drops empty lines reads the pieces.** -/
theorem splitlines_filterMap {α : Type} {read : List Char → Option α} (blank : read [] = none)
    (text : List Char) : (splitlines text).filterMap read = (pieces text).filterMap read :=
  splitlinesFrom_filterMap blank [] text

def Unbroken (text : List Char) : Prop := ∀ c ∈ text, isLineBoundary c = false

instance (text : List Char) : Decidable (Unbroken text) := List.decidableBAll _ text

theorem pieces_unbroken {text : List Char} (unbroken : Unbroken text) : pieces text = [text] :=
  List.splitOnP_eq_singleton unbroken

theorem pieces_boundary (first second : List Char) {c : Char} (boundary : isLineBoundary c = true) :
    pieces (first ++ c :: second) = pieces first ++ pieces second :=
  List.splitOnP_append_cons first second boundary

def unfinished (text : List Char) : List Char := text.rtakeWhile fun c => !isLineBoundary c

theorem unbroken_unfinished (text : List Char) : Unbroken (unfinished text) := fun c member => by
  simpa using List.mem_rtakeWhile_imp member

theorem unfinished_of_unbroken {text : List Char} (unbroken : Unbroken text) :
    unfinished text = text :=
  List.rtakeWhile_eq_self_iff.mpr fun c member => by simp [unbroken c member]

theorem last_boundary (text : List Char) :
    Unbroken text ∨ ∃ front c, isLineBoundary c = true ∧ text = front ++ c :: unfinished text := by
  have split := List.rdropWhile_append_rtakeWhile (p := fun c => !isLineBoundary c) (l := text)
  by_cases none : text.rdropWhile (fun c => !isLineBoundary c) = []
  · exact Or.inl fun c member => by simpa using List.rdropWhile_eq_nil_iff.mp none c member
  · refine Or.inr ⟨(text.rdropWhile fun c => !isLineBoundary c).dropLast,
      (text.rdropWhile fun c => !isLineBoundary c).getLast none, ?_, ?_⟩
    · simpa using List.rdropWhile_last_not _ _ none
    · conv_lhs => rw [← split, ← List.dropLast_append_getLast none]
      rw [List.append_assoc]
      rfl

theorem first_boundary {text : List Char} (broken : ¬ Unbroken text) :
    ∃ front c rest, Unbroken front ∧ isLineBoundary c = true ∧ text = front ++ c :: rest := by
  induction text with
  | nil => exact absurd (fun c member => by cases member) broken
  | cons d text ih =>
    cases boundary : isLineBoundary d with
    | true => exact ⟨[], d, text, List.forall_mem_nil _, boundary, rfl⟩
    | false =>
      obtain ⟨front, c, rest, unbroken, breaks, rfl⟩ := ih fun unbroken =>
        broken (List.forall_mem_cons.mpr ⟨boundary, unbroken⟩)
      exact ⟨d :: front, c, rest, List.forall_mem_cons.mpr ⟨boundary, unbroken⟩, breaks, rfl⟩

/-- **What is written behind a text goes on with its unfinished piece.** -/
theorem pieces_onto (text more : List Char) :
    ∃ done, pieces (text ++ more) = done ++ pieces (unfinished text ++ more) ∧
      pieces text = done ++ [unfinished text] := by
  rcases last_boundary text with unbroken | ⟨front, c, boundary, split⟩
  · exact ⟨[], by rw [unfinished_of_unbroken unbroken]; rfl,
      by rw [unfinished_of_unbroken unbroken, pieces_unbroken unbroken]; rfl⟩
  · refine ⟨pieces front, ?_, ?_⟩
    · conv_lhs => rw [split, List.append_assoc, List.cons_append]
      rw [pieces_boundary _ _ boundary]
    · conv_lhs => rw [split]
      rw [pieces_boundary _ _ boundary, pieces_unbroken (unbroken_unfinished text)]

theorem mem_pieces {text piece : List Char} (member : piece ∈ pieces text) :
    Unbroken piece ∧ (piece <+: text ∨
      ∃ front c rest, isLineBoundary c = true ∧ text = front ++ c :: (piece ++ rest)) := by
  by_cases unbroken : Unbroken text
  · rw [pieces_unbroken unbroken, List.mem_singleton] at member
    subst member
    exact ⟨unbroken, Or.inl (List.prefix_refl _)⟩
  · obtain ⟨first, c, rest, inner, boundary, split⟩ := first_boundary unbroken
    rw [split, pieces_boundary _ _ boundary, pieces_unbroken inner] at member
    rcases List.mem_cons.mp member with rfl | later
    · exact ⟨inner, Or.inl ⟨c :: rest, split.symm⟩⟩
    · obtain ⟨inner, place⟩ := mem_pieces later
      refine ⟨inner, Or.inr ?_⟩
      rcases place with ⟨tail, rfl⟩ | ⟨front, d, tail, breaks, rfl⟩
      · exact ⟨first, c, tail, boundary, split⟩
      · exact ⟨first ++ c :: front, d, tail, breaks, by rw [split]; simp⟩
termination_by text.length
decreasing_by
  rw [split, List.length_append, List.length_cons]
  omega

theorem pieces_behind (front : List Char) (unbroken : Unbroken front) (text : List Char) :
    ∃ first others, pieces text = first :: others ∧ pieces (front ++ text) = (front ++ first) :: others
      ∧ first <+: text := by
  by_cases whole : Unbroken text
  · refine ⟨text, [], pieces_unbroken whole, pieces_unbroken ?_, List.prefix_refl _⟩
    intro c member
    rcases List.mem_append.mp member with early | late
    · exact unbroken c early
    · exact whole c late
  · obtain ⟨first, c, rest, inner, boundary, rfl⟩ := first_boundary whole
    refine ⟨first, pieces rest, ?_, ?_, List.prefix_append _ _⟩
    · rw [pieces_boundary _ _ boundary, pieces_unbroken inner]
      rfl
    · rw [← List.append_assoc, pieces_boundary _ _ boundary, pieces_unbroken]
      · rfl
      · intro d member
        rcases List.mem_append.mp member with early | late
        · exact unbroken d early
        · exact inner d late

/-! ### Blank text -/

def Blank (text : List Char) : Prop := ∀ c ∈ text, isWhitespace c = true

instance (text : List Char) : Decidable (Blank text) := List.decidableBAll _ text

theorem strip_blank_append {front : List Char} (blank : Blank front) (rest : List Char) :
    strip (front ++ rest) = strip rest := by
  rw [strip, List.dropWhile_append_of_pos blank, strip]

theorem rdropWhile_opens {c : Char} (visible : isWhitespace c = false) (rest : List Char) :
    (c :: rest).rdropWhile isWhitespace = c :: rest.rdropWhile isWhitespace := by
  rw [List.rdropWhile, List.reverse_cons, List.dropWhile_append, List.rdropWhile]
  split
  · rename_i blank
    rw [List.isEmpty_iff.mp blank, List.dropWhile_cons, if_neg (by simp [visible])]
    rfl
  · rw [List.reverse_append]
    rfl

theorem strip_opens {c : Char} (visible : isWhitespace c = false) (rest : List Char) :
    strip (c :: rest) = c :: rest.rdropWhile isWhitespace := by
  rw [strip, List.dropWhile_cons, if_neg (by simp [visible]), rdropWhile_opens visible]

theorem strip_append {front back : List Char} (front_written : ¬ Blank front)
    (back_written : ¬ Blank back) :
    strip (front ++ back) = front.dropWhile isWhitespace ++ back.rdropWhile isWhitespace := by
  have kept : (front.dropWhile isWhitespace).isEmpty = false := by
    rw [List.isEmpty_eq_false_iff]
    exact fun none => front_written (List.dropWhile_eq_nil_iff.mp none)
  have kept' : (back.reverse.dropWhile isWhitespace).isEmpty = false := by
    rw [List.isEmpty_eq_false_iff]
    exact fun none => back_written fun c member =>
      List.dropWhile_eq_nil_iff.mp none c (List.mem_reverse.mpr member)
  rw [strip, List.dropWhile_append, if_neg (by simp [kept]), List.rdropWhile, List.reverse_append,
    List.dropWhile_append, if_neg (by simp [kept']), List.reverse_append, List.reverse_reverse]
  rfl

theorem exists_visible {text : List Char} (written : ¬ Blank text) :
    ∃ c ∈ text.dropWhile isWhitespace, isWhitespace c = false := by
  by_contra none
  push Not at none
  refine written fun c member => ?_
  rw [← List.takeWhile_append_dropWhile (p := isWhitespace) (l := text)] at member
  rcases List.mem_append.mp member with early | late
  · exact List.all_eq_true.mp List.all_takeWhile c early
  · simpa using none c late

theorem strip_split (text : List Char) :
    ∃ before after, text = before ++ (strip text ++ after) ∧ Blank before ∧ Blank after := by
  refine ⟨text.takeWhile isWhitespace, (text.dropWhile isWhitespace).rtakeWhile isWhitespace,
    ?_, ?_, fun c member => List.mem_rtakeWhile_imp member⟩
  · rw [strip, List.rdropWhile_append_rtakeWhile, List.takeWhile_append_dropWhile]
  · exact List.all_eq_true.mp List.all_takeWhile

/-! ### Bytes -/

/-- `text.encode("utf-8")`. -/
def encode (text : List Char) : ByteArray := (String.ofList text).toUTF8

/-- `bytes.decode("utf-8")`. -/
def decode (bytes : ByteArray) : Option (List Char) := bytes.utf8Decode?.map Array.toList

@[simp] theorem encode_nil : encode [] = ByteArray.empty := by
  simp [encode]

@[simp] theorem encode_append (first second : List Char) :
    encode (first ++ second) = encode first ++ encode second := by
  simp [encode]

theorem encode_cons (c : Char) (text : List Char) : encode (c :: text) = encode [c] ++ encode text :=
  encode_append [c] text

theorem decode_append (text : List Char) (bytes : ByteArray) :
    decode (encode text ++ bytes) = (decode bytes).map fun more => text ++ more := by
  induction text with
  | nil => simp
  | cons c text ih =>
    have step : decode (encode [c] ++ (encode text ++ bytes)) =
        (decode (encode text ++ bytes)).map fun more => c :: more := by
      simp only [decode, encode, String.toUTF8_eq_toByteArray, String.toByteArray_ofList,
        ByteArray.utf8Decode?_utf8Encode_singleton_append, Option.map_map]
      congr 1
      funext more
      simp
    rw [encode_cons, ByteArray.append_assoc, step, ih, Option.map_map]
    rfl

@[simp] theorem decode_encode (text : List Char) : decode (encode text) = some text := by
  simp [decode, encode]

theorem encode_of_decode {bytes : ByteArray} {text : List Char} (decodes : decode bytes = some text) :
    encode text = bytes := by
  obtain ⟨chars, found, rfl⟩ := Option.map_eq_some_iff.mp decodes
  have some : bytes.utf8Decode?.isSome = true := by rw [found]; rfl
  have back := ByteArray.utf8Encode_get_utf8Decode? (h := some)
  simpa [encode, found] using back

/-- **The bytes of a text, cut somewhere**: if they decode at all, they are the start of it. -/
theorem decode_cut {text front : List Char} {cut : Nat}
    (decodes : decode ((encode text).extract 0 cut) = some front) :
    front <+: text ∧ encode front = (encode text).extract 0 cut := by
  have encodes := encode_of_decode decodes
  refine ⟨?_, encodes⟩
  have split : (encode text).extract 0 cut ++ (encode text).extract cut (encode text).size =
      encode text := by
    by_cases inside : cut ≤ (encode text).size
    · rw [← ByteArray.extract_eq_extract_append_extract _ (Nat.zero_le _) inside,
        ByteArray.extract_zero_size]
    · have whole : max cut (encode text).size = cut := by omega
      rw [← whole, ByteArray.extract_zero_max_size, whole,
        ByteArray.extract_eq_empty_iff.mpr (by omega), ByteArray.append_empty]
  rw [← encodes] at split
  simp only [encode, String.toUTF8_eq_toByteArray, String.toByteArray_ofList] at split
  exact List.isPrefix_of_utf8Encode_append_eq_utf8Encode _ split

theorem decode_front {front text : List Char} (part : front <+: text) :
    decode ((encode text).extract 0 (encode front).size) = some front := by
  obtain ⟨rest, rfl⟩ := part
  rw [encode_append, ByteArray.extract_append_size_left, ByteArray.extract_zero_size,
    decode_encode]

end Text
