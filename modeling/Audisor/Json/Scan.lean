/-
**Scanning JSON text from left to right.**

* `Scan`, `Scan.step`, `scan` — what one left-to-right pass can say of a text: how many brackets are
  open, and whether it is inside a string, after a backslash, or just behind a closing quote.
* **`readValue_scan`** — what the reader accepts, the pass accepts: it comes back to the depth where it
  began.
* `scan_lift` — a text that scans at depth zero scans the same way at any depth.
* `Deep` — the pass is at some depth at least. `scan_object` — inside an object it is.
-/

import Audisor.Json.RoundTrip

namespace Json

/-! ### The pass -/

/-- Where a pass stands. -/
inductive Scan where
  | outside (depth : Nat)
  | inside (depth : Nat)
  | escaped (depth : Nat)
  | closed (depth : Nat)
  | bad
  deriving DecidableEq, Repr

def isLiteralChar (c : Char) : Bool :=
  isNumberChar c || c ∈ ['n', 'u', 'l', 't', 'r', 'f', 'a', 's']

def Scan.close : Nat → Scan
  | 0 => .bad
  | depth + 1 => .outside depth

def Scan.structural (depth : Nat) (c : Char) : Scan :=
  if c = '{' ∨ c = '[' then .outside (depth + 1)
  else if c = '}' ∨ c = ']' then .close depth
  else if c = ',' ∨ c = ':' then .outside depth
  else .bad

def Scan.step : Scan → Char → Scan
  | .outside depth, c =>
    if c = '"' then .inside depth
    else if isLiteralChar c ∨ isSpace c then .outside depth
    else structural depth c
  | .inside depth, c =>
    if c = '"' then .closed depth else if c = '\\' then .escaped depth else .inside depth
  | .escaped depth, _ => .inside depth
  | .closed depth, c =>
    if isSpace c then .closed depth
    else if c = '{' ∨ c = '[' then .bad
    else structural depth c
  | .bad, _ => .bad

def scan (start : Scan) (text : List Char) : Scan := text.foldl Scan.step start

@[simp] theorem scan_nil (s : Scan) : scan s [] = s := rfl

@[simp] theorem scan_cons (s : Scan) (c : Char) (text : List Char) :
    scan s (c :: text) = scan (s.step c) text := rfl

theorem scan_append (s : Scan) (first second : List Char) :
    scan s (first ++ second) = scan (scan s first) second := List.foldl_append

@[simp] theorem scan_bad (text : List Char) : scan .bad text = .bad := by
  induction text with
  | nil => rfl
  | cons c rest ih => exact ih

theorem scan_of_prefixed {s : Scan} {first second : List Char} (good : scan s (first ++ second) ≠ .bad) :
    scan s first ≠ .bad := by
  intro bad
  rw [scan_append, bad, scan_bad] at good
  exact good rfl

def Scan.Rests (depth : Nat) (s : Scan) : Prop := s = .outside depth ∨ s = .closed depth

/-! ### What the reader accepts -/

theorem scan_same {s : Scan} {text : List Char} (same : ∀ c ∈ text, s.step c = s) :
    scan s text = s := by
  induction text with
  | nil => rfl
  | cons c rest ih =>
    rw [scan_cons, same c List.mem_cons_self]
    exact ih fun c' member => same c' (List.mem_cons_of_mem _ member)

theorem isSpace_iff {c : Char} :
    isSpace c = true ↔ c = ' ' ∨ c = '\t' ∨ c = '\n' ∨ c = '\r' := by
  simp [isSpace, or_assoc]

theorem step_space {depth : Nat} {c : Char} (space : isSpace c = true) :
    (Scan.outside depth).step c = .outside depth ∧ (Scan.closed depth).step c = .closed depth := by
  rcases isSpace_iff.mp space with rfl | rfl | rfl | rfl <;> exact ⟨rfl, rfl⟩

theorem skipSpace_scan (text : List Char) :
    ∃ spaces, text = spaces ++ skipSpace text ∧
      ∀ depth s, Scan.Rests depth s → scan s spaces = s := by
  refine ⟨text.takeWhile isSpace, (List.takeWhile_append_dropWhile).symm, ?_⟩
  intro depth s rests
  refine scan_same fun c member => ?_
  have space := List.all_eq_true.mp (List.all_takeWhile (p := isSpace)) c member
  rcases rests with rfl | rfl
  · exact (step_space space).1
  · exact (step_space space).2

theorem scan_literal {text : List Char} (literal : ∀ c ∈ text, isLiteralChar c = true)
    (depth : Nat) : scan (.outside depth) text = .outside depth := by
  refine scan_same fun c member => ?_
  have plain := literal c member
  have unquoted : c ≠ '"' := by
    rintro rfl
    revert plain
    decide
  simp [Scan.step, unquoted, plain]

theorem step_inside {depth : Nat} {c : Char} (unquoted : c ≠ '"') (unescaped : c ≠ '\\') :
    (Scan.inside depth).step c = .inside depth := by
  rw [Scan.step, if_neg unquoted, if_neg unescaped]

theorem hexValue_plain {c : Char} {digit : Nat} (value : hexValue c = some digit) :
    c ≠ '"' ∧ c ≠ '\\' := by
  constructor <;> rintro rfl <;> revert value <;> decide +revert

theorem ofHex4_plain {a b c d : Char} {unit : Nat} (value : ofHex4 a b c d = some unit) :
    ∀ digit ∈ [a, b, c, d], digit ≠ '"' ∧ digit ≠ '\\' := by
  unfold ofHex4 at value
  split at value
  · rename_i first second third fourth
    intro digit member
    simp only [List.mem_cons, List.not_mem_nil, or_false] at member
    rcases member with rfl | rfl | rfl | rfl
    · exact hexValue_plain first
    · exact hexValue_plain second
    · exact hexValue_plain third
    · exact hexValue_plain fourth
  · cases value

/-- An escape `\uXXXX` leaves the pass inside the string. -/
theorem scan_unicodeEscape {a b c d : Char} {unit : Nat} (value : ofHex4 a b c d = some unit)
    (depth : Nat) : scan (.inside depth) ['\\', 'u', a, b, c, d] = .inside depth := by
  have plain := ofHex4_plain value
  show scan (.inside depth) [a, b, c, d] = .inside depth
  exact scan_same fun digit member => step_inside (plain digit member).1 (plain digit member).2

theorem scan_further (piece : List Char) {tail chars rest : List Char} {c : Char}
    (stays : ∀ depth, scan (.inside depth) piece = .inside depth)
    (read : consChar c (readString tail) = some (chars, rest))
    (ih : ∀ {chars : List Char}, readString tail = some (chars, rest) →
      ∃ front, tail = front ++ rest ∧ ∀ depth, scan (.inside depth) front = .closed depth) :
    ∃ front, piece ++ tail = front ++ rest ∧ ∀ depth, scan (.inside depth) front = .closed depth := by
  obtain ⟨⟨found, after⟩, reads, same⟩ := Option.map_eq_some_iff.mp read
  simp only [Prod.mk.injEq] at same
  rw [same.2] at reads
  obtain ⟨front, split, closes⟩ := ih reads
  refine ⟨piece ++ front, by rw [split, List.append_assoc], fun depth => ?_⟩
  rw [scan_append, stays, closes]

theorem readString_scan {text chars rest : List Char} (read : readString text = some (chars, rest)) :
    ∃ front, text = front ++ rest ∧ ∀ depth, scan (.inside depth) front = .closed depth := by
  fun_induction readString text generalizing chars
  case case2 tail =>
    cases read
    exact ⟨['"'], rfl, fun depth => rfl⟩
  case case5 a b c d high first _ a' b' c' d' tail low second _ ih =>
    refine scan_further ['\\', 'u', a, b, c, d, '\\', 'u', a', b', c', d'] ?_ read ih
    intro depth
    exact (congrArg (scan · ['\\', 'u', a', b', c', d']) (scan_unicodeEscape first depth)).trans
      (scan_unicodeEscape second depth)
  case case9 a b c d tail unit value _ _ ih =>
    exact scan_further ['\\', 'u', a, b, c, d] (scan_unicodeEscape value) read ih
  case case11 mark tail _ c value ih =>
    exact scan_further ['\\', mark] (fun depth => rfl) read ih
  case case13 c tail unquoted _ _ printable ih =>
    refine scan_further [c] (fun depth => ?_) read ih
    exact step_inside unquoted fun slash => printable (Or.inr slash)
  all_goals cases read

/-- What stands in front of `rest` in `text` brings the pass back to where it began. -/
def Scans (text rest : List Char) : Prop :=
  ∃ front, text = front ++ rest ∧ ∀ depth, Scan.Rests depth (scan (.outside depth) front)

theorem Scans.after_space {text rest : List Char} (scans : Scans text rest) :
    Scans text (skipSpace rest) := by
  obtain ⟨front, rfl, rests⟩ := scans
  obtain ⟨spaces, split, stays⟩ := skipSpace_scan rest
  refine ⟨front ++ spaces, by rw [List.append_assoc, ← split], fun depth => ?_⟩
  rw [scan_append, stays depth _ (rests depth)]
  exact rests depth

theorem Scans.before_space {text rest : List Char} (scans : Scans (skipSpace text) rest) :
    Scans text rest := by
  obtain ⟨front, same, rests⟩ := scans
  obtain ⟨spaces, split, stays⟩ := skipSpace_scan text
  refine ⟨spaces ++ front, by rw [List.append_assoc, ← same, ← split], fun depth => ?_⟩
  rw [scan_append, stays depth _ (Or.inl rfl)]
  exact rests depth

theorem Scans.separated {text rest tail : List Char} {c : Char} (separator : c = ',' ∨ c = ':')
    (first : Scans text (c :: rest)) (second : Scans rest tail) : Scans text tail := by
  obtain ⟨front, rfl, rests⟩ := first
  obtain ⟨more, rfl, further⟩ := second
  refine ⟨front ++ c :: more, by rw [List.append_assoc, List.cons_append], fun depth => ?_⟩
  have onward : (scan (.outside depth) front).step c = .outside depth := by
    rcases rests depth with stands | stands <;> rw [stands] <;>
      rcases separator with rfl | rfl <;> rfl
  rw [scan_append, scan_cons, onward]
  exact further depth

theorem Scans.bracketed {body rest : List Char} {opening closing : Char}
    (pair : opening = '[' ∧ closing = ']' ∨ opening = '{' ∧ closing = '}')
    (within : Scans body (closing :: rest)) : Scans (opening :: body) rest := by
  obtain ⟨front, rfl, rests⟩ := within
  refine ⟨opening :: front ++ [closing], by simp, fun depth => Or.inl ?_⟩
  have opened : (Scan.outside depth).step opening = .outside (depth + 1) := by
    rcases pair with ⟨rfl, _⟩ | ⟨rfl, _⟩ <;> rfl
  rw [scan_append, scan_cons _ opening, opened, scan_cons, scan_nil]
  rcases rests (depth + 1) with stands | stands <;> rw [stands] <;>
    rcases pair with ⟨_, rfl⟩ | ⟨_, rfl⟩ <;> rfl

theorem Scans.string {opened chars rest : List Char} (read : readString opened = some (chars, rest)) :
    Scans ('"' :: opened) rest := by
  obtain ⟨front, rfl, closes⟩ := readString_scan read
  exact ⟨'"' :: front, rfl, fun depth => Or.inr (closes depth)⟩

theorem Scans.literal (front : List Char) {rest : List Char} (literal : ∀ c ∈ front, isLiteralChar c = true) :
    Scans (front ++ rest) rest :=
  ⟨front, rfl, fun depth => Or.inl (scan_literal literal depth)⟩

theorem Scans.empty (text : List Char) : Scans text text := ⟨[], rfl, fun _ => Or.inl rfl⟩

theorem readItems_scan {fuel : Nat}
    (value : ∀ {text rest found}, readValue fuel text = some (found, rest) → Scans text rest)
    (items : ∀ {text rest found}, readItems fuel text = some (found, rest) →
      Scans text (']' :: rest))
    {text rest : List Char} {found : List Json}
    (read : readItems (fuel + 1) text = some (found, rest)) : Scans text (']' :: rest) := by
  rw [readItems] at read
  split at read
  · cases read
  · rename_i item after reads
    have first := (value reads).after_space
    split at read
    · rename_i shape
      cases read
      rwa [shape] at first
    · rename_i shape
      obtain ⟨_, more, same⟩ := Option.map_eq_some_iff.mp read
      cases same
      rw [shape] at first
      exact first.separated (Or.inl rfl) (items more)
    · cases read

theorem readFields_scan {fuel : Nat}
    (value : ∀ {text rest found}, readValue fuel text = some (found, rest) → Scans text rest)
    (fields : ∀ {text rest found}, readFields fuel text = some (found, rest) →
      Scans text ('}' :: rest))
    {text rest : List Char} {found : List (String × Json)}
    (read : readFields (fuel + 1) text = some (found, rest)) : Scans text ('}' :: rest) := by
  rw [readFields] at read
  split at read
  · rename_i opened spaced
    split at read
    · cases read
    · rename_i key afterKey named
      have first := (Scans.string named).after_space
      rw [← spaced] at first
      split at read
      · rename_i afterColon colon
        rw [colon] at first
        split at read
        · cases read
        · rename_i item after reads
          have second := (first.separated (Or.inr rfl) (value reads)).after_space.before_space
          split at read
          · rename_i shape
            cases read
            rwa [shape] at second
          · rename_i shape
            obtain ⟨_, more, same⟩ := Option.map_eq_some_iff.mp read
            cases same
            rw [shape] at second
            exact second.separated (Or.inl rfl) (fields more)
          · cases read
      · cases read
  · cases read

theorem readValue_scan_succ {fuel : Nat}
    (items : ∀ {text rest found}, readItems fuel text = some (found, rest) →
      Scans text (']' :: rest))
    (fields : ∀ {text rest found}, readFields fuel text = some (found, rest) →
      Scans text ('}' :: rest))
    {text rest : List Char} {found : Json}
    (read : readValue (fuel + 1) text = some (found, rest)) : Scans text rest := by
  rw [readValue] at read
  apply Scans.before_space
  split at read
  case h_1 spaced =>
    cases read
    rw [spaced]
    exact Scans.literal ['n', 'u', 'l', 'l'] (List.all_eq_true.mp (by decide))
  case h_2 spaced =>
    cases read
    rw [spaced]
    exact Scans.literal ['t', 'r', 'u', 'e'] (List.all_eq_true.mp (by decide))
  case h_3 spaced =>
    cases read
    rw [spaced]
    exact Scans.literal ['f', 'a', 'l', 's', 'e'] (List.all_eq_true.mp (by decide))
  case h_4 opened spaced =>
    obtain ⟨_, more, same⟩ := Option.map_eq_some_iff.mp read
    cases same
    rw [spaced]
    exact Scans.string more
  case h_5 body spaced =>
    rw [spaced]
    split at read
    · rename_i shape
      cases read
      refine Scans.bracketed (Or.inl ⟨rfl, rfl⟩) (Scans.before_space ?_)
      rw [shape]
      exact Scans.empty _
    · obtain ⟨_, more, same⟩ := Option.map_eq_some_iff.mp read
      cases same
      exact Scans.bracketed (Or.inl ⟨rfl, rfl⟩) (items more)
  case h_6 body spaced =>
    rw [spaced]
    split at read
    · rename_i shape
      cases read
      refine Scans.bracketed (Or.inr ⟨rfl, rfl⟩) (Scans.before_space ?_)
      rw [shape]
      exact Scans.empty _
    · obtain ⟨_, more, same⟩ := Option.map_eq_some_iff.mp read
      cases same
      exact Scans.bracketed (Or.inr ⟨rfl, rfl⟩) (fields more)
  case h_7 =>
    obtain ⟨_, _, same⟩ := Option.map_eq_some_iff.mp read
    cases same
    have split := List.takeWhile_append_dropWhile (p := isNumberChar) (l := skipSpace text)
    have literal : ∀ c ∈ (skipSpace text).takeWhile isNumberChar, isLiteralChar c = true := by
      intro c member
      have number := List.all_eq_true.mp (List.all_takeWhile (p := isNumberChar)) c member
      rw [isLiteralChar, number, Bool.true_or]
    have scans : Scans ((skipSpace text).takeWhile isNumberChar ++
        (skipSpace text).dropWhile isNumberChar) ((skipSpace text).dropWhile isNumberChar) :=
      Scans.literal _ literal
    rwa [split] at scans

/-- **What the reader accepts, the pass accepts**: values, items and fields. -/
theorem read_scan (fuel : Nat) :
    (∀ {text rest found}, readValue fuel text = some (found, rest) → Scans text rest) ∧
    (∀ {text rest found}, readItems fuel text = some (found, rest) → Scans text (']' :: rest)) ∧
    (∀ {text rest found}, readFields fuel text = some (found, rest) → Scans text ('}' :: rest)) := by
  induction fuel with
  | zero => exact ⟨fun read => (nomatch read), fun read => (nomatch read), fun read => (nomatch read)⟩
  | succ fuel ih =>
    obtain ⟨value, items, fields⟩ := ih
    exact ⟨readValue_scan_succ items fields, readItems_scan value items, readFields_scan value fields⟩

/-- **A text that `loads` accepts ends at depth zero.** -/
theorem loads_scan {text : String} {value : Json} (read : loads text = some value) :
    Scan.Rests 0 (scan (.outside 0) text.toList) := by
  unfold loads at read
  split at read
  · rename_i found rest reads
    obtain ⟨front, split, rests⟩ := ((read_scan _).1 reads).after_space
    split at read
    · rename_i blank
      rw [List.isEmpty_iff.mp blank, List.append_nil] at split
      rw [split]
      exact rests 0
    · cases read
  · cases read

/-! ### Depth -/

def Scan.lift (extra : Nat) : Scan → Scan
  | .outside depth => .outside (depth + extra)
  | .inside depth => .inside (depth + extra)
  | .escaped depth => .escaped (depth + extra)
  | .closed depth => .closed (depth + extra)
  | .bad => .bad

def Scan.Deep (bound : Nat) : Scan → Prop
  | .outside depth | .inside depth | .escaped depth | .closed depth => bound ≤ depth
  | .bad => False

theorem Scan.deep_lift {s : Scan} (good : s ≠ .bad) (extra : Nat) : (s.lift extra).Deep extra := by
  cases s with
  | bad => exact absurd rfl good
  | outside depth => exact Nat.le_add_left _ _
  | inside depth => exact Nat.le_add_left _ _
  | escaped depth => exact Nat.le_add_left _ _
  | closed depth => exact Nat.le_add_left _ _

theorem structural_lift {depth : Nat} {c : Char} (extra : Nat)
    (good : Scan.structural depth c ≠ .bad) :
    Scan.structural (depth + extra) c = (Scan.structural depth c).lift extra := by
  unfold Scan.structural at good ⊢
  split
  · simp only [Scan.lift]
    congr 1
    omega
  split
  · cases depth with
    | zero => simp_all [Scan.close]
    | succ depth =>
      rw [Nat.add_right_comm]
      rfl
  split
  · rfl
  · simp_all

theorem step_lift {s : Scan} {c : Char} (extra : Nat) (good : s.step c ≠ .bad) :
    (s.lift extra).step c = (s.step c).lift extra := by
  cases s with
  | bad => exact absurd rfl good
  | escaped depth => rfl
  | inside depth =>
    simp only [Scan.lift, Scan.step]
    split
    · rfl
    split <;> rfl
  | outside depth =>
    rw [Scan.step] at good ⊢
    rw [Scan.lift, Scan.step]
    split_ifs at good ⊢ with quote plain
    · rfl
    · rfl
    · exact structural_lift extra good
  | closed depth =>
    rw [Scan.step] at good ⊢
    rw [Scan.lift, Scan.step]
    split_ifs at good ⊢ with space opening
    · rfl
    · exact absurd rfl good
    · exact structural_lift extra good

/-- **A text that scans well at depth zero scans alike further inside.** -/
theorem scan_lift {s : Scan} {text : List Char} (extra : Nat) (good : scan s text ≠ .bad) :
    scan (s.lift extra) text = (scan s text).lift extra := by
  induction text generalizing s with
  | nil => rfl
  | cons c rest ih =>
    rw [scan_cons] at good ⊢
    have here : s.step c ≠ .bad := by
      intro bad
      rw [bad, scan_bad] at good
      exact good rfl
    rw [step_lift extra here, ih good, scan_cons]

theorem scan_deep {text : List Char} (good : scan (.outside 0) text ≠ .bad) (depth : Nat) :
    (scan (.outside depth) text).Deep depth := by
  have lifted := scan_lift depth good
  rw [Scan.lift, Nat.zero_add] at lifted
  rw [lifted]
  exact Scan.deep_lift good depth

theorem Scan.Deep.ne_bad {s : Scan} {bound : Nat} (deep : s.Deep bound) : s ≠ .bad := by
  rintro rfl
  exact deep

theorem Scan.Deep.not_rests {s : Scan} {bound : Nat} (deep : s.Deep (bound + 1)) :
    ¬ s.Rests 0 := by
  rintro (rfl | rfl) <;> exact absurd deep (Nat.not_succ_le_zero bound)

theorem Scan.Rests.ne_bad {s : Scan} {depth : Nat} (rests : s.Rests depth) : s ≠ .bad := by
  rcases rests with rfl | rfl <;> simp

/-! ### The text of an object -/

theorem render_scan (style : Style) (value : Json) :
    Scan.Rests 0 (scan (.outside 0) (render style value)) := by
  have scans := loads_scan (loads_dumps value style)
  rwa [dumps, String.toList_ofList] at scans

theorem renderFields_scan (style : Style) (fields : List (String × Json)) :
    Scans (renderFields style fields) ['}'] := by
  cases fields with
  | nil => exact Scans.empty _
  | cons field rest =>
    have read := readFields_render style field.1 field.2 rest _ [] (Nat.le_refl _)
    rw [List.append_nil] at read
    exact (read_scan _).2.2 read

/-- **Inside an object the pass is at depth one or more.** -/
theorem scan_object {style : Style} {fields : List (String × Json)} {front : List Char}
    (part : front <+: render style (.obj fields)) (nonempty : front ≠ [])
    (proper : front ≠ render style (.obj fields)) :
    (scan (.outside 0) front).Deep 1 := by
  obtain ⟨body, split, rests⟩ := renderFields_scan style fields
  obtain ⟨c, within, rfl⟩ := List.exists_cons_of_ne_nil nonempty
  rw [render, split, List.cons_prefix_cons] at part
  obtain ⟨rfl, part⟩ := part
  rw [render, split] at proper
  have inner : within <+: body := by
    rcases List.prefix_concat_iff.mp part with same | inner
    · exact absurd (by rw [same]) proper
    · exact inner
  obtain ⟨later, rfl⟩ := inner
  exact scan_deep (scan_of_prefixed (rests 0).ne_bad) 1

/-! ### Fragments of an object -/

theorem readString_head {opened chars rest : List Char} {c : Char}
    (read : readString opened = some (c :: chars, rest)) :
    opened.head? = some c ∨ opened.head? = some '\\' := by
  unfold readString at read
  split at read
  · cases read
  · cases read
  · exact Or.inr rfl
  · exact Or.inr rfl
  · split at read
    · cases read
    · obtain ⟨_, _, same⟩ := Option.map_eq_some_iff.mp read
      simp only [Prod.mk.injEq, List.cons.injEq] at same
      exact Or.inl (congrArg some same.1.1)

theorem readNumber_ne_obj {text : List Char} {fields : List (String × Json)} :
    readNumber text ≠ some (.obj fields) := by
  unfold readNumber
  split
  · simp
  split <;> simp

theorem readFields_head {fuel : Nat} {body rest : List Char} {key : String} {value : Json}
    {fields : List (String × Json)}
    (read : readFields fuel body = some ((key, value) :: fields, rest)) :
    ∃ opened chars after, skipSpace body = '"' :: opened ∧
      readString opened = some (chars, after) ∧ key = String.ofList chars := by
  cases fuel with
  | zero => cases read
  | succ fuel =>
    rw [readFields] at read
    split at read
    · rename_i opened spaced
      split at read
      · cases read
      · rename_i chars after named
        refine ⟨opened, chars, after, spaced, named, ?_⟩
        split at read
        · split at read
          · cases read
          · split at read
            · cases read
              rfl
            · obtain ⟨_, _, same⟩ := Option.map_eq_some_iff.mp read
              cases same
              rfl
            · cases read
        · cases read
    · cases read

theorem readValue_object {fuel : Nat} {text rest : List Char} {field : String × Json}
    {fields : List (String × Json)}
    (read : readValue (fuel + 1) text = some (.obj (field :: fields), rest)) :
    ∃ body, skipSpace text = '{' :: body ∧ readFields fuel body = some (field :: fields, rest) := by
  rw [readValue] at read
  split at read
  case h_6 body spaced =>
    refine ⟨body, spaced, ?_⟩
    split at read
    · cases read
    · obtain ⟨⟨found, behind⟩, more, same⟩ := Option.map_eq_some_iff.mp read
      simp only [Prod.mk.injEq, Json.obj.injEq] at same
      rwa [same.1, same.2] at more
  case h_5 =>
    split at read
    · cases read
    · obtain ⟨_, _, same⟩ := Option.map_eq_some_iff.mp read
      cases same
  case h_7 =>
    obtain ⟨value, number, same⟩ := Option.map_eq_some_iff.mp read
    cases same
    exact absurd number readNumber_ne_obj
  case h_4 =>
    obtain ⟨_, _, same⟩ := Option.map_eq_some_iff.mp read
    cases same
  all_goals cases read

theorem skipSpace_split (text : List Char) :
    ∃ spaces, text = spaces ++ skipSpace text ∧ ∀ c ∈ spaces, isSpace c = true :=
  ⟨text.takeWhile isSpace, (List.takeWhile_append_dropWhile).symm,
    List.all_eq_true.mp List.all_takeWhile⟩

theorem loads_object {text : String} {key : String} {value : Json} {fields : List (String × Json)}
    (read : loads text = some (.obj ((key, value) :: fields))) :
    ∃ spaces more opened chars after,
      text.toList = spaces ++ '{' :: (more ++ '"' :: opened) ∧
      (∀ c ∈ spaces, isSpace c = true) ∧ (∀ c ∈ more, isSpace c = true) ∧
      readString opened = some (chars, after) ∧ key = String.ofList chars := by
  unfold loads at read
  split at read
  · rename_i found rest reads
    split at read
    · cases read
      obtain ⟨body, spaced, reads⟩ := readValue_object reads
      obtain ⟨opened, chars, after, quoted, named, same⟩ := readFields_head reads
      obtain ⟨spaces, first, blank⟩ := skipSpace_split text.toList
      obtain ⟨more, second, blank'⟩ := skipSpace_split body
      refine ⟨spaces, more, opened, chars, after, ?_, blank, blank', named, same⟩
      rw [first, spaced, second, quoted]
    · cases read
  · cases read

def KeyLike (key : String) : Prop := ∃ c rest, key.toList = c :: rest ∧ c.isLower = true

theorem step_letter {c : Char} (letter : c.isLower = true) (depth : Nat) :
    (Scan.closed depth).step c = .bad := by
  have other : ∀ d : Char, d.isLower = false → c ≠ d := by
    rintro d unlike rfl
    rw [letter] at unlike
    cases unlike
  have unspaced : isSpace c = false := by
    simp [isSpace, other ' ' rfl, other '\t' rfl, other '\n' rfl, other '\r' rfl]
  simp [Scan.step, Scan.structural, unspaced, other '{' rfl, other '[' rfl, other '}' rfl,
    other ']' rfl, other ',' rfl, other ':' rfl]

theorem scan_first_key {text : String} {key : String} {value : Json} {fields : List (String × Json)}
    (keyLike : KeyLike key) (read : loads text = some (.obj ((key, value) :: fields))) :
    ∃ spaces more c rest, text.toList = spaces ++ '{' :: (more ++ '"' :: c :: rest) ∧
      (∀ c ∈ spaces, isSpace c = true) ∧ (∀ c ∈ more, isSpace c = true) ∧
      c ≠ '{' ∧
      ∀ depth, scan (.inside depth) (spaces ++ '{' :: (more ++ ['"', c])) = .bad := by
  obtain ⟨first, others, spelled, letter⟩ := keyLike
  obtain ⟨spaces, more, opened, chars, after, same, blank, blank', named, rfl⟩ := loads_object read
  rw [String.toList_ofList] at spelled
  subst spelled
  obtain ⟨c, rest, rfl, behind, unbraced⟩ : ∃ c rest, opened = c :: rest ∧
      (∀ depth, (Scan.closed depth).step c = .bad) ∧ c ≠ '{' := by
    cases opened with
    | nil => cases named
    | cons c rest =>
      rcases readString_head named with head | head
      · cases head
        refine ⟨_, rest, rfl, step_letter letter, ?_⟩
        rintro rfl
        cases letter
      · cases head
        exact ⟨_, rest, rfl, fun depth => rfl, by decide⟩
  refine ⟨spaces, more, c, rest, same, blank, blank', unbraced, fun depth => ?_⟩
  have still : ∀ {text : List Char}, (∀ c ∈ text, isSpace c = true) →
      scan (.inside depth) text = .inside depth := by
    intro text blank
    refine scan_same fun c member => ?_
    rcases isSpace_iff.mp (blank c member) with rfl | rfl | rfl | rfl <;> rfl
  rw [scan_append, still blank, scan_cons, step_inside (by decide) (by decide), scan_append,
    still blank']
  exact behind depth

/-- **A text that goes on inside a string is no such object.** -/
theorem not_loads_inside {text : String} (depth : Nat) {key : String} {value : Json}
    {fields : List (String × Json)} (good : scan (.inside depth) text.toList ≠ .bad)
    (keyLike : KeyLike key) : loads text ≠ some (.obj ((key, value) :: fields)) := by
  intro read
  obtain ⟨spaces, more, c, rest, same, _, _, _, stuck⟩ := scan_first_key keyLike read
  have begun : text.toList = (spaces ++ '{' :: (more ++ ['"', c])) ++ rest := by
    rw [same]
    simp
  rw [begun] at good
  exact scan_of_prefixed good (stuck depth)

/-- **Nor is such a text with another object behind it**, unless it is blank. -/
theorem not_loads_merged {front behind : List Char} {depth : Nat} {key : String} {value : Json}
    {fields : List (String × Json)} (good : scan (.inside depth) front ≠ .bad)
    (written : ∃ c ∈ front, isSpace c = false) (keyLike : KeyLike key) :
    loads (String.ofList (front ++ '{' :: behind)) ≠ some (.obj ((key, value) :: fields)) := by
  intro read
  obtain ⟨spaces, more, c, rest, same, blank, blank', unbraced, stuck⟩ :=
    scan_first_key keyLike read
  rw [String.toList_ofList] at same
  have spaced : isSpace '{' = false := rfl
  have begun : spaces ++ '{' :: (more ++ '"' :: c :: rest) =
      (spaces ++ '{' :: (more ++ ['"', c])) ++ rest := by simp
  rw [begun] at same
  obtain ⟨d, member, visible⟩ := written
  rcases List.append_eq_append_iff.mp same with ⟨further, whole, shared⟩ | ⟨further, whole, _⟩
  · -- the second object begins before the first key does
    cases further with
    | nil =>
      rw [List.append_nil] at whole
      rw [← whole, stuck] at good
      exact good rfl
    | cons e further =>
      injection shared with brace _
      subst brace
      rcases List.append_eq_append_iff.mp whole with ⟨later, split, shared⟩ | ⟨later, split, _⟩
      · cases later with
        | nil =>
          rw [List.append_nil] at split
          rw [split] at member
          simp [blank d member] at visible
        | cons e later =>
          injection shared with _ shared
          have inside : '{' ∈ more ++ ['"', c] := by
            rw [shared]
            simp
          simp only [List.mem_append, List.mem_cons, List.not_mem_nil, or_false] at inside
          rcases inside with inside | quote | last
          · simp [blank' _ inside] at spaced
          · cases quote
          · exact unbraced last.symm
      · simp [blank d (by rw [split]; exact List.mem_append_left _ member)] at visible
  · rw [whole] at good
    exact scan_of_prefixed good (stuck depth)

/-- **An object cut short, and another one behind it, is no value**; nor are two whole ones. -/
theorem not_loads_torn {style : Style} {fields : List (String × Json)} {front behind : List Char}
    {c : Char} (part : front <+: render style (.obj fields)) (nonempty : front ≠ [])
    (letter : c.isLower = true) (good : scan (.outside 0) ('{' :: '"' :: c :: behind) ≠ .bad) :
    loads (String.ofList (front ++ '{' :: '"' :: c :: behind)) = none := by
  by_cases whole : front = render style (.obj fields)
  · have enough := weight_le_length style (.obj fields)
    rw [loads, String.toList_ofList, whole,
      readValue_render style (.obj fields) _ _ (by rw [List.length_append]; omega)
        (fun d head => by cases head; rfl)]
    rfl
  · have deep := scan_object part nonempty whole
    rw [Option.eq_none_iff_forall_ne_some]
    intro value read
    have rests := loads_scan read
    rw [String.toList_ofList, scan_append] at rests
    cases stands : scan (.outside 0) front with
    | outside depth =>
      rw [stands] at deep rests
      obtain ⟨bound, rfl⟩ : ∃ k, depth = k + 1 := ⟨depth - 1, by have : 1 ≤ depth := deep; omega⟩
      exact (scan_deep good _).not_rests rests
    | inside depth =>
      rw [stands] at rests
      change Scan.Rests 0 (scan ((Scan.closed depth).step c) behind) at rests
      rw [step_letter letter, scan_bad] at rests
      exact rests.ne_bad rfl
    | escaped depth =>
      rw [stands] at rests
      change Scan.Rests 0 (scan ((Scan.closed depth).step c) behind) at rests
      rw [step_letter letter, scan_bad] at rests
      exact rests.ne_bad rfl
    | closed depth =>
      rw [stands] at rests
      change Scan.Rests 0 (scan .bad ('"' :: c :: behind)) at rests
      rw [scan_bad] at rests
      exact rests.ne_bad rfl
    | bad => exact deep.ne_bad stands

end Json
