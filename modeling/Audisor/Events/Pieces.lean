/-
**What the reader makes of the lines of an event file.**

* `readLine_text` — the text of an event reads back.
* `readText_line` — a whole record gives its event when it is `Unbroken`, and nothing otherwise: no
  piece of a record reads as an event (`readPieces_torn`).
* **`readPieces_onto`** — a record behind a torn one is read exactly when what is left of the torn one
  on its line is blank.
-/

import Audisor.Events.Store
import Audisor.Json.Characters
import Audisor.Json.Scan

namespace Audisor.Events

open Json Text

/-! ### The text of an event -/

namespace OperationEvent

variable (event : OperationEvent)

theorem text_opens : ∃ rest, event.text = '{' :: '"' :: 's' :: rest := ⟨_, rfl⟩

theorem text_closes : ∃ front, event.text = front ++ ['}'] := by
  obtain ⟨front, split, _⟩ := renderFields_scan { ensureAscii := false } event.asDict
  exact ⟨'{' :: front, by rw [text, render, split, List.cons_append]⟩

theorem text_ne_nil : event.text ≠ [] := by
  obtain ⟨rest, opens⟩ := event.text_opens
  rw [opens]
  exact List.cons_ne_nil _ _

theorem text_visible {c : Char} (member : c ∈ event.text) : 0x20 ≤ c.toNat := by
  by_contra control
  have special : ¬ Printable c := fun printable => control printable.1
  have high := ((mem_render rfl special _).mp member).1
  omega

theorem text_scan : scan (.outside 0) event.text ≠ .bad := (render_scan _ _).ne_bad

theorem strip_text : strip event.text = event.text := by
  obtain ⟨rest, opens⟩ := event.text_opens
  obtain ⟨front, closes⟩ := event.text_closes
  have first : event.text.dropWhile isWhitespace = event.text := by
    rw [opens, List.dropWhile_cons, if_neg (by decide)]
  rw [strip, first, closes, List.rdropWhile_concat_neg _ _ _ (by decide)]

end OperationEvent

/-- **The text of an event reads back.** -/
theorem readLine_text (event : OperationEvent) : readLine event.text = some event := by
  have back : loads (String.ofList event.text) = some (.obj event.asDict) :=
    loads_dumps (.obj event.asDict) { ensureAscii := false }
  have written : event.text.isEmpty = false := by simpa using event.text_ne_nil
  simp [readLine, event.strip_text, written, back]

/-! ### What does not read -/

theorem fieldNames_keyLike : ∀ key ∈ OperationEvent.fieldNames, KeyLike key := by
  simp only [OperationEvent.fieldNames, List.forall_mem_cons, List.not_mem_nil, false_implies,
    implies_true, and_true]
  exact ⟨⟨'s', _, rfl, rfl⟩, ⟨'o', _, rfl, rfl⟩, ⟨'t', _, rfl, rfl⟩, ⟨'s', _, rfl, rfl⟩,
    ⟨'e', _, rfl, rfl⟩, ⟨'p', _, rfl, rfl⟩, ⟨'c', _, rfl, rfl⟩⟩

theorem readLine_none {line : List Char}
    (other : ∀ key value rest, KeyLike key →
      loads (String.ofList (strip line)) ≠ some (.obj ((key, value) :: rest))) :
    readLine line = none := by
  unfold readLine
  simp only
  split
  · rfl
  split
  · rename_i data read
    cases data with
    | nil => rfl
    | cons field rest =>
      have unknown : ¬ ((field :: rest).all fun field => field.1 ∈ OperationEvent.fieldNames) := by
        intro known
        have key := List.all_eq_true.mp known field List.mem_cons_self
        exact other field.1 field.2 rest (fieldNames_keyLike _ (by simpa using key)) read
      rw [OperationEvent.ofDict, if_neg unknown]
  · rfl

theorem readLine_nil : readLine [] = none := rfl

/-- **A record that is cut short is no event.** -/
theorem readLine_torn {event : OperationEvent} {front : List Char} (part : front <+: event.text)
    (proper : front ≠ event.text) : readLine front = none := by
  cases front with
  | nil => rfl
  | cons c rest =>
    obtain ⟨more, opens⟩ := event.text_opens
    have brace : c = '{' := by
      rw [opens, List.cons_prefix_cons] at part
      exact part.1
    subst brace
    have kept := strip_opens (show isWhitespace '{' = false from rfl) rest
    have shorter : strip ('{' :: rest) <+: '{' :: rest := by
      rw [kept]
      exact List.cons_prefix_cons.mpr ⟨rfl, List.rdropWhile_prefix _ _⟩
    have within : strip ('{' :: rest) <+: render { ensureAscii := false } (.obj event.asDict) :=
      shorter.trans part
    have deep := scan_object within (by rw [kept]; exact List.cons_ne_nil _ _) (fun same => proper (part.eq_of_length_le (by
        have whole : strip ('{' :: rest) = event.text := same
        rw [← whole]
        exact shorter.length_le)))
    refine readLine_none fun key value others _ read => ?_
    have rests := loads_scan read
    rw [String.toList_ofList] at rests
    exact deep.not_rests rests

theorem scan_boundary {event : OperationEvent} {front more : List Char} {c : Char}
    (part : front ++ c :: more <+: event.text) (boundary : isLineBoundary c = true) :
    ∃ depth, scan (.inside depth) more ≠ .bad := by
  obtain ⟨after, whole⟩ := part
  have visible : 0x20 ≤ c.toNat := event.text_visible (by rw [← whole]; simp)
  have good := event.text_scan
  rw [← whole, List.append_assoc, scan_append, List.cons_append, scan_cons] at good
  have special : c = '\u0085' ∨ c = '\u2028' ∨ c = '\u2029' := by
    simp only [isLineBoundary, List.mem_cons, List.not_mem_nil, or_false, decide_eq_true_eq]
      at boundary
    rcases boundary with rfl | rfl | rfl | rfl | rfl | rfl | rfl | rest
    all_goals first
      | exact rest
      | exact absurd visible (by decide)
  cases stands : scan (.outside 0) front with
  | inside depth =>
    refine ⟨depth, ?_⟩
    rw [stands, step_inside (by rcases special with rfl | rfl | rfl <;> decide)
      (by rcases special with rfl | rfl | rfl <;> decide)] at good
    exact scan_of_prefixed good
  | escaped depth =>
    refine ⟨depth, ?_⟩
    rw [stands] at good
    exact scan_of_prefixed good
  | outside depth =>
    rw [stands] at good
    refine absurd ?_ good
    rcases special with rfl | rfl | rfl <;> exact scan_bad _
  | closed depth =>
    rw [stands] at good
    refine absurd ?_ good
    rcases special with rfl | rfl | rfl <;> exact scan_bad _
  | bad =>
    rw [stands] at good
    exact absurd (scan_bad _) good

theorem scan_blank {text : List Char} (blank : Blank text) (depth : Nat) :
    scan (.inside depth) text = .inside depth := by
  refine scan_same fun c member => step_inside ?_ ?_ <;>
  · rintro rfl
    exact absurd (blank _ member) (by decide)

/-- **A piece behind a boundary is no event.** -/
theorem readLine_within {event : OperationEvent} {front piece rest : List Char} {c : Char}
    (part : front ++ c :: (piece ++ rest) <+: event.text) (boundary : isLineBoundary c = true) :
    readLine piece = none := by
  obtain ⟨depth, good⟩ := scan_boundary part boundary
  obtain ⟨before, after, split, blank, _⟩ := strip_split piece
  refine readLine_none fun key value others keyLike => not_loads_inside depth ?_ keyLike
  rw [String.toList_ofList]
  rw [split, List.append_assoc, scan_append, scan_blank blank, List.append_assoc] at good
  exact scan_of_prefixed good

def readPieces (text : List Char) : List OperationEvent := (pieces text).filterMap readLine

theorem readText_eq {text : List Char} (noReturn : '\r' ∉ text) : readText text = readPieces text := by
  rw [readText, universalNewlines_of_noReturn noReturn, splitlines_filterMap readLine_nil, readPieces]

/-- **A torn record gives nothing**, unless it is whole. -/
theorem readPieces_torn {event : OperationEvent} {torn : List Char} (part : torn <+: event.text) :
    readPieces torn = if torn = event.text ∧ Unbroken torn then [event] else [] := by
  by_cases unbroken : Unbroken torn
  · rw [readPieces, pieces_unbroken unbroken]
    by_cases whole : torn = event.text
    · rw [if_pos ⟨whole, unbroken⟩, whole, List.filterMap_cons, readLine_text]
      rfl
    · rw [if_neg (fun both => whole both.1), List.filterMap_cons, readLine_torn part whole]
      rfl
  · rw [if_neg (fun both => unbroken both.2), readPieces, List.filterMap_eq_nil_iff]
    intro piece member
    obtain ⟨inner, first | ⟨front, c, rest, boundary, split⟩⟩ := mem_pieces member
    · refine readLine_torn (first.trans part) ?_
      rintro rfl
      exact unbroken fun c member => inner c (part.subset member)
    · rw [split] at part
      exact readLine_within part boundary

theorem filterMap_done {event : OperationEvent} {torn : List Char} {done : List (List Char)}
    (part : torn <+: event.text) (split : pieces torn = done ++ [unfinished torn]) :
    done.filterMap readLine = [] := by
  by_cases unbroken : Unbroken torn
  · rw [pieces_unbroken unbroken] at split
    cases done with
    | nil => rfl
    | cons piece done => simp at split
  · have reads := readPieces_torn part
    rw [if_neg (fun both => unbroken both.2), readPieces, split, List.filterMap_append] at reads
    exact (List.append_eq_nil_iff.mp reads).1

/-- **What is left of a torn record spoils the record behind it.** -/
theorem readLine_merged {event : OperationEvent} {torn first : List Char} {next : OperationEvent}
    (part : torn <+: event.text) (written : ¬ Blank (unfinished torn))
    (behind : '{' :: '"' :: 's' :: first <+: next.text) :
    readLine (unfinished torn ++ '{' :: '"' :: 's' :: first) = none := by
  have back : ('{' :: '"' :: 's' :: first).rdropWhile isWhitespace =
      '{' :: '"' :: 's' :: first.rdropWhile isWhitespace := by
    rw [rdropWhile_opens (by decide), rdropWhile_opens (by decide), rdropWhile_opens (by decide)]
  have shorter : '{' :: '"' :: 's' :: first.rdropWhile isWhitespace <+: next.text :=
    (back ▸ List.rdropWhile_prefix isWhitespace _).trans behind
  have stripped : strip (unfinished torn ++ '{' :: '"' :: 's' :: first) =
      (unfinished torn).dropWhile isWhitespace ++
        '{' :: '"' :: 's' :: first.rdropWhile isWhitespace := by
    rw [strip_append written (fun blank => absurd (blank '{' List.mem_cons_self) (by decide)), back]
  refine readLine_none fun key value others keyLike => ?_
  rw [stripped]
  rcases last_boundary torn with unbroken | ⟨front, c, boundary, split⟩
  · rw [unfinished_of_unbroken unbroken] at written ⊢
    cases torn with
    | nil => exact absurd (fun c member => by cases member) written
    | cons c rest =>
      obtain ⟨more, opens⟩ := event.text_opens
      have brace : c = '{' := by
        rw [opens, List.cons_prefix_cons] at part
        exact part.1
      subst brace
      obtain ⟨after, whole⟩ := shorter
      have good := next.text_scan
      rw [← whole] at good
      rw [List.dropWhile_cons, if_neg (by decide),
        not_loads_torn part (List.cons_ne_nil _ _) (by decide) (scan_of_prefixed good)]
      exact fun found => nomatch found
  · rw [split] at part
    obtain ⟨depth, good⟩ := scan_boundary part boundary
    rw [← List.takeWhile_append_dropWhile (p := isWhitespace) (l := unfinished torn), scan_append,
      scan_blank (List.all_eq_true.mp List.all_takeWhile)] at good
    obtain ⟨d, member, visible⟩ := exists_visible written
    refine not_loads_merged good ⟨d, member, ?_⟩ keyLike
    rw [Bool.eq_false_iff]
    intro space
    rcases isSpace_iff.mp space with rfl | rfl | rfl | rfl <;> cases visible

/-! ### Records, one after the other -/

theorem readPieces_line (event : OperationEvent) (rest : List Char) :
    readPieces (event.line ++ rest) =
      (if Unbroken event.text then [event] else []) ++ readPieces rest := by
  have whole := readPieces_torn (List.prefix_refl event.text)
  simp only [true_and] at whole
  rw [← whole, OperationEvent.line, List.append_assoc, List.singleton_append, readPieces,
    pieces_boundary _ _ rfl, List.filterMap_append]
  rfl

theorem readLine_blank_append {front : List Char} (blank : Blank front) (line : List Char) :
    readLine (front ++ line) = readLine line := by
  rw [readLine, strip_blank_append blank, readLine]

theorem first_piece {event : OperationEvent} {piece : List Char} {others : List (List Char)}
    (split : pieces event.text = piece :: others) :
    (∃ first, piece = '{' :: '"' :: 's' :: first) ∧ others.filterMap readLine = [] := by
  obtain ⟨more, opens⟩ := event.text_opens
  obtain ⟨first, _, _, behind, _⟩ := pieces_behind ['{', '"', 's'] (by decide) more
  have same : pieces event.text = pieces (['{', '"', 's'] ++ more) := by rw [opens]; rfl
  rw [split, behind, List.cons.injEq] at same
  refine ⟨⟨first, same.1⟩, ?_⟩
  by_cases unbroken : Unbroken event.text
  · rw [pieces_unbroken unbroken, List.cons.injEq] at split
    rw [← split.2]
    rfl
  · have reads := readPieces_torn (List.prefix_refl event.text)
    rw [if_neg (fun both => unbroken both.2), readPieces, split] at reads
    rw [List.filterMap_eq_nil_iff] at reads ⊢
    exact fun other member => reads other (List.mem_cons_of_mem _ member)

/-- **A record behind a torn one** is read when nothing visible is left of the torn one. -/
theorem readPieces_onto {event : OperationEvent} {torn : List Char} (part : torn <+: event.text)
    (next : OperationEvent) (rest : List Char) :
    readPieces (torn ++ (next.line ++ rest)) =
      (if Unbroken next.text ∧ Blank (unfinished torn) then [next] else []) ++ readPieces rest := by
  obtain ⟨done, joined, split⟩ := pieces_onto torn (next.line ++ rest)
  obtain ⟨piece, others, alone, onto, start⟩ := pieces_behind _ (unbroken_unfinished torn) next.text
  obtain ⟨⟨first, rfl⟩, silent⟩ := first_piece alone
  have reads := readPieces_torn (List.prefix_refl next.text)
  rw [readPieces, alone] at reads
  have line : readPieces (torn ++ (next.line ++ rest)) =
      ((unfinished torn ++ '{' :: '"' :: 's' :: first) :: others).filterMap readLine ++
        readPieces rest := by
    rw [readPieces, joined, List.filterMap_append, filterMap_done part split, List.nil_append,
      OperationEvent.line, List.append_assoc, List.singleton_append, ← List.append_assoc,
      pieces_boundary _ _ rfl, onto, List.filterMap_append, readPieces]
  rw [line, List.filterMap_cons]
  by_cases blank : Blank (unfinished torn)
  · rw [readLine_blank_append blank, ← List.filterMap_cons, reads]
    simp [blank]
  · rw [readLine_merged part blank start, silent]
    simp [blank]

end Audisor.Events
