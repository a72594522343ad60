/-
**Locations of a plan, as they are written and as they are read.**

A location is a JSON pointer, with or without `plan` as its first token. It is written by `jsonPointer`;
what it says is where its tokens lead, an array being entered by the numeral of an index.

* `readBack`, `jsonPointer_surjective` — the tokens of a pointer are read back, and every text of the
  pattern is a pointer, apart from a newline.
* `Leads`, `LooselyLeads` — where tokens lead, and where they lead when an array takes every text that
  `int` reads, counting from its end as well.
* `leads_iff` — the difference: each array on the way is entered by a numeral.
* `resolves_iff` — the tokens by which the location test goes.
* `location_iff` — **it accepts what the location says** exactly where both readings agree.
-/

import Audisor.Aflow.RefusedRequests

namespace Text

/-! ### Marks -/

theorem replaceMark_pass {first second mark c : Char} (other : c ≠ first) (rest : List Char) :
    replaceMark first second mark (c :: rest) = c :: replaceMark first second mark rest := by
  cases rest with
  | nil => rfl
  | cons b rest => rw [replaceMark, if_neg fun found => other found.1]

end Text

namespace Audisor.Aflow

section

open Json

/-! ### The tokens of a pointer -/

theorem slash_not_mem_escapePart (part : String) : '/' ∉ escapePart part := by
  intro member
  obtain ⟨c, _, written⟩ := List.mem_flatMap.mp member
  by_cases tilde : c = '~'
  · rw [if_pos tilde] at written
    revert written
    decide
  · rw [if_neg tilde] at written
    by_cases slash : c = '/'
    · rw [if_pos slash] at written
      revert written
      decide
    · rw [if_neg slash] at written
      exact slash (List.mem_singleton.mp written).symm

/-- **A token is read back from a pointer.** -/
theorem readBack (part : String) :
    Text.replaceMark '~' '0' '~' (Text.replaceMark '~' '1' '/' (escapePart part)) = part.toList := by
  have inner : ∀ chars : List Char, Text.replaceMark '~' '1' '/'
      (chars.flatMap fun c =>
        if c = '~' then ['~', '0'] else if c = '/' then ['~', '1'] else [c]) =
      chars.flatMap fun c => if c = '~' then ['~', '0'] else [c] := by
    intro chars
    induction chars with
    | nil => rfl
    | cons c rest ih =>
      rw [List.flatMap_cons, List.flatMap_cons, ← ih]
      by_cases tilde : c = '~'
      · rw [if_pos tilde, if_pos tilde, List.cons_append, List.cons_append, List.nil_append,
          Text.replaceMark, if_neg (by decide), Text.replaceMark_pass (by decide)]
        rfl
      · rw [if_neg tilde, if_neg tilde]
        by_cases slash : c = '/'
        · rw [if_pos slash, List.cons_append, List.cons_append, List.nil_append, Text.replaceMark,
            if_pos ⟨rfl, rfl⟩, slash]
          rfl
        · rw [if_neg slash, List.singleton_append, Text.replaceMark_pass tilde]
          rfl
  have outer : ∀ chars : List Char, Text.replaceMark '~' '0' '~'
      (chars.flatMap fun c => if c = '~' then ['~', '0'] else [c]) = chars := by
    intro chars
    induction chars with
    | nil => rfl
    | cons c rest ih =>
      rw [List.flatMap_cons]
      by_cases tilde : c = '~'
      · rw [if_pos tilde, List.cons_append, List.cons_append, List.nil_append, Text.replaceMark,
          if_pos ⟨rfl, rfl⟩, ih, tilde]
      · rw [if_neg tilde, List.singleton_append, Text.replaceMark_pass tilde, ih]
  rw [escapePart, inner, outer]

theorem jsonPointer_toList (parts : List String) :
    (jsonPointer parts).toList = pathText (parts.map escapePart) := by
  rw [jsonPointer, String.toList_ofList, pathText, List.flatMap_map]

theorem jsonPointer_cons (part : String) (parts : List String) :
    (jsonPointer (part :: parts)).toList = '/' :: (escapePart part ++ (jsonPointer parts).toList) := by
  rw [jsonPointer, jsonPointer, String.toList_ofList, String.toList_ofList, List.flatMap_cons,
    List.cons_append]

def betweenSlashes (text : List Char) : List (List Char) :=
  (text.splitOn '/').map fun token =>
    Text.replaceMark '~' '0' '~' (Text.replaceMark '~' '1' '/' token)

theorem betweenSlashes_pointer (part : String) (parts : List String) :
    betweenSlashes (escapePart part ++ (jsonPointer parts).toList) =
      (part :: parts).map String.toList := by
  rw [betweenSlashes, jsonPointer_toList, splitOn_path, ← List.map_cons, List.map_map]
  · exact List.map_congr_left fun token _ => readBack token
  · intro token member
    rw [← List.map_cons] at member
    obtain ⟨own, _, rfl⟩ := List.mem_map.mp member
    exact slash_not_mem_escapePart own

/-- **A pointer has one list of tokens.** -/
theorem jsonPointer_injective {parts parts' : List String} (same : jsonPointer parts = jsonPointer parts') :
    parts = parts' := by
  have texts := congrArg String.toList same
  cases parts with
  | nil =>
    cases parts' with
    | nil => rfl
    | cons part' parts' =>
      rw [jsonPointer_cons] at texts
      cases texts
  | cons part parts =>
    cases parts' with
    | nil =>
      rw [jsonPointer_cons] at texts
      cases texts
    | cons part' parts' =>
      rw [jsonPointer_cons, jsonPointer_cons] at texts
      have tokens := congrArg betweenSlashes (List.cons.inj texts).2
      rw [betweenSlashes_pointer, betweenSlashes_pointer] at tokens
      exact List.map_injective_iff.mpr (fun _ _ => String.toList_injective) tokens

theorem written_of_escaped {text : List Char} (escaped : tildesEscaped text = true) :
    ∃ part parts, text = escapePart part ++ (jsonPointer parts).toList := by
  have grow {c : Char} {mark : List Char} {part : String} {parts : List String} {rest : List Char}
      (spelled : rest = escapePart part ++ (jsonPointer parts).toList)
      (marked : (if c = '~' then ['~', '0'] else if c = '/' then ['~', '1'] else [c]) = mark) :
      ∃ part parts, mark ++ rest = escapePart part ++ (jsonPointer parts).toList := by
    refine ⟨String.ofList (c :: part.toList), parts, ?_⟩
    rw [escapePart, String.toList_ofList, List.flatMap_cons, marked, List.append_assoc, spelled]
    rfl
  fun_induction tildesEscaped text with
  | case1 => exact ⟨"", [], rfl⟩
  | case2 rest ih =>
    obtain ⟨part, parts, spelled⟩ := ih escaped
    exact grow (c := '~') spelled rfl
  | case3 rest ih =>
    obtain ⟨part, parts, spelled⟩ := ih escaped
    exact grow (c := '/') spelled rfl
  | case4 => cases escaped
  | case5 c rest _ _ tilde ih =>
    obtain ⟨part, parts, spelled⟩ := ih escaped
    by_cases slash : c = '/'
    · refine ⟨"", part :: parts, ?_⟩
      rw [jsonPointer_cons, ← spelled, slash]
      rfl
    · exact grow (c := c) spelled (by rw [if_neg (by simpa using tilde), if_neg slash])

theorem tildesEscaped_append_plain {text : List Char} (escaped : tildesEscaped text = true) {c : Char}
    (plain : c ≠ '~') : tildesEscaped (text ++ [c]) = true := by
  fun_induction tildesEscaped text with
  | case1 => rw [List.nil_append, tildesEscaped_cons plain]; rfl
  | case2 rest ih => exact ih escaped
  | case3 rest ih => exact ih escaped
  | case4 => cases escaped
  | case5 c' rest _ _ tilde ih =>
    rw [List.cons_append, tildesEscaped_cons (by simpa using tilde)]
    exact ih escaped

theorem pointerPattern_cons {c : Char} {rest : List Char} :
    pointerPattern (c :: rest) = true ↔ c = '/' ∧ tildesEscaped rest = true := by
  by_cases slash : c = '/'
  · subst slash
    exact (and_iff_right rfl).symm
  · rw [pointerPattern]
    · exact iff_of_false Bool.false_ne_true fun opens => slash opens.1
    · exact List.cons_ne_nil c rest
    · exact fun rest' same => slash (List.cons.inj same).1

theorem written_of_pattern {text : List Char} (pattern : pointerPattern text = true) :
    ∃ parts, text = (jsonPointer parts).toList := by
  cases text with
  | nil => exact ⟨[], rfl⟩
  | cons c rest =>
    obtain ⟨rfl, escaped⟩ := pointerPattern_cons.mp pattern
    obtain ⟨part, parts, spelled⟩ := written_of_escaped escaped
    exact ⟨part :: parts, by rw [jsonPointer_cons, spelled]⟩

/-- **Every text of the pattern is a pointer**, or a newline. -/
theorem jsonPointer_surjective (location : JsonPointer) :
    location.val = "\n" ∨ ∃ parts, location.val = jsonPointer parts := by
  have written {text : List Char} (pattern : pointerPattern text = true)
      (same : text = location.val.toList) : ∃ parts, location.val = jsonPointer parts := by
    obtain ⟨parts, spelled⟩ := written_of_pattern pattern
    exact ⟨parts, String.toList_injective (same.symm.trans spelled)⟩
  rcases Bool.or_eq_true_iff.mp location.property with pattern | pattern
  · exact Or.inr (written pattern rfl)
  · rw [withoutNewline] at pattern
    split at pattern
    · rename_i last
      have whole := List.dropLast_append_getLast? _ last
      cases front : location.val.toList.dropLast with
      | nil =>
        rw [front] at whole
        exact Or.inl (String.toList_injective whole.symm)
      | cons c rest =>
        rw [front] at pattern whole
        obtain ⟨rfl, escaped⟩ := pointerPattern_cons.mp pattern
        exact Or.inr (written
          (pointerPattern_cons.mpr ⟨rfl, tildesEscaped_append_plain escaped (by decide)⟩) whole)
    · exact Or.inr (written pattern rfl)

/-! ### Where tokens lead -/

/-- **Tokens that lead to a value**: a field by its key, an item by the numeral of its index. -/
inductive Leads : Json → List String → Prop
  | here (root : Json) : Leads root []
  | item {items : List Json} {index : Nat} {item : Json} {rest : List String}
      (listed : items[index]? = some item) (further : Leads item rest) :
      Leads (.arr items) (numeral index :: rest)
  | field {fields : Dict} {key : String} {value : Json} {rest : List String}
      (found : get? fields key = some value) (further : Leads value rest) :
      Leads (.obj fields) (key :: rest)

/-- Tokens that lead to a value when an item is taken by whatever `int` reads. -/
inductive LooselyLeads : Json → List String → Prop
  | here (root : Json) : LooselyLeads root []
  | step {root value : Json} {token : String} {rest : List String}
      (found : stepInto token.toList root = some value) (further : LooselyLeads value rest) :
      LooselyLeads root (token :: rest)

/-- Every token that enters an array is the numeral of an index. -/
def Canonical : Json → List String → Prop
  | _, [] => True
  | .arr items, token :: rest => ∀ item, stepInto token.toList (.arr items) = some item →
      (∃ index, token = numeral index) ∧ Canonical item rest
  | .obj fields, token :: rest => ∀ value, get? fields token = some value → Canonical value rest
  | _, _ :: _ => True

/-- **Tokens lead to a value** if they do so loosely, by numerals only. -/
theorem leads_iff {root : Json} {tokens : List String} :
    Leads root tokens ↔ LooselyLeads root tokens ∧ Canonical root tokens := by
  constructor
  · intro leads
    induction leads with
    | here root => exact ⟨.here root, by unfold Canonical; trivial⟩
    | @item items index item rest listed _ ih =>
      have found : stepInto (numeral index).toList (.arr items) = some item := by
        rw [numeral, String.toList_ofList, stepInto_item, listed]
      refine ⟨.step found ih.1, fun other found' => ⟨⟨index, rfl⟩, ?_⟩⟩
      cases found.symm.trans found'
      exact ih.2
    | @field fields key value rest found _ ih =>
      refine ⟨.step ((stepInto_field _ _).trans found) ih.1, fun other found' => ?_⟩
      cases found.symm.trans found'
      exact ih.2
  · rintro ⟨loosely, canonical⟩
    induction loosely with
    | here root => exact .here root
    | @step root value token rest found _ ih =>
      cases root with
      | arr items =>
        obtain ⟨⟨index, rfl⟩, further⟩ := canonical value found
        rw [numeral, String.toList_ofList, stepInto_item] at found
        exact .item found (ih further)
      | obj fields =>
        rw [stepInto_field] at found
        exact .field found (ih (canonical value found))
      | _ => cases found

theorem foldl_none (tokens : List (List Char)) :
    tokens.foldl (fun current token => current.bind (stepInto token)) none = none := by
  induction tokens with
  | nil => rfl
  | cons token rest ih => exact ih

theorem looselyLeads_iff {root : Json} {tokens : List String} :
    ((tokens.map String.toList).foldl (fun current token => current.bind (stepInto token))
      (some root)).isSome = true ↔ LooselyLeads root tokens := by
  induction tokens generalizing root with
  | nil => exact iff_of_true rfl (.here root)
  | cons token rest ih =>
    rw [List.map_cons, List.foldl_cons, Option.bind_some]
    cases found : stepInto token.toList root with
    | none =>
      rw [foldl_none]
      refine iff_of_false Bool.false_ne_true ?_
      rintro (_ | ⟨found', _⟩)
      cases found.symm.trans found'
    | some value =>
      refine Iff.trans ih ⟨.step found, ?_⟩
      rintro (_ | ⟨found', further⟩)
      cases found.symm.trans found'
      exact further

/-! ### What a location says -/

/-- A text without `/plan` as its first token. -/
def withoutPlan (text : List Char) : List Char :=
  if text = "/plan".toList ∨ "/plan/".toList.isPrefixOf text then text.drop 5 else text

/-- **What a location says**: without the token `plan`, it is a pointer that leads to a value. -/
def Addresses (root : Json) (location : String) : Prop :=
  ∃ parts, withoutPlan location.toList = (jsonPointer parts).toList ∧ Leads root parts

/-- The tokens that are left of a location without the token `plan`. -/
def Remains (location : String) (parts : List String) : Prop :=
  location = jsonPointer ("plan" :: parts) ∨
    location = jsonPointer parts ∧ ∀ first ∈ parts.head?, ¬ "plan".toList <+: first.toList

def trimmed (parts : List String) : List String :=
  if parts.all (· == "") then [""] else parts.dropWhile (· == "")

/-- **A location is read as it is written.** -/
structure ReadAsWritten (root : Json) (location : String) : Prop where
  /-- Where its first token goes on behind `plan`, both readings of it lead somewhere, or none. -/
  glued : ∀ more rest, more ≠ "" → location = jsonPointer (("plan" ++ more) :: rest) →
    (LooselyLeads root (more :: rest) ↔ Leads root (("plan" ++ more) :: rest))
  /-- Where empty tokens come first, it leads somewhere with them exactly if it does so without. -/
  doubled : ∀ first rest, Remains location ("" :: first :: rest) →
    (LooselyLeads root (trimmed (first :: rest)) ↔ Leads root ("" :: first :: rest))
  /-- Elsewhere, arrays on the way to a value are entered by numerals. -/
  numerals : ∀ parts, Remains location parts → parts.head? ≠ some "" ∨ parts = [""] →
    LooselyLeads root parts → Canonical root parts
  /-- A newline is no key. -/
  newline : location = "\n" → ¬ LooselyLeads root ["\n"]

/-! ### The tokens by which the test goes -/

theorem escapePart_append (front back : String) :
    escapePart (front ++ back) = escapePart front ++ escapePart back := by
  rw [escapePart, String.toList_append, List.flatMap_append]
  rfl

theorem escapePart_eq_nil {part : String} : escapePart part = [] ↔ part = "" := by
  constructor
  · intro none
    have back := readBack part
    rw [none] at back
    exact String.toList_injective back.symm
  · rintro rfl
    rfl

theorem jsonPointer_opens (parts : List String) :
    (jsonPointer parts).toList = [] ∨ ∃ rest, (jsonPointer parts).toList = '/' :: rest := by
  cases parts with
  | nil => exact Or.inl rfl
  | cons part parts => exact Or.inr ⟨_, jsonPointer_cons part parts⟩

theorem isPrefix_of_escaped {word : List Char} (plain : ∀ c ∈ word, c ≠ '~' ∧ c ≠ '/')
    {part : List Char} {parts : List String}
    (opens : word <+: part.flatMap (fun c =>
      if c = '~' then ['~', '0'] else if c = '/' then ['~', '1'] else [c]) ++
        (jsonPointer parts).toList) : word <+: part := by
  induction word generalizing part with
  | nil => exact List.nil_prefix
  | cons c word ih =>
    obtain ⟨tilde, slash⟩ := plain c List.mem_cons_self
    cases part with
    | nil =>
      rw [List.flatMap_nil, List.nil_append] at opens
      rcases jsonPointer_opens parts with none | ⟨rest, some⟩
      · rw [none, List.prefix_nil] at opens
        cases opens
      · rw [some, List.cons_prefix_cons] at opens
        exact absurd opens.1 slash
    | cons d part =>
      rw [List.flatMap_cons] at opens
      by_cases marked : d = '~'
      · rw [if_pos marked, List.cons_append, List.cons_append, List.cons_prefix_cons] at opens
        exact absurd opens.1 tilde
      · rw [if_neg marked] at opens
        by_cases marked' : d = '/'
        · rw [if_pos marked', List.cons_append, List.cons_append, List.cons_prefix_cons] at opens
          exact absurd opens.1 tilde
        · rw [if_neg marked', List.singleton_append, List.cons_append, List.cons_prefix_cons] at opens
          exact List.cons_prefix_cons.mpr ⟨opens.1,
            ih (fun c member => plain c (List.mem_cons_of_mem _ member)) opens.2⟩

theorem glued_toList (more : String) (rest : List String) :
    (jsonPointer (("plan" ++ more) :: rest)).toList =
      "/plan".toList ++ (escapePart more ++ (jsonPointer rest).toList) := by
  rw [jsonPointer_cons, escapePart_append, List.append_assoc]
  rfl

/-- Behind `plan`, the test goes by what follows. -/
theorem planScoped_glued (more : String) (rest : List String) :
    planScoped (jsonPointer (("plan" ++ more) :: rest)) =
      escapePart more ++ (jsonPointer rest).toList := by
  rw [planScoped, glued_toList, Text.removeStart, if_pos, List.drop_left]
  exact List.isPrefixOf_iff_prefix.mpr (List.prefix_append _ _)

theorem plan_plain : ∀ c ∈ "plan".toList, c ≠ '~' ∧ c ≠ '/' := by simp

/-- A location that does not open with `plan` is read as it is. -/
theorem planScoped_other {parts : List String}
    (other : ∀ first ∈ parts.head?, ¬ "plan".toList <+: first.toList) :
    planScoped (jsonPointer parts) = (jsonPointer parts).toList := by
  rw [planScoped, Text.removeStart, if_neg]
  intro opens
  rw [List.isPrefixOf_iff_prefix] at opens
  cases parts with
  | nil =>
    have none := List.prefix_nil.mp opens
    revert none
    decide
  | cons first rest =>
    rw [jsonPointer_cons, (by decide : "/plan".toList = '/' :: "plan".toList),
      List.cons_prefix_cons] at opens
    exact other first rfl (isPrefix_of_escaped plan_plain opens.2)

theorem dropWhile_slashes {part : String} (some : part ≠ "") (text : List Char) :
    (escapePart part ++ text).dropWhile (· = '/') = escapePart part ++ text := by
  obtain ⟨c, rest, spelled⟩ := List.exists_cons_of_ne_nil (escapePart_eq_nil.not.mpr some)
  have other : c ≠ '/' := by
    rintro rfl
    exact slash_not_mem_escapePart part (spelled ▸ List.mem_cons_self)
  rw [spelled, List.cons_append, List.dropWhile_cons, if_neg (by simpa using other)]

theorem trimmed_written {first : String} (some : first ≠ "") (rest : List String) :
    trimmed (first :: rest) = first :: rest := by
  have written : (first == "") = false := beq_eq_false_iff_ne.mpr some
  rw [trimmed, List.all_cons, written, Bool.false_and, if_neg Bool.false_ne_true, List.dropWhile_cons,
    written, if_neg Bool.false_ne_true]

theorem trimmed_blank (first : String) (rest : List String) :
    trimmed ("" :: first :: rest) = trimmed (first :: rest) := by
  rw [trimmed, List.all_cons, beq_self_eq_true, Bool.true_and, List.dropWhile_cons, beq_self_eq_true,
    if_pos rfl, trimmed]

theorem pointerTokens_pointer (first : String) (rest : List String) :
    pointerTokens (jsonPointer (first :: rest)).toList = (trimmed (first :: rest)).map String.toList := by
  induction rest generalizing first with
  | nil =>
    by_cases blank : first = ""
    · subst blank
      decide
    · rw [trimmed_written blank, jsonPointer_cons, pointerTokens, List.dropWhile_cons, if_pos (by simp),
        dropWhile_slashes blank]
      exact betweenSlashes_pointer first []
  | cons next rest ih =>
    by_cases blank : first = ""
    · subst blank
      rw [trimmed_blank, ← ih next, jsonPointer_cons, pointerTokens, List.dropWhile_cons,
        if_pos (by simp)]
      rfl
    · rw [trimmed_written blank, jsonPointer_cons, pointerTokens, List.dropWhile_cons, if_pos (by simp),
        dropWhile_slashes blank]
      exact betweenSlashes_pointer first (next :: rest)

/-- **Where a pointer resolves**: its tokens lead somewhere, without the empty ones in front. -/
theorem resolves_iff {root : Json} (first : String) (rest : List String) :
    resolvePointer root (jsonPointer (first :: rest)).toList = true ↔
      LooselyLeads root (trimmed (first :: rest)) := by
  rw [resolvePointer, pointerTokens_pointer, jsonPointer_cons, List.isEmpty_cons, Bool.false_or]
  exact looselyLeads_iff

theorem resolves_glued {root : Json} {more : String} (some : more ≠ "") (rest : List String) :
    resolvePointer root (escapePart more ++ (jsonPointer rest).toList) = true ↔
      LooselyLeads root (more :: rest) := by
  have written : (escapePart more ++ (jsonPointer rest).toList).isEmpty = false := by
    rw [List.isEmpty_eq_false_iff]
    exact fun none => some (escapePart_eq_nil.mp (List.append_eq_nil_iff.mp none).1)
  have tokens := betweenSlashes_pointer more rest
  rw [resolvePointer, written, Bool.false_or, pointerTokens, dropWhile_slashes some]
  rw [betweenSlashes] at tokens
  rw [tokens]
  exact looselyLeads_iff

theorem withoutPlan_plan (rest : List String) :
    withoutPlan (jsonPointer ("plan" :: rest)).toList = (jsonPointer rest).toList := by
  have spelled : (jsonPointer ("plan" :: rest)).toList = "/plan".toList ++ (jsonPointer rest).toList :=
    glued_toList "" rest
  rw [withoutPlan, spelled, if_pos]
  · rfl
  · rcases jsonPointer_opens rest with none | ⟨behind, some⟩
    · rw [none]
      exact Or.inl (List.append_nil _)
    · rw [some]
      exact Or.inr rfl

theorem glued_of_prefix {first : String} (opens : "plan".toList <+: first.toList) :
    ∃ more, first = "plan" ++ more := by
  obtain ⟨more, spelled⟩ := opens
  refine ⟨String.ofList more, String.toList_injective ?_⟩
  rw [String.toList_append, ← spelled]
  exact congrArg _ String.toList_ofList.symm

theorem withoutPlan_other {parts : List String} (other : parts.head? ≠ some "plan") :
    withoutPlan (jsonPointer parts).toList = (jsonPointer parts).toList := by
  rw [withoutPlan, if_neg]
  rintro (whole | opens)
  · have same : jsonPointer parts = jsonPointer ["plan"] :=
      String.toList_injective (whole.trans (by decide))
    rw [jsonPointer_injective same] at other
    exact other rfl
  · rw [List.isPrefixOf_iff_prefix] at opens
    cases parts with
    | nil =>
      have none := List.prefix_nil.mp opens
      revert none
      decide
    | cons first rest =>
      refine other (congrArg some ?_)
      rw [jsonPointer_cons, (by decide : "/plan/".toList = '/' :: ("plan".toList ++ ['/'])),
        List.cons_prefix_cons] at opens
      obtain ⟨more, rfl⟩ := glued_of_prefix (isPrefix_of_escaped plan_plain
        ((List.prefix_append "plan".toList ['/']).trans opens.2))
      have slashed := opens.2
      rw [escapePart_append, List.append_assoc, (by decide : escapePart "plan" = "plan".toList),
        List.prefix_append_right_inj] at slashed
      by_contra extended
      have some : more ≠ "" := by
        rintro rfl
        exact extended rfl
      obtain ⟨c, behind, written⟩ := List.exists_cons_of_ne_nil (escapePart_eq_nil.not.mpr some)
      rw [written, List.cons_append, List.cons_prefix_cons] at slashed
      exact slash_not_mem_escapePart more (written ▸ slashed.1 ▸ List.mem_cons_self)

theorem addresses_plan {root : Json} (rest : List String) :
    Addresses root (jsonPointer ("plan" :: rest)) ↔ Leads root rest := by
  constructor
  · rintro ⟨parts, spelled, leads⟩
    rw [withoutPlan_plan] at spelled
    rwa [jsonPointer_injective (String.toList_injective spelled)]
  · exact fun leads => ⟨rest, withoutPlan_plan rest, leads⟩

theorem addresses_other {root : Json} {parts : List String} (other : parts.head? ≠ some "plan") :
    Addresses root (jsonPointer parts) ↔ Leads root parts := by
  constructor
  · rintro ⟨parts', spelled, leads⟩
    rw [withoutPlan_other other] at spelled
    rwa [jsonPointer_injective (String.toList_injective spelled)]
  · exact fun leads => ⟨parts, withoutPlan_other other, leads⟩

def scopedTokens : List String → List String
  | [] => []
  | first :: rest => trimmed (first :: rest)

theorem resolves_pointer {root : Json} (parts : List String) :
    resolvePointer root (jsonPointer parts).toList = true ↔ LooselyLeads root (scopedTokens parts) := by
  cases parts with
  | nil => exact iff_of_true rfl (.here root)
  | cons first rest => exact resolves_iff first rest

/-- **Tokens without the empty ones in front** lead where they lead with them, by numerals. -/
theorem scopedTokens_iff {root : Json} (parts : List String) :
    (LooselyLeads root (scopedTokens parts) ↔ Leads root parts) ↔
      (∀ first rest, parts = "" :: first :: rest →
        (LooselyLeads root (trimmed (first :: rest)) ↔ Leads root ("" :: first :: rest))) ∧
      ((parts.head? ≠ some "" ∨ parts = [""]) → LooselyLeads root parts → Canonical root parts) := by
  have single (own : scopedTokens parts = parts) (apart : ∀ first rest, parts ≠ "" :: first :: rest)
      (ordinary : parts.head? ≠ some "" ∨ parts = [""]) :
      (LooselyLeads root (scopedTokens parts) ↔ Leads root parts) ↔
        (∀ first rest, parts = "" :: first :: rest →
          (LooselyLeads root (trimmed (first :: rest)) ↔ Leads root ("" :: first :: rest))) ∧
        ((parts.head? ≠ some "" ∨ parts = [""]) → LooselyLeads root parts → Canonical root parts) := by
    rw [own, leads_iff]
    constructor
    · exact fun same => ⟨fun first rest equal => absurd equal (apart first rest),
        fun _ loosely => (same.mp loosely).2⟩
    · exact fun faithful => ⟨fun loosely => ⟨loosely, faithful.2 ordinary loosely⟩, And.left⟩
  cases parts with
  | nil => exact single rfl (fun _ _ equal => by cases equal) (Or.inl (Option.some_ne_none _).symm)
  | cons first rest =>
    by_cases blank : first = ""
    · subst blank
      cases rest with
      | nil => exact single (by decide) (fun _ _ equal => by cases equal) (Or.inr rfl)
      | cons next rest =>
        rw [scopedTokens, trimmed_blank]
        constructor
        · intro same
          refine ⟨fun first rest' equal => ?_, fun ordinary => ?_⟩
          · cases equal
            exact same
          · rcases ordinary with other | equal
            · exact absurd rfl other
            · cases equal
        · exact fun faithful => faithful.1 next rest rfl
    · exact single (trimmed_written blank rest) (fun _ _ equal => blank (List.cons.inj equal).1)
        (Or.inl fun equal => blank (Option.some.inj equal))

/-- What remains of a location, where `plan` is its first token or no part of it. -/
theorem readAsWritten_iff {root : Json} {location : String} {parts : List String}
    (remains : ∀ parts', Remains location parts' ↔ parts' = parts)
    (apart : ∀ more rest, more ≠ "" → location ≠ jsonPointer (("plan" ++ more) :: rest))
    (visible : location ≠ "\n") :
    ReadAsWritten root location ↔ (LooselyLeads root (scopedTokens parts) ↔ Leads root parts) := by
  rw [scopedTokens_iff]
  constructor
  · exact fun faithful => ⟨fun first rest equal => faithful.doubled first rest ((remains _).mpr equal.symm),
      faithful.numerals parts ((remains _).mpr rfl)⟩
  · rintro ⟨doubled, numerals⟩
    refine ⟨fun more rest some equal => absurd equal (apart more rest some),
      fun first rest remaining => doubled first rest ((remains _).mp remaining).symm,
      fun parts' remaining => ?_, fun newline => absurd newline visible⟩
    rw [(remains _).mp remaining]
    exact numerals

theorem jsonPointer_visible (parts : List String) : jsonPointer parts ≠ "\n" := by
  intro newline
  have text := congrArg String.toList newline
  rcases jsonPointer_opens parts with none | ⟨rest, some⟩
  · rw [none] at text
    cases text
  · rw [some] at text
    cases text

theorem location_newline (root : Json) :
    (resolvePointer root (planScoped "\n") = true ↔ Addresses root "\n") ↔
      ReadAsWritten root "\n" := by
  have tokens : pointerTokens (planScoped "\n") = ["\n"].map String.toList := by decide
  have text : (planScoped "\n").isEmpty = false := by decide
  have unaddressed : ¬ Addresses root "\n" := by
    rintro ⟨parts, spelled, _⟩
    exact jsonPointer_visible parts (String.toList_injective spelled.symm)
  have unwritten {parts : List String} (same : "\n" = jsonPointer parts) : False :=
    jsonPointer_visible parts same.symm
  rw [resolvePointer, text, Bool.false_or, tokens, looselyLeads_iff, iff_false_right unaddressed]
  constructor
  · intro refused
    refine ⟨fun _ _ _ same => (unwritten same).elim, fun _ _ remaining => ?_,
      fun _ remaining => ?_, fun _ => refused⟩
    · exact (remaining.elim unwritten fun same => unwritten same.1).elim
    · exact (remaining.elim unwritten fun same => unwritten same.1).elim
  · exact fun faithful => faithful.newline rfl

/-- `plan` as a token of its own. -/
theorem location_plan (root : Json) (rest : List String) :
    (resolvePointer root (planScoped (jsonPointer ("plan" :: rest))) = true ↔
        Addresses root (jsonPointer ("plan" :: rest))) ↔
      ReadAsWritten root (jsonPointer ("plan" :: rest)) := by
  have inner : planScoped (jsonPointer ("plan" :: rest)) = (jsonPointer rest).toList :=
    planScoped_glued "" rest
  rw [inner, resolves_pointer, addresses_plan,
    @readAsWritten_iff _ _ rest _ _ (jsonPointer_visible _)]
  · intro parts
    constructor
    · rintro (same | ⟨same, other⟩)
      · exact (List.cons.inj (jsonPointer_injective same)).2.symm
      · cases jsonPointer_injective same
        exact absurd (List.prefix_refl _) (other "plan" rfl)
    · rintro rfl
      exact Or.inl rfl
  · intro more rest' some same
    have texts := congrArg String.toList (List.cons.inj (jsonPointer_injective same)).1
    rw [String.toList_append] at texts
    exact some (String.toList_injective (List.self_eq_append_right.mp texts))

/-- A token that goes on behind `plan`. -/
theorem location_glued (root : Json) {more : String} (some : more ≠ "") (rest : List String) :
    (resolvePointer root (planScoped (jsonPointer (("plan" ++ more) :: rest))) = true ↔
        Addresses root (jsonPointer (("plan" ++ more) :: rest))) ↔
      ReadAsWritten root (jsonPointer (("plan" ++ more) :: rest)) := by
  have longer : "plan" ++ more ≠ "plan" := by
    intro same
    have texts := congrArg String.toList same
    rw [String.toList_append] at texts
    exact some (String.toList_injective (List.append_right_eq_self.mp texts))
  have unremaining (parts : List String) : ¬ Remains (jsonPointer (("plan" ++ more) :: rest)) parts := by
    rintro (same | ⟨same, other⟩)
    · exact longer (List.cons.inj (jsonPointer_injective same)).1
    · cases jsonPointer_injective same
      refine other _ rfl ?_
      rw [String.toList_append]
      exact List.prefix_append _ _
  rw [planScoped_glued, resolves_glued some,
    @addresses_other _ (("plan" ++ more) :: rest) fun equal => longer (Option.some.inj equal)]
  constructor
  · refine fun agree => ⟨fun more' rest' _ same => ?_, fun _ _ remaining => absurd remaining
      (unremaining _), fun _ remaining => absurd remaining (unremaining _),
      fun newline => absurd newline (jsonPointer_visible _)⟩
    obtain ⟨equal, rfl⟩ := List.cons.inj (jsonPointer_injective same)
    have texts := congrArg String.toList equal
    rw [String.toList_append, String.toList_append] at texts
    cases String.toList_injective (List.append_cancel_left texts)
    exact agree
  · exact fun faithful => faithful.glued more rest some rfl

/-- A first token that does not open with `plan`, or none. -/
theorem location_other (root : Json) {parts : List String}
    (other : ∀ first ∈ parts.head?, ¬ "plan".toList <+: first.toList) :
    (resolvePointer root (planScoped (jsonPointer parts)) = true ↔
        Addresses root (jsonPointer parts)) ↔ ReadAsWritten root (jsonPointer parts) := by
  have unplanned : parts.head? ≠ some "plan" := fun head =>
    other "plan" head (List.prefix_refl _)
  rw [planScoped_other other, resolves_pointer, addresses_other unplanned,
    @readAsWritten_iff _ _ parts _ _ (jsonPointer_visible _)]
  · intro parts'
    constructor
    · rintro (same | ⟨same, _⟩)
      · exact absurd (congrArg List.head? (jsonPointer_injective same)) unplanned
      · exact (jsonPointer_injective same).symm
    · rintro rfl
      exact Or.inr ⟨rfl, other⟩
  · intro more rest some same
    cases jsonPointer_injective same
    refine other _ rfl ?_
    rw [String.toList_append]
    exact List.prefix_append _ _

/-- **The location test accepts what a location says**, exactly if it is read as it is written. -/
theorem location_iff (root : Json) (location : JsonPointer) :
    (resolvePointer root (planScoped location.val) = true ↔ Addresses root location.val) ↔
      ReadAsWritten root location.val := by
  rcases jsonPointer_surjective location with newline | ⟨parts, written⟩
  · rw [newline]
    exact location_newline root
  · rw [written]
    by_cases opens : ∃ first ∈ parts.head?, "plan".toList <+: first.toList
    · obtain ⟨first, head, opens⟩ := opens
      obtain ⟨rest, rfl⟩ := List.head?_eq_some_iff.mp head
      obtain ⟨more, rfl⟩ := glued_of_prefix opens
      by_cases whole : more = ""
      · subst whole
        exact location_plan root rest
      · exact location_glued root whole rest
    · exact location_other root fun first head opens' => opens ⟨first, head, opens'⟩

/-- The location of the plan's own id is not accepted: it is read as `_id`. -/
theorem plan_id_unresolved : ¬ (resolvePointer (smallPlan sha256 []).toJson (planScoped "/plan_id") = true ↔
    Addresses (smallPlan sha256 []).toJson "/plan_id") := by
  intro agree
  have refused : resolvePointer (smallPlan sha256 []).toJson (planScoped "/plan_id") = false := by
    decide +kernel
  have addressed : Addresses (smallPlan sha256 []).toJson "/plan_id" :=
    ⟨["plan_id"], by decide, .field (by rfl) (.here _)⟩
  rw [agree.mpr addressed] at refused
  cases refused

end

end Audisor.Aflow
