/-
**What Python's `str` writes for a value.**

* `PythonRepr` — `repr` of a value, a parameter of the model with what it opens a list or an object with.
* `plainRepr` — the `repr` of values whose texts have no quote and no character to escape.
* `strOf_eq_iff` — a word that looks like no number and no bracket is the `str` of that text only.
-/

import Audisor.Json.RoundTrip

namespace Json

/-- `repr(value)`: a list opens with `[`, an object with a brace. -/
structure PythonRepr where
  text : Json → String
  arr : ∀ items, (text (.arr items)).toList.head? = some '['
  obj : ∀ fields, (text (.obj fields)).toList.head? = some '\x7b'

/-- `str(value)`. -/
def strOf (repr : PythonRepr) : Json → String
  | .null => "None"
  | .bool true => "True"
  | .bool false => "False"
  | .int n => String.ofList (renderInt n)
  | .float literal => String.ofList literal.text
  | .str text => text
  | .arr items => repr.text (.arr items)
  | .obj fields => repr.text (.obj fields)

mutual

/-- `repr`, of values whose texts need no escape. -/
def plainText : Json → List Char
  | .null => "None".toList
  | .bool true => "True".toList
  | .bool false => "False".toList
  | .int n => renderInt n
  | .float literal => literal.text
  | .str text => '\'' :: (text.toList ++ ['\''])
  | .arr items => '[' :: (plainItems items ++ [']'])
  | .obj fields => '\x7b' :: (plainFields fields ++ ['\x7d'])

def plainItems : List Json → List Char
  | [] => []
  | [item] => plainText item
  | item :: other :: rest => plainText item ++ ", ".toList ++ plainItems (other :: rest)

def plainFields : List (String × Json) → List Char
  | [] => []
  | [(key, value)] => '\'' :: (key.toList ++ "': ".toList ++ plainText value)
  | (key, value) :: other :: rest =>
    '\'' :: (key.toList ++ "': ".toList ++ plainText value ++ ", ".toList ++ plainFields (other :: rest))

end

/-- The `repr` of values whose texts need no escape. -/
def plainRepr : PythonRepr where
  text value := String.ofList (plainText value)
  arr items := by rw [plainText, String.toList_ofList]; rfl
  obj fields := by rw [plainText, String.toList_ofList]; rfl

/-- A text that is the `str` of no value but itself. -/
def isWord (text : String) : Bool :=
  (text.toList.any fun c => !isNumberChar c) && text.toList.head? != some '[' &&
    text.toList.head? != some '\x7b' && !(["None", "True", "False"].contains text)

theorem ofList_ne_of_numeric {digits : List Char} {text : String}
    (numeric : ∀ c ∈ digits, isNumberChar c = true)
    (letter : (text.toList.any fun c => !isNumberChar c) = true) : String.ofList digits ≠ text := by
  rintro rfl
  rw [String.toList_ofList, List.any_eq_true] at letter
  obtain ⟨c, member, other⟩ := letter
  rw [numeric c member] at other
  cases other

/-- **A word is the `str` of that text only.** -/
theorem strOf_eq_iff (repr : PythonRepr) {word : String} (isWord : isWord word = true)
    {value : Json} : strOf repr value = word ↔ value = .str word := by
  simp only [Json.isWord, Bool.and_eq_true, bne_iff_ne, Bool.not_eq_true', List.contains_eq_mem,
    decide_eq_false_iff_not, List.mem_cons, List.not_mem_nil, or_false, not_or] at isWord
  obtain ⟨⟨⟨letter, notArr⟩, notObj⟩, notNone, notTrue, notFalse⟩ := isWord
  cases value with
  | null => exact iff_of_false (Ne.symm notNone) (by rintro ⟨⟩)
  | bool value =>
    cases value
    · exact iff_of_false (Ne.symm notFalse) (by rintro ⟨⟩)
    · exact iff_of_false (Ne.symm notTrue) (by rintro ⟨⟩)
  | int n => exact iff_of_false (ofList_ne_of_numeric (renderInt_isNumberChar n) letter) (by rintro ⟨⟩)
  | float literal =>
    have numeric : ∀ c ∈ literal.text, isNumberChar c = true := by
      have valid := literal.valid
      simp only [isFloatText, Bool.and_eq_true, List.all_eq_true] at valid
      exact valid.1.1
    exact iff_of_false (ofList_ne_of_numeric numeric letter) (by rintro ⟨⟩)
  | str text => exact ⟨fun same => congrArg Json.str same, fun same => by injection same⟩
  | arr items =>
    refine iff_of_false (fun same => notArr ?_) (by rintro ⟨⟩)
    rw [← same]
    exact repr.arr items
  | obj fields =>
    refine iff_of_false (fun same => notObj ?_) (by rintro ⟨⟩)
    rw [← same]
    exact repr.obj fields

end Json
