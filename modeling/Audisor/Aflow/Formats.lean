/-
**The string formats of the A-Flow schemas.**

* `isIdentifier`, `isSha256`, `isSemVer`, `isRelativePath`, `isJsonPointer` — the formats of
  `common.schema.json`. A pattern is searched with `re`, whose `$` also matches in front of a newline
  that ends the text: `withoutNewline`.
* `Identifier`, `Digest`, `SemVer`, … — strings that carry their format.
* `AtLeastOne`, `Distinct`, `DistinctSome` — arrays with `minItems` 1, with `uniqueItems`, with both.
-/

import Audisor.Json.Value

namespace Audisor.Aflow

/-! ### Formats -/

def withoutNewline (text : List Char) : List Char :=
  if text.getLast? = some '\n' then text.dropLast else text

/-- `[A-Za-z]`. -/
def isLetter (c : Char) : Bool := ('A' ≤ c && c ≤ 'Z') || ('a' ≤ c && c ≤ 'z')

/-- `[A-Za-z0-9._:-]`. -/
def isIdentifierChar (c : Char) : Bool :=
  isLetter c || c.isDigit || c == '.' || c == '_' || c == ':' || c == '-'

/-- `^[A-Za-z][A-Za-z0-9._:-]*$`. -/
def identifierPattern (text : List Char) : Bool :=
  match withoutNewline text with
  | [] => false
  | c :: rest => isLetter c && rest.all isIdentifierChar

def isIdentifier (text : String) : Bool :=
  2 ≤ text.length && text.length ≤ 128 && identifierPattern text.toList

/-- `[a-f0-9]`. -/
def isHexChar (c : Char) : Bool := c.isDigit || ('a' ≤ c && c ≤ 'f')

/-- `^sha256:[a-f0-9]{64}$`. -/
def isSha256 (text : String) : Bool :=
  let body := withoutNewline text.toList
  body.take 7 == "sha256:".toList && (body.drop 7).length == 64 && (body.drop 7).all isHexChar

/-- `(0|[1-9][0-9]*)`, and what follows it. -/
def takeNumber : List Char → Option (List Char)
  | [] => none
  | c :: rest =>
    if c = '0' then some rest else if c.isDigit then some (rest.dropWhile Char.isDigit) else none

def takeDot : List Char → Option (List Char)
  | '.' :: rest => some rest
  | _ => none

/-- `[0-9A-Za-z.-]`. -/
def isLabelChar (c : Char) : Bool := isLetter c || c.isDigit || c == '.' || c == '-'

/-- `(?:\+[0-9A-Za-z.-]+)?$`. -/
def isBuildLabel : List Char → Bool
  | [] => true
  | '+' :: label => !label.isEmpty && label.all isLabelChar
  | _ => false

/-- `(?:-[0-9A-Za-z.-]+)?(?:\+[0-9A-Za-z.-]+)?$`. -/
def isVersionTail : List Char → Bool
  | '-' :: rest =>
    !(rest.takeWhile isLabelChar).isEmpty && isBuildLabel (rest.dropWhile isLabelChar)
  | rest => isBuildLabel rest

def isSemVer (text : String) : Bool :=
  match takeNumber (withoutNewline text.toList) >>= takeDot >>= takeNumber >>= takeDot >>=
      takeNumber with
  | some rest => isVersionTail rest
  | none => false

/-- `^(?:[A-Za-z]:[\\/]|/|\\\\)`. -/
def isRooted : List Char → Bool
  | '/' :: _ => true
  | '\\' :: '\\' :: _ => true
  | drive :: ':' :: separator :: _ => isLetter drive && (separator == '\\' || separator == '/')
  | _ => false

def isRelativePath (text : String) : Bool :=
  1 ≤ text.length && text.length ≤ 1024 && !isRooted text.toList

def isAbsolutePath (text : String) : Bool := 1 ≤ text.length && text.length ≤ 2048

/-- A text in which every tilde is followed by a zero or a one. -/
def tildesEscaped : List Char → Bool
  | [] => true
  | '~' :: '0' :: rest => tildesEscaped rest
  | '~' :: '1' :: rest => tildesEscaped rest
  | '~' :: _ => false
  | _ :: rest => tildesEscaped rest

/-- `(?:/(?:[^~/]|~0|~1)*)*`. -/
def pointerPattern : List Char → Bool
  | [] => true
  | '/' :: rest => tildesEscaped rest
  | _ => false

def isJsonPointer (text : String) : Bool :=
  pointerPattern text.toList || pointerPattern (withoutNewline text.toList)

/-! ### Strings that carry their format -/

abbrev Identifier := { text : String // isIdentifier text = true }

instance : LawfulBEq Identifier := Subtype.instLawfulBEq

/-- A `sha256`. -/
abbrev Digest := { text : String // isSha256 text = true }

/-- A `semver`. -/
abbrev SemVer := { text : String // isSemVer text = true }

abbrev RelativePath := { text : String // isRelativePath text = true }

abbrev AbsolutePath := { text : String // isAbsolutePath text = true }

abbrev JsonPointer := { text : String // isJsonPointer text = true }

/-- A string with `minLength` 1. -/
abbrev Words := { text : String // text ≠ "" }

/-- `minItems` 1. -/
abbrev AtLeastOne (α : Type) := { items : List α // items ≠ [] }

/-- One item. -/
abbrev single {α : Type} (item : α) : AtLeastOne α := ⟨[item], List.cons_ne_nil _ _⟩

/-- `uniqueItems`. -/
abbrev Distinct (α : Type) := { items : List α // items.Nodup }

/-- No items. -/
abbrev noItems {α : Type} : Distinct α := ⟨[], List.nodup_nil⟩

/-- `minItems` 1 and `uniqueItems`. -/
abbrev DistinctSome (α : Type) := { items : List α // items ≠ [] ∧ items.Nodup }

/-- One item, which is distinct from all others. -/
abbrev only {α : Type} (item : α) : DistinctSome α :=
  ⟨[item], List.cons_ne_nil _ _, List.nodup_singleton _⟩

end Audisor.Aflow
