/-
**Paths, words and numbers in a text, as Python reads them.**

* `Path` — an absolute path, as its parts below the root.
* `pathParts` — the parts of a path's text: empty parts and `.` are dropped, `..` stays.
* `Path.joined` — `base / text`: an absolute text replaces the base.
* `pathParts_intercalate` — names that are joined are the parts of their text.
* `lower` — `str.lower`, as far as it makes ASCII letters.
* `tokens` — `re.findall(r"[a-z0-9]+", text)`.
* `replaceMark` — `text.replace(..)` of a mark of two characters.
* `readInt` — `int(text)`: white space around it, a sign, digits of any script, underscores between them.
-/

import Audisor.Text.Lines
import Mathlib.Data.List.Infix

namespace Text

/-- An absolute path: its parts below the root. -/
abbrev Path := List String

/-- `PurePosixPath(text).parts`, without the root. -/
def pathParts (text : String) : List String :=
  ((text.toList.splitOn '/').map String.ofList).filter fun part => part ≠ "" && part ≠ "."

/-- `PurePosixPath(text).is_absolute()`. -/
def isAbsolute (text : String) : Bool := text.toList.head? == some '/'

namespace Path

/-- `path.parent`. -/
def parent (path : Path) : Path := path.dropLast

/-- `base / text`. -/
def joined (base : Path) (text : String) : Path :=
  if isAbsolute text then pathParts text else base ++ pathParts text

/-- `base in path.parents`. -/
def isBelow (path base : Path) : Bool := base.isPrefixOf path && base.length < path.length

/-- `path.relative_to(base).as_posix()`, for a path below the base. -/
def relativeTo (path base : Path) : String := String.intercalate "/" (path.drop base.length)

/-- `str(path)`. -/
def text (path : Path) : String := "/" ++ String.intercalate "/" path

end Path

/-! ### Parts and names -/

/-- **Names that are joined are the parts of the text.** -/
theorem pathParts_intercalate {parts : List String} (some : parts ≠ [])
    (named : ∀ part ∈ parts, part ≠ "" ∧ part ≠ "." ∧ '/' ∉ part.toList) :
    pathParts (String.intercalate "/" parts) = parts := by
  have text : (String.intercalate "/" parts).toList =
      List.intercalate ['/'] (parts.map String.toList) := by
    rw [String.toList_intercalate]
    rfl
  have kept : parts.filter (fun part => part ≠ "" && part ≠ ".") = parts :=
    List.filter_eq_self.mpr fun part member => by
      simp [(named part member).1, (named part member).2.1]
  unfold pathParts
  rw [text, List.splitOn_intercalate]
  · simpa using kept
  · intro line member
    obtain ⟨part, listed, rfl⟩ := List.mem_map.mp member
    exact (named part listed).2.2
  · simpa using some

theorem pathParts_slash (text : String) : pathParts ("/" ++ text) = pathParts text := by
  have split : ("/" ++ text).toList = [] ++ '/' :: text.toList := by
    rw [String.toList_append]
    rfl
  unfold pathParts
  rw [split, List.splitOn_append_cons_self_of_not_mem List.not_mem_nil]
  rfl

/-! ### Words -/

/-- `c.lower()`. Letters outside ASCII that are no letters of ASCII in lower case stay as they are. -/
def lowerChar (c : Char) : List Char :=
  if 'A' ≤ c ∧ c ≤ 'Z' then [Char.ofNat (c.toNat + 32)]
  else if c = '\u212a' then ['k']
  else if c = '\u0130' then ['i', '\u0307']
  else [c]

/-- `text.lower()`. -/
def lower (text : List Char) : List Char := text.flatMap lowerChar

/-- `[a-z0-9]`. -/
def isTokenChar (c : Char) : Bool := ('a' ≤ c && c ≤ 'z') || ('0' ≤ c && c ≤ '9')

/-- `re.findall(r"[a-z0-9]+", text)`. -/
def tokens (text : List Char) : List (List Char) :=
  (text.splitOnP fun c => !isTokenChar c).filter fun token => token ≠ []

/-- `word in text`. -/
def contains (text word : List Char) : Bool := decide (word <:+: text)

/-- `text.replace(first + second, mark)`. -/
def replaceMark (first second mark : Char) : List Char → List Char
  | a :: b :: rest =>
    if a = first ∧ b = second then mark :: replaceMark first second mark rest
    else a :: replaceMark first second mark (b :: rest)
  | text => text

/-- `text.removeprefix(start)`. -/
def removeStart (start text : List Char) : List Char :=
  if start.isPrefixOf text then text.drop start.length else text

/-! ### Numbers -/

/-- The zeros of the scripts, each followed by the other digits. -/
def zeros : List Nat :=
  [0x0030, 0x0660, 0x06f0, 0x07c0, 0x0966, 0x09e6, 0x0a66, 0x0ae6, 0x0b66, 0x0be6, 0x0c66, 0x0ce6,
    0x0d66, 0x0de6, 0x0e50, 0x0ed0, 0x0f20, 0x1040, 0x1090, 0x17e0, 0x1810, 0x1946, 0x19d0, 0x1a80,
    0x1a90, 0x1b50, 0x1bb0, 0x1c40, 0x1c50, 0xa620, 0xa8d0, 0xa900, 0xa9d0, 0xa9f0, 0xaa50, 0xabf0,
    0xff10, 0x104a0, 0x10d30, 0x11066, 0x110f0, 0x11136, 0x111d0, 0x112f0, 0x11450, 0x114d0, 0x11650,
    0x116c0, 0x11730, 0x118e0, 0x11950, 0x11c50, 0x11d50, 0x11da0, 0x11f50, 0x16a60, 0x16ac0, 0x16b50,
    0x1d7ce, 0x1d7d8, 0x1d7e2, 0x1d7ec, 0x1d7f6, 0x1e140, 0x1e2f0, 0x1e4f0, 0x1e950, 0x1fbf0]

def digitValue (c : Char) : Option Nat :=
  (zeros.find? fun first => first ≤ c.toNat ∧ c.toNat < first + 10).map fun first => c.toNat - first

/-- The digits of a number behind the value of those before them: single underscores may stand
between two digits. -/
def readDigits (value : Nat) : List Char → Option Nat
  | [] => some value
  | '_' :: c :: rest =>
    match digitValue c with
    | some digit => readDigits (10 * value + digit) rest
    | none => none
  | c :: rest =>
    match digitValue c with
    | some digit => readDigits (10 * value + digit) rest
    | none => none

def readNatural : List Char → Option Nat
  | [] => none
  | c :: rest => (digitValue c).bind fun digit => readDigits digit rest

/-- `int(text)`, `none` where Python raises `ValueError`. -/
def readInt (text : List Char) : Option Int :=
  match strip text with
  | '-' :: digits => (readNatural digits).map fun value => -(value : Int)
  | '+' :: digits => (readNatural digits).map fun value => (value : Int)
  | digits => (readNatural digits).map fun value => (value : Int)

end Text
