/-
**JSON text: `json.dumps` and `json.loads`.**

* `Json.Style` — the options of `json.dumps` that callers choose: `ensure_ascii`, and the compact
  separators `(",", ":")` against the default `(", ", ": ")`.
* `Json.dumps`, `Json.loads` — writing and reading a value; `loads` answers `none` where Python
  raises `JSONDecodeError`.
* `Json.sortKeys` — `sort_keys=True`.

The reader recurses on a fuel that bounds the nesting plus the length of the arrays and objects,
and `loads` gives it the length of the text. A lone surrogate escape is not read: a Lean string
holds scalar values only.
-/

import Audisor.Json.Value

namespace Json

/-! ### Writing -/

/-- The options of `json.dumps`. -/
structure Style where
  ensureAscii : Bool := true
  compact : Bool := false
  deriving DecidableEq, Repr

def Style.gap (style : Style) : List Char := if style.compact then [] else [' ']

def digitChar (digit : Nat) : Char := Char.ofNat ('0'.toNat + digit)

/-- The decimal digits of a number, on a fuel that bounds it. -/
def decimalWith : Nat → Nat → List Char
  | 0, _ => []
  | fuel + 1, n => if n < 10 then [digitChar n] else decimalWith fuel (n / 10) ++ [digitChar (n % 10)]

def decimal (n : Nat) : List Char := decimalWith (n + 1) n

def renderInt (n : Int) : List Char :=
  if n < 0 then '-' :: decimal n.natAbs else decimal n.natAbs

def hexChar (digit : Nat) : Char :=
  if digit < 10 then Char.ofNat ('0'.toNat + digit) else Char.ofNat ('a'.toNat + (digit - 10))

def hex4 (n : Nat) : List Char :=
  [hexChar (n / 4096 % 16), hexChar (n / 256 % 16), hexChar (n / 16 % 16), hexChar (n % 16)]

/-- `\uXXXX`, with a surrogate pair above the basic plane. -/
def unicodeEscape (n : Nat) : List Char :=
  if n < 0x10000 then '\\' :: 'u' :: hex4 n
  else
    '\\' :: 'u' :: hex4 (0xD800 + (n - 0x10000) / 0x400) ++
      '\\' :: 'u' :: hex4 (0xDC00 + (n - 0x10000) % 0x400)

def escapeChar (style : Style) (c : Char) : List Char :=
  if c = '"' then ['\\', '"']
  else if c = '\\' then ['\\', '\\']
  else if c = '\n' then ['\\', 'n']
  else if c = '\r' then ['\\', 'r']
  else if c = '\t' then ['\\', 't']
  else if c = '\x0c' then ['\\', 'f']
  else if c = '\x08' then ['\\', 'b']
  else if c.toNat < 0x20 ∨ (style.ensureAscii = true ∧ 0x7e < c.toNat) then unicodeEscape c.toNat
  else [c]

def renderString (style : Style) (text : List Char) : List Char :=
  '"' :: (text.flatMap (escapeChar style) ++ ['"'])

mutual

def render (style : Style) : Json → List Char
  | .null => ['n', 'u', 'l', 'l']
  | .bool true => ['t', 'r', 'u', 'e']
  | .bool false => ['f', 'a', 'l', 's', 'e']
  | .int n => renderInt n
  | .float literal => literal.text
  | .str text => renderString style text.toList
  | .arr items => '[' :: renderItems style items
  | .obj fields => '{' :: renderFields style fields

def renderItems (style : Style) : List Json → List Char
  | [] => [']']
  | item :: rest => render style item ++ renderMoreItems style rest

def renderMoreItems (style : Style) : List Json → List Char
  | [] => [']']
  | item :: rest => ',' :: (style.gap ++ (render style item ++ renderMoreItems style rest))

def renderFields (style : Style) : List (String × Json) → List Char
  | [] => ['}']
  | (key, value) :: rest =>
    renderString style key.toList ++
      ':' :: (style.gap ++ (render style value ++ renderMoreFields style rest))

def renderMoreFields (style : Style) : List (String × Json) → List Char
  | [] => ['}']
  | (key, value) :: rest =>
    ',' :: (style.gap ++ (renderString style key.toList ++
      ':' :: (style.gap ++ (render style value ++ renderMoreFields style rest))))

end

/-- `json.dumps(value)`. -/
def dumps (value : Json) (style : Style := {}) : String := String.ofList (render style value)

mutual

def sortKeys : Json → Json
  | .arr items => .arr (sortKeysItems items)
  | .obj fields => .obj ((sortKeysFields fields).insertionSort fun a b => a.1 ≤ b.1)
  | value => value

def sortKeysItems : List Json → List Json
  | [] => []
  | item :: rest => sortKeys item :: sortKeysItems rest

def sortKeysFields : List (String × Json) → List (String × Json)
  | [] => []
  | (key, value) :: rest => (key, sortKeys value) :: sortKeysFields rest

end

/-! ### Reading -/

def isSpace (c : Char) : Bool := c == ' ' || c == '\t' || c == '\n' || c == '\r'

def skipSpace (text : List Char) : List Char := text.dropWhile isSpace

def hexValue (c : Char) : Option Nat :=
  if '0' ≤ c ∧ c ≤ '9' then some (c.toNat - '0'.toNat)
  else if 'a' ≤ c ∧ c ≤ 'f' then some (c.toNat - 'a'.toNat + 10)
  else if 'A' ≤ c ∧ c ≤ 'F' then some (c.toNat - 'A'.toNat + 10)
  else none

def ofHex4 (a b c d : Char) : Option Nat :=
  match hexValue a, hexValue b, hexValue c, hexValue d with
  | some a, some b, some c, some d => some (4096 * a + 256 * b + 16 * c + d)
  | _, _, _, _ => none

def simpleEscape : Char → Option Char
  | '"' => some '"'
  | '\\' => some '\\'
  | '/' => some '/'
  | 'n' => some '\n'
  | 'r' => some '\r'
  | 't' => some '\t'
  | 'f' => some '\x0c'
  | 'b' => some '\x08'
  | _ => none

def consChar (c : Char) (read : Option (List Char × List Char)) : Option (List Char × List Char) :=
  read.map fun result => (c :: result.1, result.2)

def readString : List Char → Option (List Char × List Char)
  | [] => none
  | '"' :: rest => some ([], rest)
  | '\\' :: 'u' :: a :: b :: c :: d :: rest =>
    match ofHex4 a b c d with
    | none => none
    | some unit =>
      if 0xD800 ≤ unit ∧ unit < 0xDC00 then
        match rest with
        | '\\' :: 'u' :: a' :: b' :: c' :: d' :: rest' =>
          match ofHex4 a' b' c' d' with
          | none => none
          | some low =>
            if 0xDC00 ≤ low ∧ low < 0xE000 then
              consChar (Char.ofNat (0x10000 + (unit - 0xD800) * 0x400 + (low - 0xDC00)))
                (readString rest')
            else none
        | _ => none
      else if 0xDC00 ≤ unit ∧ unit < 0xE000 then none
      else consChar (Char.ofNat unit) (readString rest)
  | '\\' :: mark :: rest =>
    match simpleEscape mark with
    | none => none
    | some c => consChar c (readString rest)
  | c :: rest => if c.toNat < 0x20 ∨ c = '\\' then none else consChar c (readString rest)

def readNumber (text : List Char) : Option Json :=
  if isIntText text then
    some (.int (if text.head? = some '-' then -(ofDigits (unsigned text) : Int)
      else ofDigits (unsigned text)))
  else if valid : isFloatText text = true then some (.float ⟨text, valid⟩)
  else none

mutual

def readValue : Nat → List Char → Option (Json × List Char)
  | 0, _ => none
  | fuel + 1, text =>
    match skipSpace text with
    | 'n' :: 'u' :: 'l' :: 'l' :: rest => some (.null, rest)
    | 't' :: 'r' :: 'u' :: 'e' :: rest => some (.bool true, rest)
    | 'f' :: 'a' :: 'l' :: 's' :: 'e' :: rest => some (.bool false, rest)
    | '"' :: rest => (readString rest).map fun read => (.str (String.ofList read.1), read.2)
    | '[' :: rest =>
      match skipSpace rest with
      | ']' :: rest' => some (.arr [], rest')
      | _ => (readItems fuel rest).map fun read => (.arr read.1, read.2)
    | '{' :: rest =>
      match skipSpace rest with
      | '}' :: rest' => some (.obj [], rest')
      | _ => (readFields fuel rest).map fun read => (.obj read.1, read.2)
    | other =>
      (readNumber (other.takeWhile isNumberChar)).map fun value =>
        (value, other.dropWhile isNumberChar)

/-- The items of an array up to its closing bracket: at least one. -/
def readItems : Nat → List Char → Option (List Json × List Char)
  | 0, _ => none
  | fuel + 1, text =>
    match readValue fuel text with
    | none => none
    | some (item, rest) =>
      match skipSpace rest with
      | ']' :: rest' => some ([item], rest')
      | ',' :: rest' => (readItems fuel rest').map fun read => (item :: read.1, read.2)
      | _ => none

/-- The fields of an object up to its closing brace: at least one. -/
def readFields : Nat → List Char → Option (List (String × Json) × List Char)
  | 0, _ => none
  | fuel + 1, text =>
    match skipSpace text with
    | '"' :: opened =>
      match readString opened with
      | none => none
      | some (key, afterKey) =>
        match skipSpace afterKey with
        | ':' :: afterColon =>
          match readValue fuel afterColon with
          | none => none
          | some (value, rest) =>
            match skipSpace rest with
            | '}' :: rest' => some ([(String.ofList key, value)], rest')
            | ',' :: rest' =>
              (readFields fuel rest').map fun read => ((String.ofList key, value) :: read.1, read.2)
            | _ => none
        | _ => none
    | _ => none

end

/-- `json.loads(text)`. -/
def loads (text : String) : Option Json :=
  match readValue (2 * text.toList.length + 2) text.toList with
  | some (value, rest) => if (skipSpace rest).isEmpty then some value else none
  | none => none

end Json
