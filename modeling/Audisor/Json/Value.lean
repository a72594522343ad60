/-
**JSON values as Python handles them.**

* `Json` — a value of `json.loads`: an object is the log of its key assignments, and a lookup reads
  the last one (`Json.get?`), so that the order of the keys is kept as Python keeps it.
* `Json.truthy`, `Json.eq` — Python's truth test and its `==` on these values.
* `Dict` — a Python `dict` with string keys: `get`, `set`, membership.
* A number with a fraction or an exponent is its literal (`FloatLit`); integers are unbounded.
-/

import Mathlib.Algebra.Group.Int.Defs
import Mathlib.Data.List.Sort

/-! ### Numbers with a fraction or an exponent -/

namespace Json

/-- The optional `.digits` of a literal: the digits, and what follows. -/
def takeFraction : List Char → Option (List Char × List Char)
  | '.' :: rest =>
    if (rest.takeWhile Char.isDigit).isEmpty then none
    else some (rest.takeWhile Char.isDigit, rest.dropWhile Char.isDigit)
  | rest => some ([], rest)

/-- The optional exponent of a literal: its sign (`true` for a minus) and its digits. -/
def takeExponent : List Char → Option (Bool × List Char × List Char)
  | mark :: rest =>
    if mark = 'e' ∨ mark = 'E' then
      let negative := rest.head? = some '-'
      let digits := if rest.head? = some '-' ∨ rest.head? = some '+' then rest.tail else rest
      if (digits.takeWhile Char.isDigit).isEmpty then none
      else some (negative, digits.takeWhile Char.isDigit, digits.dropWhile Char.isDigit)
    else some (false, [], mark :: rest)
  | [] => some (false, [], [])

/-- The integer part of a literal: one zero, or digits without a leading zero. -/
def isWholePart (digits : List Char) : Bool :=
  !digits.isEmpty && (digits.head? != some '0' || digits.length == 1)

def unsigned (text : List Char) : List Char :=
  if text.head? = some '-' then text.tail else text

/-- The parts of a literal: its digits before and after the point, and its exponent. -/
def literalParts (text : List Char) : Option (List Char × List Char × Bool × List Char) :=
  let whole := (unsigned text).takeWhile Char.isDigit
  if isWholePart whole then
    match takeFraction ((unsigned text).dropWhile Char.isDigit) with
    | none => none
    | some (fraction, rest) =>
      match takeExponent rest with
      | some (negative, exponent, []) => some (whole, fraction, negative, exponent)
      | _ => none
  else none

/-- The literals `json` reads as an `int`. -/
def isIntText (text : List Char) : Bool :=
  isWholePart (unsigned text) && (unsigned text).all Char.isDigit

def isNumberChar (c : Char) : Bool :=
  c.isDigit || c == '-' || c == '+' || c == '.' || c == 'e' || c == 'E'

/-- The literals `json` reads as a `float`. -/
def isFloatText (text : List Char) : Bool :=
  text.all isNumberChar && (literalParts text).isSome && !isIntText text

/-- A float, as the literal that denotes it. -/
structure FloatLit where
  text : List Char
  valid : isFloatText text = true
  deriving DecidableEq, Repr

def ofDigits (digits : List Char) : Nat :=
  digits.foldl (fun total digit => 10 * total + (digit.toNat - '0'.toNat)) 0

/-- The value of a float literal as `mantissa · 10 ^ exponent`. -/
def FloatLit.scaled (literal : FloatLit) : Int × Int :=
  match literalParts literal.text with
  | none => (0, 0)
  | some (whole, fraction, negative, exponent) =>
    let mantissa : Int := ofDigits (whole ++ fraction)
    let shift : Int := ofDigits exponent
    (if literal.text.head? = some '-' then -mantissa else mantissa,
      (if negative then -shift else shift) - fraction.length)

end Json

/-! ### Values -/

/-- A JSON value. -/
inductive Json where
  | null
  | bool (value : Bool)
  | int (value : Int)
  | float (literal : Json.FloatLit)
  | str (value : String)
  | arr (items : List Json)
  | obj (fields : List (String × Json))
  deriving Repr

/-- A Python `dict` with string keys, as the log of its assignments. -/
abbrev Dict := List (String × Json)

namespace Json

instance : Inhabited Json := ⟨.null⟩

mutual

/-- Structural equality, which decides `=`. -/
def same : Json → Json → Bool
  | .null, .null => true
  | .bool a, .bool b => a == b
  | .int a, .int b => a == b
  | .float a, .float b => a == b
  | .str a, .str b => a == b
  | .arr as, .arr bs => sameItems as bs
  | .obj as, .obj bs => sameFields as bs
  | _, _ => false

def sameItems : List Json → List Json → Bool
  | [], [] => true
  | a :: as, b :: bs => same a b && sameItems as bs
  | _, _ => false

def sameFields : List (String × Json) → List (String × Json) → Bool
  | [], [] => true
  | (k, a) :: as, (l, b) :: bs => k == l && same a b && sameFields as bs
  | _, _ => false

end

mutual

theorem same_iff : ∀ a b : Json, same a b = true ↔ a = b
  | .null, b => by cases b <;> simp [same]
  | .bool a, b => by cases b <;> simp [same]
  | .int a, b => by cases b <;> simp [same]
  | .float a, b => by cases b <;> simp [same]
  | .str a, b => by cases b <;> simp [same]
  | .arr as, b => by cases b <;> simp [same, sameItems_iff as]
  | .obj as, b => by cases b <;> simp [same, sameFields_iff as]

theorem sameItems_iff : ∀ as bs : List Json, sameItems as bs = true ↔ as = bs
  | [], bs => by cases bs <;> simp [sameItems]
  | a :: as, bs => by cases bs <;> simp [sameItems, same_iff a, sameItems_iff as]

theorem sameFields_iff : ∀ as bs : List (String × Json), sameFields as bs = true ↔ as = bs
  | [], bs => by cases bs <;> simp [sameFields]
  | (k, a) :: as, bs => by
    rcases bs with _ | ⟨⟨l, b⟩, bs⟩ <;>
      simp [sameFields, same_iff a, sameFields_iff as, and_assoc]

end

instance : DecidableEq Json := fun a b => decidable_of_iff _ (same_iff a b)

/-! ### Objects -/

/-- `fields.get(key)`: the last assignment to the key. -/
def get? : Dict → String → Option Json
  | [], _ => none
  | (key, value) :: rest, wanted => (get? rest wanted).or (if key = wanted then some value else none)

/-- `fields.get(key, default)`. -/
def getD (fields : Dict) (key : String) (fallback : Json) : Json := (get? fields key).getD fallback

/-- `key in fields`. -/
def hasKey (fields : Dict) (key : String) : Bool := (get? fields key).isSome

/-- `fields[key] = value`: in place when the key is there, else at the end. -/
def set (fields : Dict) (key : String) (value : Json) : Dict :=
  if hasKey fields key then
    fields.map fun field => if field.1 = key then (key, value) else field
  else fields ++ [(key, value)]

/-! ### Python's truth test and equality -/

/-- The number a value is, as `mantissa · 10 ^ exponent` (`bool` is a kind of `int`). -/
def number? : Json → Option (Int × Int)
  | .bool value => some (if value then 1 else 0, 0)
  | .int value => some (value, 0)
  | .float literal => some literal.scaled
  | _ => none

/-- Equality of two scaled numbers, over their smaller exponent. -/
def sameNumber (a b : Int × Int) : Bool :=
  a.1 * 10 ^ (a.2 - min a.2 b.2).toNat == b.1 * 10 ^ (b.2 - min a.2 b.2).toNat

def eqNumber (a b : Json) : Bool :=
  match a.number?, b.number? with
  | some x, some y => sameNumber x y
  | _, _ => false

/-- `bool(value)`. -/
def truthy : Json → Bool
  | .null => false
  | .bool value => value
  | .int value => value != 0
  | .float literal => literal.scaled.1 != 0
  | .str value => value != ""
  | .arr items => !items.isEmpty
  | .obj fields => !fields.isEmpty

mutual

/-- `a == b` in Python: numbers by value (so `True == 1`), objects up to the order of their keys. -/
def eq : Json → Json → Bool
  | .null, .null => true
  | .str a, .str b => a == b
  | .arr as, .arr bs => eqItems as bs
  | .obj as, .obj bs => eqFields as bs && bs.all fun field => hasKey as field.1
  | .bool a, b => eqNumber (.bool a) b
  | .int a, b => eqNumber (.int a) b
  | .float a, b => eqNumber (.float a) b
  | _, _ => false

def eqItems : List Json → List Json → Bool
  | [], [] => true
  | a :: as, b :: bs => eq a b && eqItems as bs
  | _, _ => false

-- an assignment that a later one overwrites does not count
def eqFields : List (String × Json) → Dict → Bool
  | [], _ => true
  | (key, a) :: rest, other =>
    (hasKey rest key ||
      match get? other key with
      | some b => eq a b
      | none => false) && eqFields rest other

end

instance : BEq Json := ⟨eq⟩

/-! ### Lookup rules -/

@[simp] theorem get?_nil (key : String) : get? [] key = none := rfl

@[simp] theorem get?_cons (key wanted : String) (value : Json) (rest : Dict) :
    get? ((key, value) :: rest) wanted =
      (get? rest wanted).or (if key = wanted then some value else none) := rfl

theorem get?_append (first second : Dict) (key : String) :
    get? (first ++ second) key = (get? second key).or (get? first key) := by
  induction first with
  | nil => simp
  | cons field rest ih =>
    obtain ⟨k, v⟩ := field
    rw [List.cons_append, get?_cons, ih, get?_cons, Option.or_assoc]

theorem get?_eq_none_iff {fields : Dict} {key : String} :
    get? fields key = none ↔ ∀ field ∈ fields, field.1 ≠ key := by
  induction fields with
  | nil => simp
  | cons field rest ih =>
    obtain ⟨k, v⟩ := field
    simp [get?_cons, ih, and_comm]

theorem get?_update (fields : Dict) (key wanted : String) (value : Json) :
    get? (fields.map fun field => if field.1 = key then (key, value) else field) wanted =
      if wanted = key then (get? fields key).map fun _ => value else get? fields wanted := by
  induction fields with
  | nil => simp
  | cons field rest ih =>
    obtain ⟨k, v⟩ := field
    rw [List.map_cons]
    by_cases own : k = key
    · subst own
      rw [if_pos rfl, get?_cons, ih, get?_cons, get?_cons]
      by_cases asked : wanted = k
      · subst asked
        cases get? rest wanted <;> simp
      · simp [asked, Ne.symm asked]
    · rw [if_neg own, get?_cons, ih, get?_cons, get?_cons]
      by_cases asked : wanted = key
      · subst asked
        simp [own]
      · simp [asked]

/-- **Reading what was just set.** -/
@[simp] theorem get?_set_self (fields : Dict) (key : String) (value : Json) :
    get? (set fields key value) key = some value := by
  unfold set
  split
  · rename_i present
    rw [get?_update, if_pos rfl]
    obtain ⟨old, found⟩ := Option.isSome_iff_exists.mp present
    rw [found, Option.map_some]
  · rw [get?_append]
    simp

/-- **Setting one key leaves every other alone.** -/
theorem get?_set_of_ne (fields : Dict) {key wanted : String} (value : Json) (other : wanted ≠ key) :
    get? (set fields key value) wanted = get? fields wanted := by
  unfold set
  split
  · rw [get?_update, if_neg other]
  · rw [get?_append]
    simp [Ne.symm other]

/-! ### Equality -/

theorem get?_of_suffix {suffix fields : Dict} (part : suffix <:+ fields) {key : String}
    {value : Json} (found : get? suffix key = some value) : get? fields key = some value := by
  obtain ⟨before, rfl⟩ := part
  rw [get?_append, found, Option.some_or]

@[simp] theorem sameNumber_self (a : Int × Int) : sameNumber a a = true := by
  simp [sameNumber]

mutual

theorem eq_self : ∀ a : Json, eq a a = true
  | .null => rfl
  | .bool a => by simp [eq, eqNumber, number?]
  | .int a => by simp [eq, eqNumber, number?]
  | .float a => by simp [eq, eqNumber, number?]
  | .str a => by simp [eq]
  | .arr items => by rw [eq, eqItems_self items]
  | .obj fields => by
    rw [eq, eqFields_suffix fields fields (List.suffix_refl fields), Bool.true_and, List.all_eq_true]
    intro field member
    by_contra absent
    rw [hasKey, Bool.not_eq_true, Option.isSome_eq_false_iff, Option.isNone_iff_eq_none] at absent
    exact get?_eq_none_iff.mp absent field member rfl

theorem eqItems_self : ∀ items : List Json, eqItems items items = true
  | [] => rfl
  | item :: rest => by rw [eqItems, eq_self item, eqItems_self rest, Bool.and_self]

theorem eqFields_suffix : ∀ (suffix fields : Dict), suffix <:+ fields → eqFields suffix fields = true
  | [], _, _ => rfl
  | (key, value) :: rest, fields, part => by
    rw [eqFields, eqFields_suffix rest fields ((List.suffix_cons _ _).trans part), Bool.and_true]
    cases overwritten : hasKey rest key with
    | true => rfl
    | false =>
      have last : get? ((key, value) :: rest) key = some value := by
        rw [hasKey, Option.isSome_eq_false_iff, Option.isNone_iff_eq_none] at overwritten
        rw [get?_cons, overwritten, if_pos rfl, Option.none_or]
      rw [get?_of_suffix part last, Bool.false_or]
      exact eq_self value

end

instance : ReflBEq Json := ⟨eq_self _⟩

end Json
