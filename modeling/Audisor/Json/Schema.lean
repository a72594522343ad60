/-
**JSON schemas, as what they accept and what pruning leaves.**

* `Schema` — a schema: the values that it accepts, and the removal of the keys that it does not know.
* `Schema.text`, `Schema.oneOf`, `Schema.flag`, `Schema.list`, `Schema.record` — the keywords `type`,
  `minLength`, `enum`, `items`, `minItems`, `required`, `properties`, with no additional properties.
* `accepts_record_iff` — an accepted object has the required keys and no others than the known ones.
-/

import Audisor.Json.Order

namespace Json

/-- A schema. -/
structure Schema where
  accepts : Json → Bool
  /-- The value without unknown keys, and what was removed: its paths and values. -/
  prune : String → Json → Json × List (String × Json)

namespace Schema

def leaf (accepts : Json → Bool) : Schema := ⟨accepts, fun _ value => (value, [])⟩

def text (minLength : Nat) : Schema := leaf fun
  | .str text => minLength ≤ text.length
  | _ => false

def oneOf (texts : List String) : Schema := leaf fun
  | .str text => texts.contains text
  | _ => false

def flag : Schema := leaf fun
  | .bool _ => true
  | _ => false

def list (minItems : Nat) (items : Schema) : Schema where
  accepts
    | .arr values => minItems ≤ values.length && values.all items.accepts
    | _ => false
  prune path
    | .arr values =>
      let pruned := values.zipIdx.map fun (value, index) =>
        items.prune (path ++ "[" ++ toString index ++ "]") value
      (.arr (pruned.map Prod.fst), (pruned.map Prod.snd).flatten)
    | value => (value, [])

def record (required : List String) (properties : List (String × Schema)) : Schema where
  accepts
    | .obj fields =>
      required.all (hasKey fields) && fields.all (fun field => properties.any (·.1 == field.1)) &&
        properties.all fun property =>
          match get? fields property.1 with
          | some value => property.2.accepts value
          | none => true
    | _ => false
  prune path
    | .obj fields =>
      let pruned := (entries fields).map fun (key, value) =>
        match properties.find? (·.1 == key) with
        | some property =>
          let (kept, removed) := property.2.prune (path ++ "." ++ key) value
          ([(key, kept)], removed)
        | none => ([], [(path ++ "." ++ key, value)])
      (.obj (pruned.map Prod.fst).flatten, (pruned.map Prod.snd).flatten)
    | value => (value, [])

/-! ### What is accepted -/

/-- **An accepted object** has the required keys, known keys alone, and an accepted value for each. -/
theorem accepts_record_iff {required : List String} {properties : List (String × Schema)}
    {value : Json} : (record required properties).accepts value = true ↔
      ∃ fields, value = .obj fields ∧ (∀ key ∈ required, hasKey fields key = true) ∧
        (∀ field ∈ fields, ∃ property ∈ properties, property.1 = field.1) ∧
        ∀ property ∈ properties, ∀ found, get? fields property.1 = some found →
          property.2.accepts found = true := by
  cases value with
  | obj fields =>
    simp only [record, Bool.and_eq_true, List.all_eq_true, List.any_eq_true, beq_iff_eq,
      obj.injEq, exists_eq_left', and_assoc]
    refine and_congr_right fun _ => and_congr_right fun _ => forall₂_congr fun property _ => ?_
    cases get? fields property.1 with
    | none => simp
    | some found => simp
  | _ => simp [record]

theorem get?_eq_none_of_accepts {required : List String} {properties : List (String × Schema)}
    {fields : Dict} (accepted : (record required properties).accepts (.obj fields) = true)
    {key : String} (unknown : ∀ property ∈ properties, property.1 ≠ key) : get? fields key = none := by
  obtain ⟨_, same, -, known, -⟩ := accepts_record_iff.mp accepted
  cases same
  refine get?_eq_none_iff.mpr fun field among own => ?_
  obtain ⟨property, member, name⟩ := known field among
  exact unknown property member (name.trans own)

end Schema

end Json
