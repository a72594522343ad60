/-
**Values as trees.**

* `tree_induction` — what holds of an array or an object when it holds of its parts, holds of all values.
* `depth` — how many arrays and objects lie around the innermost part of a value.
  `lt_depth_arr`, `lt_depth_obj` — a deep array or object has a deep part.
* **`depth_sortKeys`** — the sorted form is as deep as the value.
-/

import Audisor.Json.Canonical

namespace Json

/-! ### Induction -/

/-- **Induction on the parts of a value.** -/
@[elab_as_elim]
theorem tree_induction {motive : Json → Prop} (null : motive .null)
    (bool : ∀ value, motive (.bool value)) (int : ∀ value, motive (.int value))
    (float : ∀ literal, motive (.float literal)) (str : ∀ value, motive (.str value))
    (arr : ∀ items, (∀ item ∈ items, motive item) → motive (.arr items))
    (obj : ∀ fields : Dict, (∀ field ∈ fields, motive field.2) → motive (.obj fields)) :
    ∀ value, motive value := by
  intro value
  induction size : sizeOf value using Nat.strong_induction_on generalizing value with
  | _ n smaller =>
    subst size
    cases value with
    | null => exact null
    | bool value => exact bool value
    | int value => exact int value
    | float literal => exact float literal
    | str value => exact str value
    | arr items =>
      refine arr items fun item member => smaller (sizeOf item) ?_ item rfl
      have inner := List.sizeOf_lt_of_mem member
      rw [Json.arr.sizeOf_spec]
      omega
    | obj fields =>
      refine obj fields fun field member => smaller (sizeOf field.2) ?_ field.2 rfl
      have inner := List.sizeOf_lt_of_mem member
      have whole : sizeOf field = 1 + sizeOf field.1 + sizeOf field.2 := by
        cases field
        rfl
      rw [Json.obj.sizeOf_spec]
      omega

/-! ### Depth -/

mutual

def depth : Json → Nat
  | .arr items => depthItems items
  | .obj fields => depthFields fields
  | _ => 0

def depthItems : List Json → Nat
  | [] => 0
  | item :: rest => max (depth item + 1) (depthItems rest)

def depthFields : Dict → Nat
  | [] => 0
  | (_, value) :: rest => max (depth value + 1) (depthFields rest)

end

theorem lt_depthItems {items : List Json} {bound : Nat} :
    bound < depthItems items ↔ ∃ item ∈ items, bound ≤ depth item := by
  induction items with
  | nil => simp [depthItems]
  | cons item rest ih =>
    rw [depthItems, lt_max_iff, ih, List.exists_mem_cons_iff, Nat.lt_add_one_iff]

theorem lt_depthFields {fields : Dict} {bound : Nat} :
    bound < depthFields fields ↔ ∃ field ∈ fields, bound ≤ depth field.2 := by
  induction fields with
  | nil => simp [depthFields]
  | cons field rest ih =>
    rw [depthFields, lt_max_iff, ih, List.exists_mem_cons_iff, Nat.lt_add_one_iff]

theorem lt_depth_arr {items : List Json} {bound : Nat} :
    bound < depth (.arr items) ↔ ∃ item ∈ items, bound ≤ depth item := by
  rw [depth, lt_depthItems]

theorem lt_depth_obj {fields : Dict} {bound : Nat} :
    bound < depth (.obj fields) ↔ ∃ field ∈ fields, bound ≤ depth field.2 := by
  rw [depth, lt_depthFields]

theorem depth_item_lt {items : List Json} {item : Json} (member : item ∈ items) :
    depth item < depth (.arr items) :=
  lt_depth_arr.mpr ⟨item, member, le_rfl⟩

theorem depth_value_lt {fields : Dict} {field : String × Json} (member : field ∈ fields) :
    depth field.2 < depth (.obj fields) :=
  lt_depth_obj.mpr ⟨field, member, le_rfl⟩

theorem depth_eq {first second : Json}
    (same : ∀ bound, bound < depth first ↔ bound < depth second) : depth first = depth second := by
  have forth := (same (depth second)).not
  have back := (same (depth first)).not
  omega

/-- **The sorted form is as deep as the value.** -/
theorem depth_sortKeys (value : Json) : depth (sortKeys value) = depth value := by
  induction value using tree_induction with
  | null | bool | int | float | str => rfl
  | arr items ih =>
    refine depth_eq fun bound => ?_
    rw [sortKeys, sortKeysItems_eq, lt_depth_arr, lt_depth_arr]
    simp only [List.mem_map, exists_exists_and_eq_and]
    exact exists_congr fun item => and_congr_right fun member => by rw [ih item member]
  | obj fields ih =>
    refine depth_eq fun bound => ?_
    have sorted : (sortFields (sortKeysFields fields)).Perm (sortKeysFields fields) :=
      List.perm_insertionSort _ _
    rw [sortKeys_obj, lt_depth_obj, lt_depth_obj]
    simp only [sorted.mem_iff]
    simp only [sortKeysFields_eq, List.mem_map, exists_exists_and_eq_and]
    exact exists_congr fun field => and_congr_right fun member => by rw [ih field member]

end Json
