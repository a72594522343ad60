/-
**Sorted keys are a canonical form.**

* `distinctKeys` — no object of a value states a key twice, as no Python `dict` does.
* `Alike` — two values that differ in the order of their keys only.
* `get?_iff_mem`, `perm_of_get?` — an object whose keys are distinct is what a lookup answers.
* **`sortKeys_eq_iff`** — two values have one sorted form exactly when they are alike.
-/

import Audisor.Json.Text
import Mathlib.Data.String.Basic

namespace Json

/-! ### Values with distinct keys -/

mutual

def distinctKeys : Json → Bool
  | .arr items => distinctKeysItems items
  | .obj fields => decide (fields.map Prod.fst).Nodup && distinctKeysFields fields
  | _ => true

def distinctKeysItems : List Json → Bool
  | [] => true
  | item :: rest => distinctKeys item && distinctKeysItems rest

def distinctKeysFields : List (String × Json) → Bool
  | [] => true
  | (_, value) :: rest => distinctKeys value && distinctKeysFields rest

end

theorem distinctKeysItems_iff {items : List Json} :
    distinctKeysItems items = true ↔ ∀ item ∈ items, distinctKeys item = true := by
  induction items with
  | nil => simp [distinctKeysItems]
  | cons item rest ih => simp [distinctKeysItems, ih]

theorem distinctKeysFields_iff {fields : Dict} :
    distinctKeysFields fields = true ↔ ∀ field ∈ fields, distinctKeys field.2 = true := by
  induction fields with
  | nil => simp [distinctKeysFields]
  | cons field rest ih => simp [distinctKeysFields, ih]

theorem distinctKeys_arr {items : List Json} :
    distinctKeys (.arr items) = true ↔ ∀ item ∈ items, distinctKeys item = true := by
  rw [distinctKeys, distinctKeysItems_iff]

theorem distinctKeys_obj {fields : Dict} :
    distinctKeys (.obj fields) = true ↔
      (fields.map Prod.fst).Nodup ∧ ∀ field ∈ fields, distinctKeys field.2 = true := by
  rw [distinctKeys, Bool.and_eq_true, decide_eq_true_eq, distinctKeysFields_iff]

/-! ### Values that differ in the order of keys -/

/-- **Equal up to the order of keys**: the same keys, with alike values under each. -/
inductive Alike : Json → Json → Prop
  | null : Alike .null .null
  | bool (value : Bool) : Alike (.bool value) (.bool value)
  | int (value : Int) : Alike (.int value) (.int value)
  | float (literal : FloatLit) : Alike (.float literal) (.float literal)
  | str (value : String) : Alike (.str value) (.str value)
  | arr {items others : List Json} (length : items.length = others.length)
    (each : ∀ (index : Nat) (item other : Json), items[index]? = some item →
      others[index]? = some other → Alike item other) : Alike (.arr items) (.arr others)
  | obj {fields others : Dict} (keys : ∀ key, hasKey fields key = hasKey others key)
    (each : ∀ key value other, get? fields key = some value → get? others key = some other →
      Alike value other) : Alike (.obj fields) (.obj others)

/-! ### Lookups in sorted fields -/

theorem mem_of_get? {fields : Dict} {key : String} {value : Json}
    (found : get? fields key = some value) : (key, value) ∈ fields := by
  induction fields with
  | nil => cases found
  | cons field rest ih =>
    obtain ⟨own, stated⟩ := field
    rw [get?_cons] at found
    cases later : get? rest key with
    | some other =>
      rw [later, Option.some_or] at found
      exact List.mem_cons_of_mem _ (ih (later.trans found))
    | none =>
      rw [later, Option.none_or] at found
      split at found
      · rename_i same
        cases found
        rw [same]
        exact List.mem_cons_self
      · cases found

/-- **An object with distinct keys is what its lookups answer.** -/
theorem get?_iff_mem {fields : Dict} (distinct : (fields.map Prod.fst).Nodup) {key : String}
    {value : Json} : get? fields key = some value ↔ (key, value) ∈ fields := by
  refine ⟨mem_of_get?, fun member => ?_⟩
  cases found : get? fields key with
  | none => exact absurd rfl (get?_eq_none_iff.mp found _ member)
  | some other =>
    have same := List.inj_on_of_nodup_map distinct (mem_of_get? found) member rfl
    cases same
    rfl

theorem perm_of_get? {fields others : Dict} (distinct : (fields.map Prod.fst).Nodup)
    (distinct' : (others.map Prod.fst).Nodup) (same : ∀ key, get? fields key = get? others key) :
    fields.Perm others := by
  rw [List.perm_ext_iff_of_nodup (List.Nodup.of_map _ distinct) (List.Nodup.of_map _ distinct')]
  rintro ⟨key, value⟩
  rw [← get?_iff_mem distinct, ← get?_iff_mem distinct', same]

theorem get?_of_perm {fields others : Dict} (distinct : (fields.map Prod.fst).Nodup)
    (perm : fields.Perm others) (key : String) : get? fields key = get? others key := by
  have distinct' : (others.map Prod.fst).Nodup := (perm.map Prod.fst).nodup_iff.mp distinct
  apply Option.ext
  intro value
  rw [get?_iff_mem distinct, get?_iff_mem distinct', perm.mem_iff]

theorem sortKeysItems_eq (items : List Json) : sortKeysItems items = items.map sortKeys := by
  induction items with
  | nil => rfl
  | cons item rest ih => rw [sortKeysItems, ih, List.map_cons]

theorem sortKeysFields_eq (fields : Dict) :
    sortKeysFields fields = fields.map fun field => (field.1, sortKeys field.2) := by
  induction fields with
  | nil => rfl
  | cons field rest ih => rw [sortKeysFields, ih, List.map_cons]

theorem sortKeysFields_keys (fields : Dict) :
    (sortKeysFields fields).map Prod.fst = fields.map Prod.fst := by
  rw [sortKeysFields_eq, List.map_map]
  rfl

theorem get?_sortKeysFields (fields : Dict) (key : String) :
    get? (sortKeysFields fields) key = (get? fields key).map sortKeys := by
  induction fields with
  | nil => rfl
  | cons field rest ih =>
    obtain ⟨own, value⟩ := field
    rw [sortKeysFields, get?_cons, ih, get?_cons]
    cases get? rest key with
    | some other => rfl
    | none =>
      rw [Option.map_none, Option.none_or, Option.none_or]
      split <;> rfl

def sortFields (fields : Dict) : Dict := fields.insertionSort fun a b => a.1 ≤ b.1

theorem sortFields_eq_iff {fields others : Dict} (distinct : (fields.map Prod.fst).Nodup) :
    sortFields fields = sortFields others ↔ fields.Perm others := by
  constructor
  · intro same
    have front := (List.perm_insertionSort (fun a b : String × Json => a.1 ≤ b.1) fields).symm
    have back := List.perm_insertionSort (fun a b : String × Json => a.1 ≤ b.1) others
    rw [sortFields, sortFields] at same
    rw [same] at front
    exact front.trans back
  · intro perm
    have total : Std.Total fun a b : String × Json => a.1 ≤ b.1 := ⟨fun a b => le_total a.1 b.1⟩
    have trans : IsTrans (String × Json) fun a b => a.1 ≤ b.1 := ⟨fun a b c => le_trans⟩
    have sorted (other : Dict) : (sortFields other).Pairwise fun a b => a.1 ≤ b.1 :=
      List.pairwise_insertionSort _ other
    have shuffled : (sortFields fields).Perm (sortFields others) :=
      ((List.perm_insertionSort _ fields).trans perm).trans (List.perm_insertionSort _ others).symm
    refine shuffled.eq_of_pairwise ?_ (sorted fields) (sorted others)
    -- two fields of one key are one field
    intro first second member member' forth back
    have listed : first ∈ fields := (List.mem_insertionSort _).mp member
    have listed' : second ∈ fields := perm.mem_iff.mpr ((List.mem_insertionSort _).mp member')
    exact List.inj_on_of_nodup_map distinct listed listed' (le_antisymm forth back)

theorem get?_sortFields {fields : Dict} (distinct : (fields.map Prod.fst).Nodup) (key : String) :
    get? (sortFields fields) key = get? fields key :=
  (get?_of_perm distinct (List.perm_insertionSort _ _).symm key).symm

/-! ### The sorted form -/

theorem sortKeys_obj (fields : Dict) :
    sortKeys (.obj fields) = .obj (sortFields (sortKeysFields fields)) := rfl

/-- **Alike values have one sorted form.** -/
theorem Alike.sortKeys_eq {first second : Json} (alike : Alike first second) :
    distinctKeys first = true → distinctKeys second = true → sortKeys first = sortKeys second := by
  induction alike with
  | null | bool | int | float | str => exact fun _ _ => rfl
  | arr length each ih =>
    rename_i items others
    intro distinct distinct'
    rw [distinctKeys_arr] at distinct distinct'
    rw [sortKeys, sortKeys, sortKeysItems_eq, sortKeysItems_eq, Json.arr.injEq]
    apply List.ext_getElem?
    intro index
    rw [List.getElem?_map, List.getElem?_map]
    cases first : items[index]? with
    | none =>
      have past : others[index]? = none := by
        rw [List.getElem?_eq_none_iff] at first ⊢
        omega
      rw [past]
    | some item =>
      have inside : index < others.length := length ▸ (List.getElem?_eq_some_iff.mp first).1
      have second : others[index]? = some others[index] := List.getElem?_eq_getElem inside
      rw [second, Option.map_some, Option.map_some]
      rw [ih index item _ first second (distinct _ (List.mem_of_getElem? first))
        (distinct' _ (List.mem_of_getElem? second))]
  | obj keys each ih =>
    rename_i fields others
    intro distinct distinct'
    rw [distinctKeys_obj] at distinct distinct'
    have apart : ((sortKeysFields fields).map Prod.fst).Nodup := by
      rw [sortKeysFields_keys]
      exact distinct.1
    have apart' : ((sortKeysFields others).map Prod.fst).Nodup := by
      rw [sortKeysFields_keys]
      exact distinct'.1
    rw [sortKeys_obj, sortKeys_obj, Json.obj.injEq, sortFields_eq_iff apart]
    apply perm_of_get? apart apart'
    intro key
    rw [get?_sortKeysFields, get?_sortKeysFields]
    have both := keys key
    rw [hasKey, hasKey] at both
    cases found : get? fields key with
    | none =>
      rw [found, Option.isSome_none, eq_comm, Option.isSome_eq_false_iff,
        Option.isNone_iff_eq_none] at both
      rw [both]
    | some value =>
      rw [found, Option.isSome_some, eq_comm, Option.isSome_iff_exists] at both
      obtain ⟨other, found'⟩ := both
      rw [found', Option.map_some, Option.map_some]
      rw [ih key value other found found' (distinct.2 _ (mem_of_get? found))
        (distinct'.2 _ (mem_of_get? found'))]

theorem sizeOf_item_lt {items : List Json} {index : Nat} {item : Json}
    (found : items[index]? = some item) : sizeOf item < sizeOf (Json.arr items) := by
  have smaller := List.sizeOf_lt_of_mem (List.mem_of_getElem? found)
  rw [Json.arr.sizeOf_spec]
  omega

theorem sizeOf_value_lt {fields : Dict} {key : String} {value : Json}
    (found : get? fields key = some value) : sizeOf value < sizeOf (Json.obj fields) := by
  have smaller := List.sizeOf_lt_of_mem (mem_of_get? found)
  rw [Prod.mk.sizeOf_spec] at smaller
  rw [Json.obj.sizeOf_spec]
  omega

/-- **Values with one sorted form are alike.** -/
theorem alike_of_sortKeys : ∀ first second : Json, distinctKeys first = true →
    sortKeys first = sortKeys second → Alike first second
  | .null, second, _, same => by cases second <;> first | exact .null | cases same
  | .bool value, second, _, same => by cases second <;> cases same; exact .bool value
  | .int value, second, _, same => by cases second <;> cases same; exact .int value
  | .float value, second, _, same => by cases second <;> cases same; exact .float value
  | .str value, second, _, same => by cases second <;> cases same; exact .str value
  | .arr items, second, distinct, same => by
    cases second with
    | arr others =>
      rw [sortKeys, sortKeys, sortKeysItems_eq, sortKeysItems_eq, Json.arr.injEq] at same
      have length : items.length = others.length := by
        have mapped := congrArg List.length same
        rwa [List.length_map, List.length_map] at mapped
      refine .arr length fun index item other found found' => ?_
      have entry : (items.map sortKeys)[index]? = (others.map sortKeys)[index]? := by rw [same]
      rw [List.getElem?_map, List.getElem?_map, found, found', Option.map_some, Option.map_some,
        Option.some.injEq] at entry
      exact alike_of_sortKeys item other
        (distinctKeys_arr.mp distinct _ (List.mem_of_getElem? found)) entry
    | null | bool _ | int _ | float _ | str _ | obj _ => cases same
  | .obj fields, second, distinct, same => by
    cases second with
    | obj others =>
      have own := distinctKeys_obj.mp distinct
      have apart : ((sortKeysFields fields).map Prod.fst).Nodup := by
        rw [sortKeysFields_keys]
        exact own.1
      rw [sortKeys_obj, sortKeys_obj, Json.obj.injEq, sortFields_eq_iff apart] at same
      have lookups (key : String) := get?_of_perm apart same key
      simp only [get?_sortKeysFields] at lookups
      refine .obj (fun key => ?_) fun key value other found found' => ?_
      · have shown := congrArg Option.isSome (lookups key)
        rwa [Option.isSome_map, Option.isSome_map] at shown
      · have entry := lookups key
        rw [found, found', Option.map_some, Option.map_some, Option.some.injEq] at entry
        exact alike_of_sortKeys value other (own.2 _ (mem_of_get? found)) entry
    | null | bool _ | int _ | float _ | str _ | arr _ => cases same
termination_by first => sizeOf first
decreasing_by
  · exact sizeOf_item_lt ‹_›
  · exact sizeOf_value_lt ‹_›

/-- **The sorted form is canonical**: two values have it in common exactly when they are alike. -/
theorem sortKeys_eq_iff {first second : Json} (distinct : distinctKeys first = true)
    (distinct' : distinctKeys second = true) :
    sortKeys first = sortKeys second ↔ Alike first second :=
  ⟨alike_of_sortKeys first second distinct, fun alike => alike.sortKeys_eq distinct distinct'⟩

end Json
