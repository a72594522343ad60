/-
**Dicts as Python walks them, the order of values, and texts written for a reader.**

* `entries` — `fields.items()`: one entry for each key, where the key was first assigned.
* `settled` — the value with every object as its entries.
* `less` — `a < b` on JSON values: `none` where Python raises the `TypeError`.
* `sortedOn` — `sorted(items, key=..)`.
* `dumpsIndented` — `json.dumps(value, ensure_ascii=False, sort_keys=True, indent=2)`.
-/

import Audisor.Json.Canonical

namespace Json

/-! ### Entries -/

/-- `fields.items()`. -/
def entries (fields : Dict) : Dict := fields.foldl (fun dict field => set dict field.1 field.2) []

mutual

def settled : Json → Json
  | .arr items => .arr (settledItems items)
  | .obj fields => .obj (entries (settledFields fields))
  | value => value

def settledItems : List Json → List Json
  | [] => []
  | item :: rest => settled item :: settledItems rest

def settledFields : Dict → Dict
  | [] => []
  | (key, value) :: rest => (key, settled value) :: settledFields rest

end

theorem get?_foldl_set (fields dict : Dict) (key : String) :
    get? (fields.foldl (fun dict field => set dict field.1 field.2) dict) key =
      (get? fields key).or (get? dict key) := by
  induction fields generalizing dict with
  | nil => rw [List.foldl_nil, get?_nil, Option.none_or]
  | cons field rest ih =>
    obtain ⟨own, value⟩ := field
    rw [List.foldl_cons, ih, get?_cons, Option.or_assoc]
    congr 1
    by_cases same : own = key
    · rw [same, get?_set_self, if_pos rfl, Option.some_or]
    · rw [get?_set_of_ne _ _ (Ne.symm same), if_neg same, Option.none_or]

/-- **A lookup in the entries is a lookup in the object.** -/
@[simp] theorem get?_entries (fields : Dict) (key : String) :
    get? (entries fields) key = get? fields key := by
  rw [entries, get?_foldl_set, get?_nil, Option.or_none]

theorem nodup_set {fields : Dict} (distinct : (fields.map Prod.fst).Nodup) (key : String)
    (value : Json) : ((set fields key value).map Prod.fst).Nodup := by
  unfold set
  split
  · have keys : (fields.map fun field => if field.1 = key then (key, value) else field).map
        Prod.fst = fields.map Prod.fst := by
      rw [List.map_map]
      apply List.map_congr_left
      intro field _
      by_cases own : field.1 = key
      · rw [Function.comp_apply, if_pos own, own]
      · rw [Function.comp_apply, if_neg own]
    rwa [keys]
  · rename_i absent
    rw [List.map_append, List.nodup_append]
    refine ⟨distinct, List.nodup_singleton _, ?_⟩
    rintro other listed _ last rfl
    obtain rfl := List.mem_singleton.mp last
    obtain ⟨field, member, same⟩ := List.mem_map.mp listed
    refine absurd (get?_eq_none_iff.mp ?_ field member) (not_not_intro same)
    exact Option.not_isSome_iff_eq_none.mp absent

theorem nodup_entries (fields : Dict) : ((entries fields).map Prod.fst).Nodup := by
  suffices kept : ∀ dict : Dict, (dict.map Prod.fst).Nodup →
      ((fields.foldl (fun dict field => set dict field.1 field.2) dict).map Prod.fst).Nodup from
    kept [] List.nodup_nil
  induction fields with
  | nil => exact fun _ distinct => distinct
  | cons field rest ih => exact fun dict distinct => ih _ (nodup_set distinct _ _)

theorem entries_of_nodup {fields : Dict} (distinct : (fields.map Prod.fst).Nodup) :
    entries fields = fields := by
  have walk (done rest : Dict) (apart : ((done ++ rest).map Prod.fst).Nodup) :
      rest.foldl (fun dict field => set dict field.1 field.2) done = done ++ rest := by
    induction rest generalizing done with
    | nil => rw [List.foldl_nil, List.append_nil]
    | cons field rest ih =>
      have fresh : get? done field.1 = none := by
        rw [List.map_append, List.map_cons, List.nodup_append] at apart
        refine get?_eq_none_iff.mpr fun other member same => ?_
        exact apart.2.2 _ (List.mem_map_of_mem member) _ List.mem_cons_self same
      rw [List.foldl_cons, set, if_neg (by simp [hasKey, fresh]), ih, List.append_assoc]
      · rfl
      · rw [List.append_assoc]
        exact apart
  exact walk [] fields distinct

theorem get?_settledFields (fields : Dict) (key : String) :
    get? (settledFields fields) key = (get? fields key).map settled := by
  induction fields with
  | nil => rfl
  | cons field rest ih =>
    obtain ⟨own, value⟩ := field
    rw [settledFields, get?_cons, ih, get?_cons]
    cases get? rest key with
    | some other => rfl
    | none =>
      rw [Option.map_none, Option.none_or, Option.none_or]
      split <;> rfl

/-! ### The order of values -/

/-- Order of two scaled numbers, over their smaller exponent. -/
def lessNumber (a b : Int × Int) : Bool :=
  a.1 * 10 ^ (a.2 - min a.2 b.2).toNat < b.1 * 10 ^ (b.2 - min a.2 b.2).toNat

mutual

/-- `a < b`: texts by their characters, numbers by value, lists item by item. -/
def less : Json → Json → Option Bool
  | .str a, .str b => some (a < b)
  | .arr as, .arr bs => lessItems as bs
  | a, b =>
    match a.number?, b.number? with
    | some x, some y => some (lessNumber x y)
    | _, _ => none

def lessItems : List Json → List Json → Option Bool
  | _, [] => some false
  | [], _ :: _ => some true
  | a :: as, b :: bs => if eq a b then lessItems as bs else less a b

end

def comparable (keys : List Json) : Bool :=
  keys.all fun a => keys.all fun b => (less a b).isSome

/-- `sorted(items, key=..)` of items with their keys. One item is not compared with anything. -/
def sortedOn (keyed : List (Json × Json)) : Option (List Json) :=
  if keyed.length ≤ 1 ∨ comparable (keyed.map Prod.fst) then
    some ((keyed.insertionSort fun a b => less b.1 a.1 ≠ some true).map Prod.snd)
  else none

example : sortedOn [(.str "b", .int 1), (.str "a", .int 2), (.str "b", .int 3)] =
    some [.int 2, .int 1, .int 3] := by decide +kernel
example : sortedOn [(.str "b", .int 1), (.int 1, .int 2)] = none := by decide +kernel

def newline (depth : Nat) : List Char := '\n' :: List.replicate (2 * depth) ' '

mutual

def renderAt (depth : Nat) : Json → List Char
  | .arr [] => ['[', ']']
  | .arr (item :: rest) =>
    '[' :: (newline (depth + 1) ++ renderAt (depth + 1) item ++ renderItemsAt depth rest)
  | .obj [] => ['\x7b', '\x7d']
  | .obj ((key, value) :: rest) =>
    '\x7b' :: (newline (depth + 1) ++ renderString { ensureAscii := false } key.toList ++
      ':' :: ' ' :: (renderAt (depth + 1) value ++ renderFieldsAt depth rest))
  | value => render { ensureAscii := false } value

def renderItemsAt (depth : Nat) : List Json → List Char
  | [] => newline depth ++ [']']
  | item :: rest =>
    ',' :: (newline (depth + 1) ++ renderAt (depth + 1) item ++ renderItemsAt depth rest)

def renderFieldsAt (depth : Nat) : Dict → List Char
  | [] => newline depth ++ ['\x7d']
  | (key, value) :: rest =>
    ',' :: (newline (depth + 1) ++ renderString { ensureAscii := false } key.toList ++
      ':' :: ' ' :: (renderAt (depth + 1) value ++ renderFieldsAt depth rest))

end

/-- `json.dumps(value, ensure_ascii=False, sort_keys=True, indent=2)`. -/
def dumpsIndented (value : Json) : String := String.ofList (renderAt 0 (sortKeys (settled value)))

example : dumpsIndented (.obj [("b", .arr [.int 1, .null]), ("a", .obj [])]) =
    "\x7b\n  \"a\": \x7b\x7d,\n  \"b\": [\n    1,\n    null\n  ]\n\x7d" := by decide +kernel

end Json
