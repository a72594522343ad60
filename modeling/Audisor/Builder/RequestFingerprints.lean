/-
**What a request fingerprint tells apart.**

* `normalizeJsonSafe`, `jsonSafeDumps`, `fingerprintRequest` — the fail-safe normal form of a request, its
  text, and the hash of the text.
* `visit_shallow` — a value that is not too deep is its own normal form.
  `visit_deep` — the normal form of every other value is that of a different value as well.
* `Identifies` — the requests with the fingerprint of a request are those alike, and the index answers
  these with the record of the request and refuses the others.
* **`identifies_iff`** — this holds exactly when nothing in the request is nested deeper than 64.
-/

import Audisor.Builder.Linearizability
import Audisor.Json.RoundTrip
import Audisor.Json.Trees

namespace Audisor.Idempotency

open Json
open Audisor.Aflow (Sha256)

/-! ### The normal form -/

/-- `unicode_safe_text`: every text of the model can be encoded. -/
def unicodeSafeText (text : String) : String := text

/-- `f"\x7bnormalized_key\x7d#\x7bsuffix\x7d"`, for the first suffix whose key is not taken. -/
def numberedKey (taken : List String) (key : String) : Nat → Nat → String
  | 0, suffix => key ++ "#" ++ toString suffix
  | fuel + 1, suffix =>
    let candidate := key ++ "#" ++ toString suffix
    if candidate ∈ taken then numberedKey taken key fuel (suffix + 1) else candidate

/-- The key under which a child is kept: one of the first numbered keys is free. -/
def candidateKey (taken : List String) (key : String) : String :=
  if key ∈ taken then numberedKey taken key taken.length 2 else key

def maxDepth : Nat := 64

mutual

/-- `visit(item, depth)`, of a JSON value. -/
def visit (depth : Nat) : Json → Json
  | .arr items =>
    if maxDepth < depth then .str "<maximum depth exceeded>" else .arr (visitItems (depth + 1) items)
  | .obj fields =>
    if maxDepth < depth then .str "<maximum depth exceeded>"
    else .obj (visitFields (depth + 1) [] fields)
  | .str text => if maxDepth < depth then .str "<maximum depth exceeded>" else .str (unicodeSafeText text)
  | item => if maxDepth < depth then .str "<maximum depth exceeded>" else item

def visitItems (depth : Nat) : List Json → List Json
  | [] => []
  | child :: rest => visit depth child :: visitItems depth rest

def visitFields (depth : Nat) (normalized : Dict) : Dict → Dict
  | [] => normalized
  | (key, child) :: rest =>
    let candidate := candidateKey (normalized.map Prod.fst) (unicodeSafeText key)
    visitFields depth (normalized ++ [(candidate, visit depth child)]) rest

end

def normalizeJsonSafe (value : Json) : Json := visit 0 value

def jsonSafeDumps (value : Json) : String :=
  (sortKeys (normalizeJsonSafe value)).dumps { ensureAscii := true, compact := true }

/-- `fingerprint_request`: the text is ASCII, so hashing its bytes is hashing the text. -/
def fingerprintRequest (sha : Sha256) (value : Json) : String := sha.hexdigest (jsonSafeDumps value)

/-- A request as a `dict` holds it: no key twice, at any depth. -/
structure RequestValue where
  value : Json
  distinct : distinctKeys value = true

/-! ### One level of the visit -/

theorem visit_over {level : Nat} (beyond : maxDepth < level) (value : Json) :
    visit level value = .str "<maximum depth exceeded>" := by
  cases value <;> exact if_pos beyond

theorem visitItems_eq (level : Nat) (items : List Json) :
    visitItems level items = items.map (visit level) := by
  induction items with
  | nil => rfl
  | cons item rest ih => rw [visitItems, ih, List.map_cons]

theorem visitFields_eq (level : Nat) (fields : Dict) : ∀ normalized : Dict,
    (normalized.map Prod.fst ++ fields.map Prod.fst).Nodup →
    visitFields level normalized fields =
      normalized ++ fields.map fun field => (field.1, visit level field.2) := by
  induction fields with
  | nil => exact fun normalized _ => by rw [visitFields, List.map_nil, List.append_nil]
  | cons field rest ih =>
    intro normalized distinct
    have fresh : field.1 ∉ normalized.map Prod.fst := by
      intro taken
      exact List.disjoint_of_nodup_append distinct taken List.mem_cons_self
    rw [visitFields, unicodeSafeText, candidateKey, if_neg fresh, ih, List.append_assoc]
    · rfl
    · rwa [List.map_append, List.append_assoc]

theorem visit_arr {level : Nat} (within : level ≤ maxDepth) (items : List Json) :
    visit level (.arr items) = .arr (items.map (visit (level + 1))) := by
  rw [visit, if_neg within.not_gt, visitItems_eq]

theorem visit_obj {level : Nat} (within : level ≤ maxDepth) {fields : Dict}
    (distinct : (fields.map Prod.fst).Nodup) :
    visit level (.obj fields) = .obj (fields.map fun field => (field.1, visit (level + 1) field.2)) := by
  rw [visit, if_neg within.not_gt, visitFields_eq (level + 1) fields [] distinct, List.nil_append]

/-! ### Shallow values -/

/-- **A value that is not too deep is its own normal form.** -/
theorem visit_shallow (value : Json) : distinctKeys value = true → ∀ level : Nat,
    level + depth value ≤ maxDepth → visit level value = value := by
  induction value using tree_induction with
  | null | bool | int | float | str => exact fun _ level within => if_neg (Nat.not_lt.mpr within)
  | arr items ih =>
    intro distinct level within
    rw [visit_arr (Nat.le_of_add_right_le within), Json.arr.injEq]
    refine (List.map_congr_left fun item member => ?_).trans (List.map_id items)
    have smaller := depth_item_lt member
    exact ih item member (distinctKeys_arr.mp distinct item member) (level + 1) (by omega)
  | obj fields ih =>
    intro distinct level within
    have own := distinctKeys_obj.mp distinct
    rw [visit_obj (Nat.le_of_add_right_le within) own.1, Json.obj.injEq]
    refine (List.map_congr_left fun field member => ?_).trans (List.map_id fields)
    have smaller := depth_value_lt member
    exact Prod.ext rfl (ih field member (own.2 field member) (level + 1) (by omega))

/-! ### Deep values -/

theorem deep_item {level : Nat} {items : List Json} (within : level ≤ maxDepth)
    (deep : maxDepth < level + depth (.arr items)) :
    ∃ item ∈ items, maxDepth < level + 1 + depth item := by
  have part : maxDepth - level < depth (.arr items) := by omega
  obtain ⟨item, member, inner⟩ := lt_depth_arr.mp part
  exact ⟨item, member, by omega⟩

theorem deep_field {level : Nat} {fields : Dict} (within : level ≤ maxDepth)
    (deep : maxDepth < level + depth (.obj fields)) :
    ∃ field ∈ fields, maxDepth < level + 1 + depth field.2 := by
  have part : maxDepth - level < depth (.obj fields) := by omega
  obtain ⟨field, member, inner⟩ := lt_depth_obj.mp part
  exact ⟨field, member, by omega⟩

theorem depth_visit (value : Json) : distinctKeys value = true → ∀ level : Nat,
    level ≤ maxDepth + 1 → maxDepth < level + depth value →
      maxDepth < level + depth (visit level value) := by
  induction value using tree_induction with
  | null | bool | int | float | str =>
    exact fun _ level _ deep => lt_of_lt_of_le deep (Nat.le_add_right level _)
  | arr items ih =>
    intro distinct level start deep
    by_cases within : level ≤ maxDepth
    · obtain ⟨item, member, inner⟩ := deep_item within deep
      have below := ih item member (distinctKeys_arr.mp distinct item member) (level + 1)
        (by omega) inner
      have outer := depth_item_lt (List.mem_map_of_mem (f := visit (level + 1)) member)
      rw [visit_arr within]
      omega
    · omega
  | obj fields ih =>
    intro distinct level start deep
    have own := distinctKeys_obj.mp distinct
    by_cases within : level ≤ maxDepth
    · obtain ⟨field, member, inner⟩ := deep_field within deep
      have below := ih field member (own.2 field member) (level + 1) (by omega) inner
      have outer : depth (visit (level + 1) field.2) < depth (visit level (.obj fields)) := by
        rw [visit_obj within own.1]
        exact depth_value_lt (List.mem_map_of_mem
          (f := fun field : String × Json => (field.1, visit (level + 1) field.2)) member)
      omega
    · omega

theorem map_set_same {α β : Type} (f : α → β) {items : List α} {index : Nat}
    {bound : index < items.length} {other : α} (same : f other = f items[index]) :
    (items.set index other).map f = items.map f := by
  rw [List.map_set, same, ← List.map_set, List.set_getElem_self]

theorem visit_marked {level : Nat} (beyond : maxDepth < level) (value : Json) :
    ∃ other, distinctKeys other = true ∧ ¬ Alike value other ∧ visit level other = visit level value := by
  by_cases empty : value = .null
  · subst empty
    exact ⟨.bool true, rfl, (by rintro ⟨⟩), by rw [visit_over beyond, visit_over beyond]⟩
  · refine ⟨.null, rfl, ?_, by rw [visit_over beyond, visit_over beyond]⟩
    intro alike
    cases alike
    exact empty rfl

/-- **The normal form of a deep value is that of a different value as well.** -/
theorem visit_deep (value : Json) : distinctKeys value = true → ∀ level : Nat,
    maxDepth < level + depth value → ∃ other, distinctKeys other = true ∧ ¬ Alike value other ∧
      visit level other = visit level value := by
  induction value using tree_induction with
  | null | bool | int | float | str => exact fun _ level deep => visit_marked deep _
  | arr items ih =>
    intro distinct level deep
    by_cases within : level ≤ maxDepth
    · obtain ⟨item, member, inner⟩ := deep_item within deep
      have own := distinctKeys_arr.mp distinct
      obtain ⟨other, sound, apart, same⟩ := ih item member (own item member) (level + 1) inner
      obtain ⟨index, bound, rfl⟩ := List.getElem_of_mem member
      refine ⟨.arr (items.set index other), distinctKeys_arr.mpr ?_, ?_, ?_⟩
      · intro kept among
        rcases List.mem_or_eq_of_mem_set among with old | rfl
        · exact own kept old
        · exact sound
      · rintro (_ | _ | _ | _ | _ | ⟨-, each⟩ | _)
        exact apart (each index _ _ (List.getElem?_eq_getElem bound) (List.getElem?_set_self bound))
      · rw [visit_arr within, visit_arr within, map_set_same _ same]
    · exact visit_marked (Nat.lt_of_not_le within) _
  | obj fields ih =>
    intro distinct level deep
    by_cases within : level ≤ maxDepth
    · obtain ⟨field, member, inner⟩ := deep_field within deep
      have own := distinctKeys_obj.mp distinct
      obtain ⟨other, sound, apart, same⟩ := ih field member (own.2 field member) (level + 1) inner
      obtain ⟨index, bound, rfl⟩ := List.getElem_of_mem member
      have keys : (fields.set index (fields[index].1, other)).map Prod.fst = fields.map Prod.fst :=
        map_set_same Prod.fst rfl
      have placed : (fields[index].1, other) ∈ fields.set index (fields[index].1, other) :=
        List.mem_set bound _
      refine ⟨.obj (fields.set index (fields[index].1, other)), distinctKeys_obj.mpr ?_, ?_, ?_⟩
      · refine ⟨keys ▸ own.1, fun kept among => ?_⟩
        rcases List.mem_or_eq_of_mem_set among with old | rfl
        · exact own.2 kept old
        · exact sound
      · rintro (_ | _ | _ | _ | _ | _ | ⟨-, each⟩)
        exact apart (each _ _ _ ((get?_iff_mem own.1).mpr member)
          ((get?_iff_mem (keys ▸ own.1)).mpr placed))
      · rw [visit_obj within own.1, visit_obj within (keys ▸ own.1)]
        exact congrArg Json.obj (map_set_same _ (Prod.ext rfl same))
    · exact visit_marked (Nat.lt_of_not_le within) _

/-! ### What a fingerprint tells apart -/

/-- **A request is identified by its fingerprint.** Where the hash function does not collide on the two
texts, exactly the requests alike have the fingerprint, and what the index holds with the fingerprint of
the request it answers to these and to no other. -/
structure Identifies (sha : Sha256) (request : RequestValue) : Prop where
  fingerprints : ∀ other : RequestValue,
    (fingerprintRequest sha request.value = fingerprintRequest sha other.value →
      jsonSafeDumps request.value = jsonSafeDumps other.value) →
    (fingerprintRequest sha request.value = fingerprintRequest sha other.value ↔
      Alike request.value other.value)
  replays : ∀ other : RequestValue,
    (fingerprintRequest sha request.value = fingerprintRequest sha other.value →
      jsonSafeDumps request.value = jsonSafeDumps other.value) →
    ∀ payload record, recordFromPayload payload = .ok record →
      record.requestFingerprint = fingerprintRequest sha request.value →
      (acceptRecord record.keyHash (some (fingerprintRequest sha other.value)) payload = .ok record ↔
        Alike request.value other.value) ∧
      (acceptRecord record.keyHash (some (fingerprintRequest sha other.value)) payload =
          .error (.conflict record) ↔ ¬ Alike request.value other.value)

theorem jsonSafeDumps_eq_iff {first second : Json} :
    jsonSafeDumps first = jsonSafeDumps second ↔
      sortKeys (normalizeJsonSafe first) = sortKeys (normalizeJsonSafe second) :=
  (dumps_injective _).eq_iff

theorem Alike.depth_eq {first second : RequestValue} (alike : Alike first.value second.value) :
    depth first.value = depth second.value := by
  have forms := (sortKeys_eq_iff first.distinct second.distinct).mpr alike
  rw [← depth_sortKeys first.value, forms, depth_sortKeys]

/-- **The text of a shallow request is that of the requests alike.** -/
theorem jsonSafeDumps_shallow {request other : RequestValue}
    (within : depth request.value ≤ maxDepth) :
    jsonSafeDumps request.value = jsonSafeDumps other.value ↔ Alike request.value other.value := by
  have own : normalizeJsonSafe request.value = request.value :=
    visit_shallow request.value request.distinct 0 (by omega)
  rw [jsonSafeDumps_eq_iff, own]
  by_cases shallow : depth other.value ≤ maxDepth
  · rw [normalizeJsonSafe, visit_shallow other.value other.distinct 0 (by omega)]
    exact sortKeys_eq_iff request.distinct other.distinct
  · refine iff_of_false (fun same => ?_) (fun alike => ?_)
    · have marked := depth_visit other.value other.distinct 0 (Nat.zero_le _) (by omega)
      have depths := congrArg depth same
      rw [depth_sortKeys, depth_sortKeys, normalizeJsonSafe] at depths
      omega
    · exact shallow (Alike.depth_eq alike ▸ within)

theorem isSha256Hex_fingerprint (sha : Sha256) (value : Json) :
    isSha256Hex (fingerprintRequest sha value) = true := by
  rw [isSha256Hex, Bool.and_eq_true, beq_iff_eq]
  exact ⟨sha.length (jsonSafeDumps value), sha.hex (jsonSafeDumps value)⟩

/-- **A request is identified by its fingerprint exactly when nothing in it is too deep.** -/
theorem identifies_iff (sha : Sha256) (request : RequestValue) :
    Identifies sha request ↔ depth request.value ≤ maxDepth := by
  constructor
  · intro identified
    by_contra deep
    obtain ⟨other, sound, apart, same⟩ := visit_deep request.value request.distinct 0 (by omega)
    have texts : jsonSafeDumps request.value = jsonSafeDumps other := by
      rw [jsonSafeDumps_eq_iff, normalizeJsonSafe, normalizeJsonSafe, same]
    exact apart ((identified.fingerprints ⟨other, sound⟩ fun _ => texts).mp
      (congrArg sha.hexdigest texts))
  · intro within
    have fingerprints : ∀ other : RequestValue,
        (fingerprintRequest sha request.value = fingerprintRequest sha other.value →
          jsonSafeDumps request.value = jsonSafeDumps other.value) →
        (fingerprintRequest sha request.value = fingerprintRequest sha other.value ↔
          Alike request.value other.value) := by
      intro other collisionFree
      rw [← jsonSafeDumps_shallow within]
      exact ⟨collisionFree, fun texts => congrArg sha.hexdigest texts⟩
    refine ⟨fingerprints, fun other collisionFree payload record loaded own => ?_⟩
    rw [acceptRecord_loaded loaded (by simpa using isSha256Hex_fingerprint sha other.value), own,
      ← fingerprints other collisionFree]
    simp only [Option.mem_def, Option.some.injEq, forall_eq']
    by_cases same : fingerprintRequest sha request.value = fingerprintRequest sha other.value
    · rw [if_pos same]
      exact ⟨iff_of_true rfl same, iff_of_false (by rintro ⟨⟩) (not_not_intro same)⟩
    · rw [if_neg same]
      exact ⟨iff_of_false (by rintro ⟨⟩) same, iff_of_true rfl same⟩

/-! ### Two requests with one fingerprint -/

def nested : Nat → Json → Json
  | 0, value => value
  | levels + 1, value => .arr [nested levels value]

/-- Different requests, told apart by neither the fingerprint nor the index. -/
theorem nested_mistaken :
    ¬ Alike (nested 65 (.int 1)) (nested 65 (.int 2)) ∧
    fingerprintRequest Aflow.sha256 (nested 65 (.int 1)) =
      fingerprintRequest Aflow.sha256 (nested 65 (.int 2)) := by
  have apart : sortKeys (nested 65 (.int 1)) ≠ sortKeys (nested 65 (.int 2)) := by decide
  have plain : distinctKeys (nested 65 (.int 1)) = true ∧ distinctKeys (nested 65 (.int 2)) = true := by
    decide
  have marked : normalizeJsonSafe (nested 65 (.int 1)) = normalizeJsonSafe (nested 65 (.int 2)) := by
    decide +kernel
  have texts : jsonSafeDumps (nested 65 (.int 1)) = jsonSafeDumps (nested 65 (.int 2)) :=
    jsonSafeDumps_eq_iff.mpr (congrArg sortKeys marked)
  exact ⟨fun alike => apart ((sortKeys_eq_iff plain.1 plain.2).mpr alike),
    congrArg Aflow.sha256.hexdigest texts⟩

end Audisor.Idempotency
