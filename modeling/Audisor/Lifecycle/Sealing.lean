/-
**What a contract and a lock are made of.**

* `get?_canonicalizeFields`, `canonicalize_obj` — an object in its canonical form, key by key.
* **`assembleContract_ok`** — an assembled contract states each of its sections in canonical form, and
  the hash of its own text.
* **`acceptForPrimary_build`** — the lock of a review: the texts of the task and of the plan, bound to
  the hash of the contract.
-/

import Audisor.Lifecycle.Review

namespace Audisor.Lifecycle

open Checked Json
open Audisor.Aflow (Sha256 AnalysisDecision remove isHexChar)

/-! ### Canonical objects -/

theorem canonicalizeFields_keys {fields canonical : Dict}
    (done : canonicalizeFields fields = .ok canonical) :
    canonical.map Prod.fst = fields.map Prod.fst := by
  induction fields generalizing canonical with
  | nil =>
    cases done
    rfl
  | cons field rest ih =>
    obtain ⟨key, value⟩ := field
    obtain ⟨own, _, others, each, same⟩ : ∃ own, canonicalizeUnder (some key) value = .ok own ∧
        ∃ others, canonicalizeFields rest = .ok others ∧ (key, own) :: others = canonical := by
      simpa only [canonicalizeFields, bind_eq_ok, pure_eq_ok] using done
    rw [← same, List.map_cons, List.map_cons, ih each]

/-- **A canonical object has the canonical form of each value.** -/
theorem get?_canonicalizeFields {fields canonical : Dict} {key : String} {value : Json}
    (done : canonicalizeFields fields = .ok canonical) (stated : get? fields key = some value) :
    ∃ own, canonicalizeUnder (some key) value = .ok own ∧ get? canonical key = some own := by
  induction fields generalizing canonical with
  | nil => cases stated
  | cons field rest ih =>
    obtain ⟨first, head⟩ := field
    obtain ⟨own, held, others, each, same⟩ : ∃ own, canonicalizeUnder (some first) head = .ok own ∧
        ∃ others, canonicalizeFields rest = .ok others ∧ (first, own) :: others = canonical := by
      simpa only [canonicalizeFields, bind_eq_ok, pure_eq_ok] using done
    rw [get?_cons] at stated
    rw [← same]
    simp only [get?_cons]
    cases later : get? rest key with
    | some other =>
      rw [later, Option.some_or] at stated
      cases stated
      obtain ⟨own', canonical', found⟩ := ih each later
      exact ⟨own', canonical', by rw [found, Option.some_or]⟩
    | none =>
      rw [later, Option.none_or] at stated
      have absent : get? others key = none := by
        rw [get?_eq_none_iff] at later ⊢
        intro field member equal
        have listed : key ∈ rest.map Prod.fst := by
          rw [← canonicalizeFields_keys each, ← equal]
          exact List.mem_map_of_mem member
        obtain ⟨field', member', equal'⟩ := List.mem_map.mp listed
        exact later field' member' equal'
      rw [absent, Option.none_or]
      split at stated
      · rename_i equal
        cases stated
        rw [if_pos equal, ← equal]
        exact ⟨own, held, rfl⟩
      · cases stated

/-- **The canonical form of an object**, key by key. -/
theorem canonicalize_obj {fields canonical : Dict}
    (done : canonicalize (.obj fields) = .ok (.obj canonical)) {key : String} {value : Json}
    (stated : get? fields key = some value) :
    ∃ own, canonicalizeUnder (some key) (settled value) = .ok own ∧
      get? canonical key = some own := by
  unfold canonicalize at done
  rw [settled, canonicalizeUnder, bind_eq_ok] at done
  obtain ⟨others, each, same⟩ := done
  cases pure_eq_ok.mp same
  have found : get? (entries (settledFields fields)) key = some (settled value) := by
    rw [get?_entries, get?_settledFields, stated]
    rfl
  have distinct : (others.map Prod.fst).Nodup := by
    rw [canonicalizeFields_keys each]
    exact nodup_entries _
  obtain ⟨own, held, listed⟩ := get?_canonicalizeFields each found
  exact ⟨own, held, by rw [get?_sortFields distinct, listed]⟩

/-! ### Contracts -/

section

variable {sha : Sha256} {input : AssemblyInput} {contract : Dict}

/-- **What an assembled contract states.** -/
structure Assembled (sha : Sha256) (input : AssemblyInput) (contract : Dict) : Prop where
  /-- Every section in its canonical form. -/
  sections : ∀ key value, get? input.sections key = some value →
    ∃ own, canonicalizeUnder (some key) (settled value) = .ok own ∧ get? contract key = some own
  valid : validate input.sections input.authority = .ok ()
  verified : verifyContract sha contract = true

theorem not_section {key other : String} {value : Json}
    (found : get? input.sections key = some value)
    (absent : other ∉ "contract_version" :: "accepted_task_input" :: "authority" :: planSections) :
    key ≠ other := by
  rintro rfl
  exact absent (List.mem_map_of_mem (f := Prod.fst) (mem_of_get? found))

theorem unsealed_section {key decision mapped : String} {value : Json}
    (found : get? input.sections key = some value) :
    get? (input.unsealed decision mapped) key = some value := by
  have unready : key ≠ "readiness" := not_section found (by decide)
  have unlocked : key ≠ "lock_payload" := not_section found (by decide)
  rw [AssemblyInput.unsealed, get?_append, found, get?_cons, get?_cons, get?_nil,
    if_neg unready.symm, if_neg unlocked.symm]
  rfl

theorem sealContract_ok {unsealed : Dict} (done : sealContract sha unsealed = .ok contract) :
    verifyContract sha contract = true ∧ ∃ canonical,
      canonicalize (.obj unsealed) = .ok (.obj canonical) ∧
      ∀ key, key ≠ "lock_payload" → get? contract key = get? canonical key := by
  unfold sealContract at done
  obtain ⟨canonical, formed, done⟩ := bind_eq_ok.mp done
  cases canonical with
  | obj canonical =>
    dsimp only at done
    obtain ⟨content, _, done⟩ := bind_eq_ok.mp done
    cases locked : get? canonical "lock_payload" with
    | none => rw [locked] at done; cases done
    | some lock =>
      rw [locked] at done
      cases lock with
      | obj lock =>
        obtain ⟨_, sealed, done⟩ := bind_eq_ok.mp done
        rw [refuse_eq_ok, Bool.not_eq_false] at sealed
        cases pure_eq_ok.mp done
        refine ⟨sealed, canonical, formed, fun key other => ?_⟩
        exact get?_set_of_ne _ _ other
      | _ => cases done
  | _ => cases done

theorem assembleContract_ok (done : assembleContract sha input = .ok contract) :
    Assembled sha input contract := by
  unfold assembleContract at done
  dsimp only at done
  cases stated : get? input.frozenResult "decision" with
  | none => rw [stated] at done; cases done
  | some decision =>
    rw [stated] at done
    cases decision with
    | str decision =>
      obtain ⟨_, _, done⟩ := bind_eq_ok.mp done
      obtain ⟨_, valid, done⟩ := bind_eq_ok.mp done
      obtain ⟨mapped, _, done⟩ := bind_eq_ok.mp done
      obtain ⟨verified, canonical, formed, kept⟩ := sealContract_ok done
      refine { sections := fun key value found => ?_, valid, verified }
      have unlocked : key ≠ "lock_payload" := not_section found (by decide)
      obtain ⟨own, held, listed⟩ := canonicalize_obj formed (unsealed_section found)
      exact ⟨own, held, (kept key unlocked).trans listed⟩
    | _ => cases done

/-- **The hash of a verified contract** is the hash of the text of its body. -/
theorem contractSha256_of_verified (verified : verifyContract sha contract = true) :
    ∃ content normalized, body contract = .ok content ∧
      canonicalize (.obj content) = .ok normalized ∧
      contractSha256 contract = sha.hexdigest (canonicalText normalized) := by
  unfold verifyContract at verified
  cases bodied : body contract with
  | error error => rw [bodied] at verified; cases verified
  | ok content =>
    rw [bodied] at verified
    cases locked : get? contract "lock_payload" with
    | none => rw [locked] at verified; cases verified
    | some lock =>
      rw [locked] at verified
      cases lock with
      | obj lock =>
        have closed := (Bool.and_eq_true _ _ ▸ verified).2
        unfold isSealed at closed
        cases normal : canonicalize (.obj content) with
        | error error => rw [normal] at closed; cases closed
        | ok normalized =>
          rw [normal] at closed
          simp only [Bool.and_eq_true] at closed
          refine ⟨content, normalized, rfl, normal, ?_⟩
          unfold contractSha256 field?
          rw [locked]
          dsimp only
          rw [holdsText_iff.mp closed.1.2]
      | _ => cases verified

/-! ### The lock of a review -/

/-- The texts that the lock of a review states, and the contract that they are bound to. -/
def lockedTexts (plan task : Dict) (digest : String) : Dict :=
  [("immutable_user_task_canonical_text", .str (canonicalText (.obj task))),
    ("accepted_plan_canonical_text", .str (canonicalText (.obj plan))),
    ("success_definition_canonical_text",
      .str (canonicalText (getD plan "success_definition" .null))),
    ("required_trajectory_canonical_text",
      .str (canonicalText (getD plan "execution_trajectory" .null))),
    ("validation_cases_canonical_text",
      .str (canonicalText (getD plan "validation_contract" .null))),
    ("fixture_specifications_canonical_text",
      .str (canonicalText (getD plan "fixture_specifications" .null))),
    ("hash_algorithm", .str "sha256"), ("execution_contract_sha256", .str digest)]

def reviewLock (sha : Sha256) (plan task : Dict) (digest lockedBy : String) : Dict :=
  [("lock_version", .int 1), ("locked_by", .str lockedBy), ("hash_algorithm", .str "sha256"),
    ("canonical_payload", .obj (lockedTexts plan task digest)),
    ("lock_hash", .str (sha.hexdigest (canonicalText (.obj (lockedTexts plan task digest)))))]

/-- **The lock of a review**: it is made for every digest. -/
theorem acceptForPrimary_build {plan task : Dict} {digest lockedBy : String} :
    acceptForPrimary sha (buildAnalysisForLock plan task) (some digest) lockedBy =
      if digest.toList.length = 64 ∧ digest.toList.all isHexChar then
        .ok (reviewLock sha plan task digest lockedBy)
      else .error (lifecycleError "execution contract SHA-256 is malformed") := by
  have checked : acceptForPrimary sha (buildAnalysisForLock plan task) (some digest) lockedBy = (do
      refuse (¬ (digest.toList.length = 64 ∧ digest.toList.all isHexChar))
        (lifecycleError "execution contract SHA-256 is malformed")
      return reviewLock sha plan task digest lockedBy) := rfl
  rw [checked]
  by_cases hex : digest.toList.length = 64 ∧ digest.toList.all isHexChar
  · rw [if_pos hex, refuse, if_neg (not_not_intro hex)]
    rfl
  · rw [if_neg hex, refuse, if_pos hex]
    rfl

theorem verifyLock_reviewLock {plan task : Dict} {digest lockedBy : String} (named : lockedBy ≠ "") :
    verifyLock sha (reviewLock sha plan task digest lockedBy) = .ok true := by
  have verified : verifyLock sha (reviewLock sha plan task digest lockedBy) =
      if lockedBy = "" then .ok false
      else .ok (sha.hexdigest (canonicalText (.obj (lockedTexts plan task digest))) ==
        sha.hexdigest (canonicalText (.obj (lockedTexts plan task digest)))) := rfl
  rw [verified, if_neg named, beq_self_eq_true]

/-! ### Contracts that can be sealed -/

/-- A content that is its own canonical form, with its keys in order. -/
def isStable (content : Dict) : Bool :=
  match canonicalize (.obj content) with
  | .error _ => false
  | .ok normalized =>
    decide (normalized = .obj content) && decide (sortKeys (settled (.obj content)) = .obj content)

theorem set_set (fields : Dict) (key : String) (first second : Json) :
    set (set fields key first) key second = set fields key second := by
  have there : hasKey (set fields key first) key = true := by
    rw [hasKey, get?_set_self]
    rfl
  rw [Json.set, if_pos there]
  unfold Json.set
  split
  · rw [List.map_map]
    apply List.map_congr_left
    intro field _
    by_cases own : field.1 = key
    · rw [Function.comp_apply, if_pos own, if_pos rfl, if_pos own]
    · rw [Function.comp_apply, if_neg own, if_neg own]
  · rename_i absent
    rw [List.map_append, List.map_singleton, if_pos rfl]
    congr 1
    refine (List.map_congr_left fun field member => ?_).trans (List.map_id _)
    have missing := get?_eq_none_iff.mp (Option.not_isSome_iff_eq_none.mp absent) field member
    rw [if_neg missing]
    rfl

def openLock : Dict := [("hash_algorithm", .str "sha256")]

/-- A lock payload that states the text and the hash of its contract. -/
def closedLock (sha : Sha256) (text : String) : Dict :=
  set (set openLock "canonical_text" (.str text)) "sha256" (.str (sha.hexdigest text))

/-- **A contract with a stable content and the lock of its text verifies.** -/
theorem verifyContract_of_stable {canonical : Dict}
    (stable : isStable (set canonical "lock_payload" (.obj openLock)) = true) :
    verifyContract sha (set canonical "lock_payload" (.obj (closedLock sha
      (canonicalText (.obj (set canonical "lock_payload" (.obj openLock))))))) = true := by
  generalize own : canonicalText (.obj (set canonical "lock_payload" (.obj openLock))) = text
  have unlocked : body (set canonical "lock_payload" (.obj (closedLock sha text))) =
      .ok (set canonical "lock_payload" (.obj openLock)) := by
    unfold body
    rw [get?_set_self]
    exact congrArg Except.ok (set_set _ _ _ _)
  have texts : holdsText (closedLock sha text) "canonical_text" text = true :=
    holdsText_iff.mpr rfl
  have digests : holdsText (closedLock sha text) "sha256" (sha.hexdigest text) = true :=
    holdsText_iff.mpr (get?_set_self _ _ _)
  unfold verifyContract
  rw [unlocked, get?_set_self]
  refine Bool.and_eq_true_iff.mpr ⟨rfl, ?_⟩
  unfold isStable at stable
  unfold isSealed
  cases normal : canonicalize (.obj (set canonical "lock_payload" (.obj openLock))) with
  | error error =>
    rw [normal] at stable
    cases stable
  | ok normalized =>
    rw [normal] at stable
    simp only [Bool.and_eq_true, decide_eq_true_eq] at stable
    obtain ⟨rfl, sorted⟩ := stable
    have read : loads text = some (.obj (set canonical "lock_payload" (.obj openLock))) := by
      rw [← own, canonicalText, sorted]
      exact loads_line _ _
    dsimp only
    rw [own, Json.eq_self, texts, digests, read, Option.any_some, Json.eq_self]
    rfl

/-- **A contract with a stable content is sealed.** -/
theorem sealContract_of_stable {unsealed canonical : Dict}
    (formed : canonicalize (.obj unsealed) = .ok (.obj canonical))
    (locked : get? canonical "lock_payload" = some (.obj openLock))
    (stable : isStable (set canonical "lock_payload" (.obj openLock)) = true) :
    ∃ contract, sealContract sha unsealed = .ok contract := by
  have bodied : body canonical = .ok (set canonical "lock_payload" (.obj openLock)) := by
    unfold body
    rw [locked]
    rfl
  have verified : verifyContract sha (set canonical "lock_payload" (.obj (closedLock sha
      (canonicalText (.obj (set canonical "lock_payload" (.obj openLock))))))) = true :=
    verifyContract_of_stable stable
  unfold closedLock at verified
  unfold sealContract
  rw [formed]
  dsimp only [bind, Except.bind]
  rw [bodied, locked]
  dsimp only [bind, Except.bind]
  rw [verified]
  exact ⟨_, rfl⟩

def isSealable (unsealed : Dict) : Bool :=
  match canonicalize (.obj unsealed) with
  | .ok (.obj canonical) =>
    decide (get? canonical "lock_payload" = some (.obj openLock)) &&
      isStable (set canonical "lock_payload" (.obj openLock))
  | _ => false

theorem sealContract_of_sealable {unsealed : Dict} (sealable : isSealable unsealed = true) :
    ∃ contract, sealContract sha unsealed = .ok contract := by
  unfold isSealable at sealable
  split at sealable
  · rename_i canonical formed
    rw [Bool.and_eq_true, decide_eq_true_eq] at sealable
    exact sealContract_of_stable formed sealable.1 sealable.2
  · cases sealable

/-- **A plan that is found free of gaps is assembled** where its sections are valid and sealable. -/
theorem assembleContract_of_sealable
    (decided : get? input.frozenResult "decision" = some (.str "no_material_gap"))
    (valid : validate input.sections input.authority = .ok ())
    (sealable : isSealable (input.unsealed "no_material_gap" "no_material_gap") = true) :
    ∃ contract, assembleContract sha input = .ok contract := by
  obtain ⟨contract, sealed⟩ := @sealContract_of_sealable sha _ sealable
  refine ⟨contract, ?_⟩
  unfold assembleContract
  rw [decided]
  dsimp only [bind, Except.bind]
  rw [valid]
  exact sealed

end

end Audisor.Lifecycle
