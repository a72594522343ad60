/-
**The hash of a contract as its identity.**

* `AssemblyInput.content` — the contract that is sealed, before its text and its hash.
* `sealedText` — the text that the hash of a content is of.
* `contractSha256_content` — the hash of an assembled contract is of the text of its content.
* `Identified` — contents of one text are the same content, up to the order of keys and of sets.
* `KeepsOrder` — contracts of one hash have their actions and their stages in one order.
* **`contractIdentity`** — the hash identifies a content exactly where no two different rows tie.
* `ties_mistaken` — two contracts that differ in the order of two rows only, and in their hashes.
-/

import Audisor.Lifecycle.CanonicalForms
import Audisor.Lifecycle.SealedPlan

namespace Audisor.Lifecycle

open Checked Json
open Audisor.Aflow (Sha256 sha256)

/-! ### Settled values -/

theorem settledItems_eq (items : List Json) : settledItems items = items.map settled := by
  induction items with
  | nil => rfl
  | cons item rest ih => rw [settledItems, ih, List.map_cons]

theorem settledFields_eq (fields : Dict) :
    settledFields fields = fields.map fun field => (field.1, settled field.2) := by
  induction fields with
  | nil => rfl
  | cons field rest ih => rw [settledFields, ih, List.map_cons]

/-- **A settled value assigns every key once.** -/
theorem distinctKeys_settled (value : Json) : distinctKeys (settled value) = true := by
  induction value using tree_induction with
  | null | bool | int | float | str => rfl
  | arr items ih =>
    rw [settled, settledItems_eq, distinctKeys_arr]
    intro item member
    obtain ⟨own, among, rfl⟩ := List.mem_map.mp member
    exact ih own among
  | obj fields ih =>
    rw [settled, distinctKeys_obj]
    refine ⟨nodup_entries _, fun field member => ?_⟩
    have stated := (get?_iff_mem (nodup_entries _)).mpr member
    rw [get?_entries, get?_settledFields] at stated
    obtain ⟨value, found, same⟩ := Option.map_eq_some_iff.mp stated
    rw [← same]
    exact ih (field.1, value) (mem_of_get? found)

theorem settled_eq_self (value : Json) : distinctKeys value = true → settled value = value := by
  induction value using tree_induction with
  | null | bool | int | float | str => exact fun _ => rfl
  | arr items ih =>
    intro distinct
    rw [settled, settledItems_eq]
    refine congrArg Json.arr ((List.map_congr_left fun item member => ?_).trans (List.map_id _))
    exact ih item member (distinctKeys_arr.mp distinct item member)
  | obj fields ih =>
    intro distinct
    have own := distinctKeys_obj.mp distinct
    have each : settledFields fields = fields := by
      rw [settledFields_eq]
      refine (List.map_congr_left fun field member => ?_).trans (List.map_id _)
      rw [ih field member (own.2 field member)]
      rfl
    rw [settled, each, entries_of_nodup own.1]

/-! ### The text of a content -/

def sealedText (content : Json) : Except Raised String := do
  return canonicalText (← canonicalizeUnder none content)

theorem canonicalText_canonical {content canonical : Json} (distinct : distinctKeys content = true)
    (done : canonicalizeUnder none content = .ok canonical) :
    canonicalText canonical = canonical.dumps { ensureAscii := false, compact := true } ++ "\n" := by
  have plain := (canonicalizeUnder_same content distinct none canonical done).2
  rw [canonicalText, settled_eq_self canonical plain,
    (canonicalizeUnder_idem content none canonical done).2]

theorem sealedText_eq_ok {content : Json} {text : String} : sealedText content = .ok text ↔
    ∃ canonical, canonicalizeUnder none content = .ok canonical ∧ canonicalText canonical = text := by
  rw [sealedText, bind_eq_ok]
  exact exists_congr fun _ => and_congr_right fun _ => pure_eq_ok

/-- **Contents have one text when they have one canonical form.** -/
theorem sealedText_same {content other canonical canonical' : Json}
    (distinct : distinctKeys content = true) (distinct' : distinctKeys other = true)
    (done : canonicalizeUnder none content = .ok canonical)
    (done' : canonicalizeUnder none other = .ok canonical') :
    canonicalText canonical' = canonicalText canonical ↔ canonical' = canonical := by
  rw [canonicalText_canonical distinct done, canonicalText_canonical distinct' done']
  constructor
  · exact fun same => dumps_injective _ (String.append_left_inj _ |>.mp same)
  · rintro rfl
    rfl

/-! ### Contents that their text identifies -/

/-- **The text identifies the content**: another content has the same text when it differs in the order
of keys and of the rows of sets, and only then. -/
def Identified (content : Json) : Prop :=
  ∀ other, distinctKeys other = true →
    (sealedText other = sealedText content ↔ Same none content other)

theorem same_of_sealedText {content other : Json} {text : String} (distinct : distinctKeys content = true)
    (distinct' : distinctKeys other = true) (sealed : sealedText content = .ok text)
    (sealed' : sealedText other = .ok text) : Same none content other := by
  obtain ⟨canonical, done, rfl⟩ := sealedText_eq_ok.mp sealed
  obtain ⟨canonical', done', same⟩ := sealedText_eq_ok.mp sealed'
  obtain rfl := (sealedText_same distinct distinct' done done').mp same
  exact Same.join content none other canonical' (canonicalizeUnder_same content distinct none _ done).1
    (canonicalizeUnder_same other distinct' none _ done').1

/-- **A content is identified exactly where no two different rows of a set tie.** -/
theorem identified_iff {content : Json} {text : String} (distinct : distinctKeys content = true)
    (sealed : sealedText content = .ok text) :
    Identified content ↔ tieFree none content = true := by
  obtain ⟨canonical, done, rfl⟩ := sealedText_eq_ok.mp sealed
  constructor
  · intro identified
    by_contra tied
    obtain ⟨other, distinct', same, differs⟩ :=
      canonical_tied content distinct none canonical done (Bool.not_eq_true _ ▸ tied)
    have sealed' := ((identified other distinct').mpr same).trans sealed
    obtain ⟨canonical', done', texts⟩ := sealedText_eq_ok.mp sealed'
    rw [(sealedText_same distinct distinct' done done').mp texts] at done'
    exact differs done'
  · intro free other distinct'
    rw [sealed]
    refine ⟨fun sealed' => same_of_sealedText distinct distinct' sealed sealed', fun same => ?_⟩
    exact sealedText_eq_ok.mpr ⟨canonical,
      canonical_unique content distinct none other canonical distinct' same done free, rfl⟩

/-! ### The content of a contract -/

/-- **The content of an assembled contract**: its sections, its readiness and the start of its lock. -/
def AssemblyInput.content (input : AssemblyInput) : Json :=
  match get? input.frozenResult "decision" with
  | some (.str decision) =>
    settled (.obj (input.unsealed decision ((frozenReadiness.lookup decision).getD "")))
  | _ => .null

theorem set_same {fields : Dict} {key : String} {value : Json} (distinct : (fields.map Prod.fst).Nodup)
    (stated : get? fields key = some value) : set fields key value = fields := by
  rw [Json.set, if_pos (by rw [hasKey, stated]; rfl)]
  refine (List.map_congr_left fun field member => ?_).trans (List.map_id _)
  split
  · rename_i own
    have listed := (get?_iff_mem distinct).mpr member
    rw [own, stated] at listed
    rw [Option.some.inj listed, ← own]
    rfl
  · rfl

section

variable {sha : Sha256} {input other : AssemblyInput} {contract sealed : Dict}

theorem unsealed_lock (input : AssemblyInput) {decision mapped : String} :
    get? (input.unsealed decision mapped) "lock_payload" = some (.obj openLock) := by
  rw [AssemblyInput.unsealed, get?_append, get?_cons, get?_cons, get?_nil]
  rfl

/-- **What has a canonical form can be sealed.** -/
theorem isSealable_of_canonical {unsealed : Dict} {canonical : Json}
    (formed : canonicalize (.obj unsealed) = .ok canonical)
    (locked : get? unsealed "lock_payload" = some (.obj openLock)) : isSealable unsealed = true := by
  have plain := (canonicalizeUnder_same _ (distinctKeys_settled _) none canonical formed).2
  have own := canonicalizeUnder_idem _ none canonical formed
  obtain ⟨fields, _, rfl⟩ := canonicalizeUnder_obj.mp formed
  obtain ⟨lock, held, stated⟩ := canonicalize_obj formed locked
  cases (Except.ok.inj held : Json.obj openLock = lock)
  have again : canonicalize (.obj (sortFields fields)) = .ok (.obj (sortFields fields)) := by
    unfold canonicalize
    rw [settled_eq_self _ plain]
    exact own.1
  unfold isSealable isStable
  rw [formed]
  dsimp only
  rw [set_same (distinctKeys_obj.mp plain).1 stated, again]
  dsimp only
  rw [settled_eq_self _ plain, own.2, stated]
  simp

/-- **The hash of a sealed contract** is of the text of what was sealed. -/
theorem sealContract_text {unsealed : Dict} (done : sealContract sha unsealed = .ok contract)
    (locked : get? unsealed "lock_payload" = some (.obj openLock)) :
    ∃ text, sealedText (settled (.obj unsealed)) = .ok text ∧
      contractSha256 contract = sha.hexdigest text := by
  unfold sealContract at done
  obtain ⟨canonical, formed, done⟩ := bind_eq_ok.mp done
  have plain := (canonicalizeUnder_same _ (distinctKeys_settled _) none canonical formed).2
  cases canonical with
  | obj canonical =>
    obtain ⟨lock, held, stated⟩ := canonicalize_obj formed locked
    cases (Except.ok.inj held : Json.obj openLock = lock)
    -- The start of the lock states no text and no hash: the body is the whole canonical form.
    have bodied : body canonical = .ok canonical := by
      unfold body
      rw [stated]
      exact congrArg Except.ok (set_same (distinctKeys_obj.mp plain).1 stated)
    dsimp only at done
    rw [bodied, stated] at done
    dsimp only [bind, Except.bind] at done
    refine ⟨_, sealedText_eq_ok.mpr ⟨_, formed, rfl⟩, ?_⟩
    split at done
    · cases done
    · cases pure_eq_ok.mp done
      unfold contractSha256 field?
      rw [get?_set_self]
      dsimp only
      rw [get?_set_self]
  | _ => cases done

/-- **The hash of an assembled contract** is of the text of its content. -/
theorem contractSha256_content (done : assembleContract sha input = .ok contract) :
    distinctKeys input.content = true ∧ ∃ text, sealedText input.content = .ok text ∧
      contractSha256 contract = sha.hexdigest text := by
  unfold assembleContract at done
  dsimp only at done
  unfold AssemblyInput.content
  cases stated : get? input.frozenResult "decision" with
  | none => rw [stated] at done; cases done
  | some decision =>
    rw [stated] at done
    cases decision with
    | str decision =>
      obtain ⟨_, _, done⟩ := bind_eq_ok.mp done
      obtain ⟨_, _, done⟩ := bind_eq_ok.mp done
      obtain ⟨mapped, known, done⟩ := bind_eq_ok.mp done
      have looked : frozenReadiness.lookup decision = some mapped := by
        unfold contractDecision at known
        split at known
        · rename_i looked
          rw [looked, Except.ok.inj known]
        · cases known
      dsimp only
      rw [looked, Option.getD_some]
      exact ⟨distinctKeys_settled _, sealContract_text done (unsealed_lock input)⟩
    | _ => cases done

end

/-! ### The order of actions and stages -/

theorem map_eq_map_iff {α β γ : Type} {f : α → γ} {g : β → γ} {items : List α} {others : List β} :
    items.map f = others.map g ↔ List.Forall₂ (fun item other => f item = g other) items others := by
  rw [← List.forall₂_eq_eq_eq, List.forall₂_map_left_iff, List.forall₂_map_right_iff]

/-- **The rows of an id set** have distinct ids. -/
theorem idSet_eq_ok {rows : Option Json} {key scope : String} {found : List Dict × List String}
    (done : idSet rows key scope = .ok found) : ∃ items, rows = some (.arr items) ∧
      (∀ item ∈ items, ∃ id, idOf? key item = some (.str id)) ∧ (items.map (idOf? key)).Nodup := by
  unfold idSet at done
  cases rows with
  | none => cases done
  | some rows =>
    cases rows with
    | arr items =>
      dsimp only at done
      obtain ⟨_, _, done⟩ := bind_eq_ok.mp done
      split at done
      · rename_i each found
        obtain ⟨_, apart, _⟩ := bind_eq_ok.mp done
        rw [refuse_eq_ok, not_not] at apart
        rw [mapM_eq_some, map_eq_map_iff] at found
        have stated : List.Forall₂ (fun item row => idOf? key item = some (.str row.2)) items each := by
          refine found.imp fun item row same => ?_
          split at same
          · split at same
            · rename_i listed
              split at same
              · cases same
              · cases same
                exact listed
            · cases same
          · cases same
        refine ⟨items, rfl, fun item member => ?_, ?_⟩
        · obtain ⟨row, _, own⟩ := exists_mem_of_forall₂ stated.flip member
          exact ⟨row.2, own⟩
        · have ids : items.map (idOf? key) = (each.map Prod.snd).map fun id => some (Json.str id) := by
            rw [map_eq_map_iff.mpr stated, List.map_map]
            rfl
          rw [ids]
          exact apart.map fun first second same => Json.str.inj (Option.some.inj same)
      · cases done
    | _ => cases done

theorem Same.idOf {row row' : Json} {key id : String} (same : Same none row row')
    (own : idOf? key row = some (.str id)) : idOf? key row' = some (.str id) := by
  cases same with
  | @obj _ fields others keys each =>
    have there := keys key
    rw [hasKey, hasKey] at there
    unfold idOf? at own ⊢
    dsimp only at own ⊢
    rw [own] at there
    obtain ⟨other, found⟩ := Option.isSome_iff_exists.mp there.symm
    cases each key _ other own found
    exact found
  | _ => cases own

theorem idOf?_settled (key : String) (row : Json) :
    idOf? key (settled row) = (idOf? key row).map settled := by
  cases row with
  | obj fields =>
    show get? (entries (settledFields fields)) key = _
    rw [get?_entries, get?_settledFields]
    rfl
  | _ => rfl

theorem eq_of_perm_of_map {α β : Type} {f : α → β} {items others : List α} (perm : others.Perm items)
    (distinct : (items.map f).Nodup) (same : others.map f = items.map f) : others = items := by
  rw [← List.forall₂_eq_eq_eq]
  refine forall₂_imp_mem (map_eq_map_iff.mp same) fun other among item member values => ?_
  exact List.inj_on_of_nodup_map distinct (perm.mem_iff.mp among) member values

/-- The rows of a section of the plan, and the key of their ids, whose order is a part of the plan. -/
def orderedSections : List (String × String) :=
  [("implementation_plan", "action_id"), ("execution_trajectory", "stage_id")]

/-- **The actions and the stages of two plans are not permuted.** -/
def KeepsOrder (input other : AssemblyInput) : Prop :=
  ∀ scope ∈ orderedSections, ∀ rows rows',
    get? input.candidatePlan scope.1 = some (.arr rows) →
    get? other.candidatePlan scope.1 = some (.arr rows') → rows'.Perm rows → rows' = rows

section

variable {sha : Sha256} {input other : AssemblyInput} {contract sealed : Dict}

theorem validate_ids {sections authority : Dict} (valid : validate sections authority = .ok ())
    (scope : String × String) (listed : scope ∈ orderedSections) :
    ∃ found, idSet (get? sections scope.1) scope.2 scope.1 = .ok found := by
  unfold validate at valid
  obtain ⟨_, _, valid⟩ := bind_eq_ok.mp valid
  obtain ⟨_, traceable⟩ := then_eq_ok.mp valid
  unfold validateTraceability at traceable
  obtain ⟨traced, actions, _⟩ := bind_eq_ok.mp traceable
  unfold traceActions at actions
  split at actions
  · obtain ⟨_, _, actions⟩ := bind_eq_ok.mp actions
    obtain ⟨_, _, actions⟩ := bind_eq_ok.mp actions
    obtain ⟨plan, planned, actions⟩ := bind_eq_ok.mp actions
    obtain ⟨_, _, actions⟩ := bind_eq_ok.mp actions
    obtain ⟨_, actions⟩ := then_eq_ok.mp actions
    obtain ⟨stages, staged, _⟩ := bind_eq_ok.mp actions
    simp only [orderedSections, List.mem_cons, List.not_mem_nil, or_false] at listed
    rcases listed with rfl | rfl
    · exact ⟨plan, planned⟩
    · exact ⟨stages, staged⟩
  · cases actions

theorem content_section (done : assembleContract sha input = .ok contract) :
    ∃ fields, input.content = .obj fields ∧ ∀ scope ∈ planSections,
      get? fields scope = some (settled (getD input.candidatePlan scope .null)) := by
  unfold assembleContract at done
  dsimp only at done
  unfold AssemblyInput.content
  cases stated : get? input.frozenResult "decision" with
  | none => rw [stated] at done; cases done
  | some decision =>
    cases decision with
    | str decision =>
      refine ⟨_, rfl, fun scope listed => ?_⟩
      have found : get? input.sections scope = some (getD input.candidatePlan scope .null) := by
        simp only [planSections, List.mem_cons, List.not_mem_nil, or_false] at listed
        rcases listed with rfl | rfl | rfl | rfl | rfl | rfl | rfl <;> rfl
      rw [get?_entries, get?_settledFields, unsealed_section found]
      rfl
    | _ => rw [stated] at done; cases done

/-- **Contracts with the same content** have their actions and their stages in one order. -/
theorem Same.keepsOrder (done : assembleContract sha input = .ok contract)
    (done' : assembleContract sha other = .ok sealed) (same : Same none input.content other.content) :
    KeepsOrder input other := by
  intro scope listed rows rows' stated stated' perm
  obtain ⟨fields, content, sections⟩ := content_section done
  obtain ⟨fields', content', sections'⟩ := content_section done'
  have planned : scope.1 ∈ planSections := by
    simp only [orderedSections, List.mem_cons, List.not_mem_nil, or_false] at listed
    rcases listed with rfl | rfl <;> decide
  have ordered : isSet (some scope.1) = false := by
    simp only [orderedSections, List.mem_cons, List.not_mem_nil, or_false] at listed
    rcases listed with rfl | rfl <;> decide
  have own : get? fields scope.1 = some (.arr (rows.map settled)) := by
    rw [sections _ planned, getD, stated, Option.getD_some, settled, settledItems_eq]
  have own' : get? fields' scope.1 = some (.arr (rows'.map settled)) := by
    rw [sections' _ planned, getD, stated', Option.getD_some, settled, settledItems_eq]
  -- The rows of the section are the same one by one, as it is no set.
  have each : List.Forall₂ (fun row row' => Same none (settled row) (settled row')) rows rows' := by
    rw [content, content'] at same
    cases same with
    | obj keys alike =>
      have sets := alike _ _ _ own own'
      cases sets with
      | list _ each => rwa [List.forall₂_map_left_iff, List.forall₂_map_right_iff] at each
      | rows set => rw [ordered] at set; cases set
  -- The rows of either plan have distinct ids, and the ids are texts.
  have ids {input : AssemblyInput} {contract : Dict} {rows : List Json}
      (done : assembleContract sha input = .ok contract)
      (stated : get? input.candidatePlan scope.1 = some (.arr rows)) :
      (∀ row ∈ rows, ∃ id, idOf? scope.2 row = some (.str id)) ∧ (rows.map (idOf? scope.2)).Nodup := by
    obtain ⟨found, set⟩ := validate_ids (assembleContract_ok done).valid scope listed
    have held : get? input.sections scope.1 = some (.arr rows) := by
      have value : getD input.candidatePlan scope.1 .null = .arr rows := by
        rw [getD, stated, Option.getD_some]
      rw [← value]
      simp only [orderedSections, List.mem_cons, List.not_mem_nil, or_false] at listed
      rcases listed with rfl | rfl <;> rfl
    obtain ⟨items, same, texts, distinct⟩ := idSet_eq_ok set
    cases Json.arr.inj (Option.some.inj (held.symm.trans same))
    exact ⟨texts, distinct⟩
  refine eq_of_perm_of_map perm (ids done stated).2 (map_eq_map_iff.mpr ?_)
  refine forall₂_imp_mem each.flip fun row' member' row member alike => ?_
  obtain ⟨id, own⟩ := (ids done stated).1 row member
  obtain ⟨id', own'⟩ := (ids done' stated').1 row' member'
  have found := alike.idOf (by rw [idOf?_settled, own]; rfl : idOf? scope.2 (settled row) = some (.str id))
  rw [idOf?_settled, own'] at found
  rw [own, own']
  exact found

/-! ### The identity -/

/-- SHA-256 does not collide on the texts of two contents. -/
def CollisionFree (sha : Sha256) (content other : Json) : Prop :=
  ∀ text text', sealedText content = .ok text → sealedText other = .ok text' →
    sha.hexdigest text' = sha.hexdigest text → text' = text

/-- **The hash identifies the contract** among the contracts that are assembled. -/
def HashIdentifies (sha : Sha256) (input : AssemblyInput) (contract : Dict) : Prop :=
  ∀ other sealed, assembleContract sha other = .ok sealed →
    CollisionFree sha input.content other.content →
      (contractSha256 sealed = contractSha256 contract ↔ Same none input.content other.content)

theorem contractSha256_eq_iff (done : assembleContract sha input = .ok contract)
    (done' : assembleContract sha other = .ok sealed)
    (free : CollisionFree sha input.content other.content) :
    contractSha256 sealed = contractSha256 contract ↔
      sealedText other.content = sealedText input.content := by
  obtain ⟨_, text, made, digest⟩ := contractSha256_content done
  obtain ⟨_, text', made', digest'⟩ := contractSha256_content done'
  rw [digest, digest', made, made', Except.ok.injEq]
  exact ⟨free text text' made made', fun same => by rw [same]⟩

/-- **The hash of a contract as its identity.** The content of an assembled contract is identified
exactly where no two different rows of a set tie, and there the hash identifies the contract. Everywhere,
contracts of one hash have the same content, and list their actions and their stages in one order. A
canonical form is its own. -/
theorem contractIdentity (done : assembleContract sha input = .ok contract) :
    (Identified input.content ↔ tieFree none input.content = true) ∧
    (tieFree none input.content = true → HashIdentifies sha input contract) ∧
    (∀ other sealed, assembleContract sha other = .ok sealed →
      CollisionFree sha input.content other.content →
      contractSha256 sealed = contractSha256 contract →
        Same none input.content other.content ∧ KeepsOrder input other) ∧
    ∀ value canonical, canonicalize value = .ok canonical → canonicalize canonical = .ok canonical := by
  obtain ⟨distinct, text, made, _⟩ := contractSha256_content done
  have identified := identified_iff distinct made
  refine ⟨identified, ?_, ?_, ?_⟩
  · intro untied other sealed done' free
    rw [contractSha256_eq_iff done done' free]
    exact identified.mpr untied other.content (contractSha256_content done').1
  · intro other sealed done' free same
    have texts := (contractSha256_eq_iff done done' free).mp same
    have alike := same_of_sealedText distinct (contractSha256_content done').1 made (texts.trans made)
    exact ⟨alike, alike.keepsOrder done done'⟩
  · intro value canonical formed
    have plain := canonicalizeUnder_same _ (distinctKeys_settled value) none canonical formed
    unfold canonicalize
    rw [settled_eq_self canonical plain.2]
    exact (canonicalizeUnder_idem _ none canonical formed).1

end

theorem contractIdentity_other : ∃ contract, assembleContract sha256 otherInput = .ok contract ∧
    HashIdentifies sha256 otherInput contract := by
  obtain ⟨contract, done⟩ :=
    @assembleContract_of_sealable sha256 otherInput rfl otherInput_valid otherInput_sealable
  exact ⟨contract, done, (contractIdentity done).2.1 (by decide +kernel)⟩

/-! ### Rows that tie -/

def ownIdKey (set : String) : Option String :=
  (unorderedIdCollections.zip idKeys).lookup set

mutual

/-- Every set of rows, at any depth, has rows with distinct texts for their own ids. -/
def hasOwnIds (parentKey : Option String) : Json → Bool
  | .arr items =>
    hasOwnIdsItems items &&
      match parentKey.bind ownIdKey with
      | none => true
      | some key =>
        items.all (fun item => match idOf? key item with
          | some (.str _) => true
          | _ => false) && decide (items.map (idOf? key)).Nodup
  | .obj fields => hasOwnIdsFields fields
  | _ => true

def hasOwnIdsItems : List Json → Bool
  | [] => true
  | item :: rest => hasOwnIds none item && hasOwnIdsItems rest

def hasOwnIdsFields : Dict → Bool
  | [] => true
  | (key, value) :: rest => hasOwnIds (some key) value && hasOwnIdsFields rest

end

/-- An evidence item that also names its requirement by itself. -/
def tiedItem (id : String) : Json :=
  .obj [("evidence_id", .str id), ("requirement_id", .str "r"), ("requirement_ids", .arr [.str "r"]),
    ("checkpoint_ids", .arr [.str "c"])]

/-- The other plan with two such evidence items, in either order. -/
def tiedInput (forward : Bool) : AssemblyInput :=
  { otherInput with
    candidatePlan := set otherPlan "evidence_manifest" (.obj [("evidence_items", .arr
      (if forward then [tiedItem "e", tiedItem "e'"] else [tiedItem "e'", tiedItem "e"]))]) }

theorem Same.set {parentKey : Option String} {fields : Dict} {key : String} {value other : Json}
    (stated : get? fields key = some value) (same : Same (some key) value other) :
    Same parentKey (.obj fields) (.obj (set fields key other)) := by
  refine .obj (fun name => ?_) fun name first second found found' => ?_
  · by_cases changed : name = key
    · rw [changed, hasKey, hasKey, stated, get?_set_self]
      rfl
    · rw [hasKey, hasKey, get?_set_of_ne _ _ changed]
  · by_cases changed : name = key
    · subst changed
      rw [get?_set_self] at found'
      rwa [← Option.some.inj (stated.symm.trans found), ← Option.some.inj found']
    · rw [get?_set_of_ne _ _ changed, found] at found'
      rw [← Option.some.inj found']
      exact Same.refl first (some name)

theorem tiedInput_same : Same none (tiedInput true).content (tiedInput false).content := by
  have swapped : (tiedInput false).content = .obj (set (entries (settledFields
      ((tiedInput true).unsealed "no_material_gap" "no_material_gap"))) "evidence_manifest"
        (.obj (set [("evidence_items", .arr [tiedItem "e", tiedItem "e'"])] "evidence_items"
          (.arr [tiedItem "e'", tiedItem "e"])))) := by
    decide +kernel
  rw [swapped]
  have listed : get? [("evidence_items", Json.arr [tiedItem "e", tiedItem "e'"])] "evidence_items" =
      some (.arr [tiedItem "e", tiedItem "e'"]) := rfl
  refine Same.set (by decide +kernel) (Same.set listed (.rows rfl ?_ (List.Perm.swap _ _ _)))
  exact List.forall₂_same.mpr fun item _ => Same.refl item none

/-- **Two contracts that differ in the order of two evidence items only have different hashes**, unless
SHA-256 collides on their texts: the items are sorted by the field that they share. -/
theorem ties_mistaken :
    hasOwnIds none (tiedInput true).content = true ∧ hasOwnIds none (tiedInput false).content = true ∧
    Same none (tiedInput true).content (tiedInput false).content ∧
    ∃ contract sealed, assembleContract sha256 (tiedInput true) = .ok contract ∧
      assembleContract sha256 (tiedInput false) = .ok sealed ∧
      (CollisionFree sha256 (tiedInput true).content (tiedInput false).content →
        contractSha256 sealed ≠ contractSha256 contract) := by
  have valid (forward : Bool) : validate (tiedInput forward).sections (tiedInput forward).authority =
      .ok () := by
    cases forward <;> decide +kernel
  have sealable (forward : Bool) :
      isSealable ((tiedInput forward).unsealed "no_material_gap" "no_material_gap") = true := by
    have returns : (canonicalize (.obj ((tiedInput forward).unsealed "no_material_gap"
        "no_material_gap"))).toBool = true := by
      cases forward <;> decide +kernel
    cases formed : canonicalize (.obj ((tiedInput forward).unsealed "no_material_gap"
      "no_material_gap")) with
    | error error => rw [formed] at returns; cases returns
    | ok canonical => exact isSealable_of_canonical formed (unsealed_lock _)
  obtain ⟨contract, done⟩ :=
    @assembleContract_of_sealable sha256 (tiedInput true) rfl (valid true) (sealable true)
  obtain ⟨sealed, done'⟩ :=
    @assembleContract_of_sealable sha256 (tiedInput false) rfl (valid false) (sealable false)
  refine ⟨by decide +kernel, by decide +kernel, tiedInput_same, contract, sealed, done, done', ?_⟩
  intro free same
  obtain ⟨distinct, text, made, _⟩ := contractSha256_content done
  rw [contractSha256_eq_iff done done' free, made] at same
  obtain ⟨canonical, formed, rfl⟩ := sealedText_eq_ok.mp made
  obtain ⟨canonical', formed', texts⟩ := sealedText_eq_ok.mp same
  rw [sealedText_same distinct (contractSha256_content done').1 formed formed'] at texts
  have apart : canonicalizeUnder none (tiedInput false).content ≠
      canonicalizeUnder none (tiedInput true).content := by
    decide +kernel
  exact apart (formed'.trans (texts ▸ formed.symm))

end Audisor.Lifecycle
