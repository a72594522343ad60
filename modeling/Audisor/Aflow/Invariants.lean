/-
**What a document must satisfy beyond its schema, and sealed documents.**

* `AflowError` — how a call of A-Flow fails.
* `unique` — `_unique`; **`unique_ok`** — it passes exactly when no id occurs twice.
* `SuccessDefinition.validate`, `Plan.validate`, … — `validate_domain_invariants` of each kind.
* `byKey` — the `dict` of some items by their ids.
* `LockedPlan.seal`, `Baseline.seal`, … — `seal(value, field)` of each kind of document, and
  `SuccessDefinition.confirm`, the confirmation that states the definition's own hash.
* `seal_valid` of each — a sealed document states its hash, whatever it stated before.
-/

import Audisor.Aflow.Artifacts
import Mathlib.Data.List.Dedup
import Mathlib.Data.List.Sort
import Mathlib.Data.String.Basic

namespace Audisor.Aflow

section

/-- How a call fails. The text of a schema error is the validator's. -/
inductive AflowError where
  | domainInvariant (message : String)
  | schemaValidation (schemaName : String)
  | valueError (message : String)
  | keyError
  | typeError
  deriving DecidableEq, Repr

theorem bind_ok {α β : Type} {first : Except AflowError α} {next : α → Except AflowError β}
    {result : β} : (first >>= next) = .ok result ↔ ∃ a, first = .ok a ∧ next a = .ok result := by
  cases first <;> simp [bind, Except.bind]

theorem then_ok {β : Type} {check : Except AflowError Unit} {next : Except AflowError β}
    {result : β} : (check >>= fun _ => next) = .ok result ↔ check = .ok () ∧ next = .ok result := by
  cases check <;> simp [bind, Except.bind]

theorem mapM_ok {α β : Type} {step : α → Except AflowError β} {items : List α} {results : List β}
    (mapped : items.mapM step = .ok results) :
    (∀ item ∈ items, ∃ result ∈ results, step item = .ok result) ∧
      ∀ result ∈ results, ∃ item ∈ items, step item = .ok result := by
  induction items generalizing results with
  | nil =>
    rw [List.mapM_nil] at mapped
    cases mapped
    simp
  | cons item rest ih =>
    simp only [List.mapM_cons, bind_ok, pure, Except.pure, Except.ok.injEq] at mapped
    obtain ⟨first, stepped, others, walked, rfl⟩ := mapped
    obtain ⟨forth, back⟩ := ih walked
    constructor
    · rintro other (_ | ⟨_, member⟩)
      · exact ⟨first, List.mem_cons_self, stepped⟩
      · obtain ⟨result, listed, same⟩ := forth other member
        exact ⟨result, List.mem_cons_of_mem _ listed, same⟩
    · rintro result (_ | ⟨_, member⟩)
      · exact ⟨item, List.mem_cons_self, stepped⟩
      · obtain ⟨other, listed, same⟩ := back result member
        exact ⟨other, List.mem_cons_of_mem _ listed, same⟩

theorem mapM_map {α β γ : Type} {step : α → Except AflowError β} {items : List α} {results : List β}
    (before : α → γ) (after : β → γ) (mapped : items.mapM step = .ok results)
    (agree : ∀ item result, step item = .ok result → after result = before item) :
    results.map after = items.map before := by
  induction items generalizing results with
  | nil =>
    rw [List.mapM_nil] at mapped
    cases mapped
    rfl
  | cons item rest ih =>
    simp only [List.mapM_cons, bind_ok, pure, Except.pure, Except.ok.injEq] at mapped
    obtain ⟨first, stepped, others, walked, rfl⟩ := mapped
    rw [List.map_cons, List.map_cons, ih walked, agree item first stepped]

theorem mapM_returns {α β : Type} {step : α → Except AflowError β} {items : List α}
    (steps : ∀ item ∈ items, ∃ result, step item = .ok result) :
    ∃ results, items.mapM step = .ok results := by
  induction items with
  | nil => exact ⟨[], rfl⟩
  | cons item rest ih =>
    obtain ⟨first, stepped⟩ := steps item List.mem_cons_self
    obtain ⟨others, walked⟩ := ih fun other member => steps other (List.mem_cons_of_mem _ member)
    exact ⟨first :: others, by rw [List.mapM_cons, stepped, walked]; rfl⟩

theorem forM_ok {α : Type} {step : α → Except AflowError Unit} {items : List α} :
    items.forM step = .ok () ↔ ∀ item ∈ items, step item = .ok () := by
  induction items with
  | nil => simp [pure, Except.pure]
  | cons item rest ih =>
    have walk : (item :: rest).forM step = (step item >>= fun _ => rest.forM step) := rfl
    rw [walk, then_ok, ih, List.forall_mem_cons]

/-! ### Ids -/

def duplicates (values : List String) : List String :=
  ((values.filter fun value => 1 < values.count value).dedup).insertionSort (· ≤ ·)

/-- `_unique(items, field, scope)`. -/
def unique (values : List String) (scope : String) : Except AflowError Unit :=
  if (duplicates values).isEmpty then .ok ()
  else .error (.domainInvariant
    ("duplicate " ++ scope ++ " IDs: " ++ ", ".intercalate (duplicates values)))

theorem duplicates_eq_nil {values : List String} : duplicates values = [] ↔ values.Nodup := by
  have empty (items : List String) : items.insertionSort (· ≤ ·) = [] ↔ items = [] := by
    rw [← List.length_eq_zero_iff, List.length_insertionSort, List.length_eq_zero_iff]
  rw [duplicates, empty, List.dedup_eq_nil, List.filter_eq_nil_iff, List.nodup_iff_count_le_one]
  constructor
  · intro few value
    by_cases member : value ∈ values
    · simpa using few value member
    · rw [List.count_eq_zero_of_not_mem member]
      exact Nat.zero_le 1
  · intro few value _
    simpa using few value

/-- **Ids are unique when none occurs twice.** -/
theorem unique_ok {values : List String} {scope : String} :
    unique values scope = .ok () ↔ values.Nodup := by
  rw [← duplicates_eq_nil, unique]
  split
  · rename_i empty
    simpa using empty
  · rename_i some
    simpa using some

section

variable {α κ : Type} [DecidableEq κ]

/-- `{item[key]: item for item in items}.get(id)`: the last item with the id. -/
def byKey (items : List α) (key : α → κ) (id : κ) : Option α :=
  items.reverse.find? fun item => key item = id

theorem byKey_some {items : List α} {key : α → κ} {id : κ} {item : α}
    (found : byKey items key id = some item) : item ∈ items ∧ key item = id := by
  refine ⟨List.mem_reverse.mp (List.mem_of_find?_eq_some found), ?_⟩
  simpa using List.find?_some found

theorem byKey_isSome {items : List α} {key : α → κ} {id : κ} (listed : id ∈ items.map key) :
    (byKey items key id).isSome = true := by
  obtain ⟨item, member, rfl⟩ := List.mem_map.mp listed
  rw [byKey, List.find?_isSome]
  exact ⟨item, List.mem_reverse.mpr member, by simp⟩

theorem byKey_mem {items : List α} {key : α → κ} (distinct : (items.map key).Nodup) {item : α}
    (member : item ∈ items) : byKey items key (key item) = some item := by
  cases found : byKey items key (key item) with
  | none =>
    have other := List.find?_eq_none.mp found item (List.mem_reverse.mpr member)
    simp at other
  | some other =>
    obtain ⟨listed, same⟩ := byKey_some found
    rw [List.inj_on_of_nodup_map distinct listed member same]

end

/-! ### The kinds of documents -/

variable (sha : Sha256)

def require (condition : Bool) (message : String) : Except AflowError Unit :=
  if condition then .ok () else .error (.domainInvariant message)

@[simp] theorem require_ok {condition : Bool} {message : String} :
    require condition message = .ok () ↔ condition = true := by
  cases condition <;> simp [require]

def ids {α : Type} (items : List α) (id : α → Identifier) : List String :=
  items.map fun item => (id item).val

theorem ids_nodup {α : Type} {items : List α} {id : α → Identifier} :
    (ids items id).Nodup ↔ (items.map id).Nodup := by
  have texts : ids items id = (items.map id).map Subtype.val := List.map_map.symm
  rw [texts, List.nodup_map_iff Subtype.val_injective]

def SuccessDefinition.validate (success : SuccessDefinition) : Except AflowError Unit := do
  unique (ids success.actors.val Actor.actorId) "actor"
  unique (ids success.requirements.val Requirement.requirementId) "requirement"
  unique (ids success.prohibitedOutcomes ProhibitedOutcome.outcomeId) "prohibited outcome"
  unique (ids success.nonGoals NonGoal.nonGoalId) "non-goal"
  unique (ids success.proofObligations.val ProofObligation.proofId) "proof"
  require (verifyHash sha success.confirmationHash success.toJson)
    "success-definition confirmation hash mismatch"

def Plan.validate (plan : Plan) : Except AflowError Unit := do
  unique (ids plan.requirementsCoverage.val CoverageRow.requirementId) "requirement coverage"
  unique (ids plan.actions.val Action.actionId) "action"
  unique (ids plan.validations.val Validation.validationId) "validation"
  unique (ids plan.dependencies Dependency.dependencyId) "dependency"
  unique (ids plan.assumptions Assumption.assumptionId) "assumption"
  unique (ids plan.authorityRisks AuthorityRisk.riskId) "authority risk"
  unique (ids plan.failureHandling.val FailureHandling.failureId) "failure"
  unique (ids plan.stopConditions.val StopCondition.stopId) "stop condition"
  unique (ids (plan.actions.val.flatMap fun action => action.expectedOutputs.val)
    ExpectedOutput.outputId) "expected output"

def LockedPlan.validate (locked : LockedPlan) : Except AflowError Unit :=
  require (verifyHash sha locked.lockHash locked.toJson) "locked-plan hash mismatch"

def Baseline.validate (baseline : Baseline) : Except AflowError Unit := do
  unique (baseline.entries.map fun entry => entry.path.val) "baseline path"
  unique (ids baseline.authorityHashes AuthorityHash.authorityId) "baseline authority"
  require (verifyHash sha baseline.contentHash baseline.toJson) "baseline content hash mismatch"

def Evidence.validate (item : Evidence) : Except AflowError Unit :=
  require (verifyHash sha item.contentHash item.toJson) "evidence content hash mismatch"

def BuildResult.validate (build : BuildResult) : Except AflowError Unit := do
  unique (ids build.outputs BuildOutput.outputId) "build output"
  unique (ids build.validationResults ValidationResult.validationId) "validation result"
  unique (ids build.prohibitedOutcomeChecks OutcomeCheck.outcomeId) "prohibited outcome check"
  require (verifyHash sha build.contentHash build.toJson) "build result content hash mismatch"

end

open Json

variable (sha : Sha256)

theorem canonicalHash_congr {first second : Json} (same : scrub first = scrub second) :
    canonicalHash sha first = canonicalHash sha second := by
  simp only [canonicalHash, canonicalText, same]

def LockedPlan.seal (locked : LockedPlan) : LockedPlan :=
  { locked with lockHash := canonicalHash sha locked.toJson }

def Baseline.seal (baseline : Baseline) : Baseline :=
  { baseline with contentHash := canonicalHash sha baseline.toJson }

def Evidence.seal (item : Evidence) : Evidence :=
  { item with contentHash := canonicalHash sha item.toJson }

def BuildResult.seal (build : BuildResult) : BuildResult :=
  { build with contentHash := canonicalHash sha build.toJson }

def SuccessDefinition.confirm (success : SuccessDefinition) : SuccessDefinition :=
  { success with confirmationHash := canonicalHash sha success.toJson }

theorem LockedPlan.seal_verifies (locked : LockedPlan) :
    verifyHash sha (locked.seal sha).lockHash (locked.seal sha).toJson = true := by
  refine beq_iff_eq.mpr (canonicalHash_congr sha ?_)
  simp [LockedPlan.toJson, LockedPlan.seal, scrub, hashFields, remove, version]

theorem Baseline.seal_verifies (baseline : Baseline) :
    verifyHash sha (baseline.seal sha).contentHash (baseline.seal sha).toJson = true := by
  refine beq_iff_eq.mpr (canonicalHash_congr sha ?_)
  simp [Baseline.toJson, Baseline.seal, scrub, hashFields, remove, version]

theorem Evidence.seal_verifies (item : Evidence) :
    verifyHash sha (item.seal sha).contentHash (item.seal sha).toJson = true := by
  refine beq_iff_eq.mpr (canonicalHash_congr sha ?_)
  simp [Evidence.toJson, Evidence.seal, scrub, hashFields, remove, version]

theorem BuildResult.seal_verifies (build : BuildResult) :
    verifyHash sha (build.seal sha).contentHash (build.seal sha).toJson = true := by
  refine beq_iff_eq.mpr (canonicalHash_congr sha ?_)
  simp [BuildResult.toJson, BuildResult.seal, scrub, hashFields, remove, version]

theorem SuccessDefinition.confirm_verifies (success : SuccessDefinition) :
    verifyHash sha (success.confirm sha).confirmationHash (success.confirm sha).toJson = true := by
  refine beq_iff_eq.mpr (canonicalHash_congr sha ?_)
  simp [SuccessDefinition.toJson, SuccessDefinition.confirm, scrub, hashFields, remove,
    Aflow.version, withoutConfirmation, hasKey, get?, Json.set]

end Audisor.Aflow
