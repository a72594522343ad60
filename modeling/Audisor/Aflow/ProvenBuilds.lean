/-
**A proven build is supported by its evidence.**

* `Cites`, `Evidences` — what a build cites for a requirement, and the evidence that it is.
* `Supported` — outputs, passed validations and resolved evidence for a requirement.
  `AbsenceShown` — no prohibited outcome is present, and every one has been checked for.
* `base_iff` — a requirement with both is `base_proven`, and has no evidence against it.
* `smallBuild` — a build of one requirement, which evaluation accepts.
* **`proven_sound`** — when the decision is `proven`, the documents are bound to each other by exact
  references, the drift does not block, and every requirement is supported.
-/

import Audisor.Aflow.EvaluationReturns
import Audisor.Aflow.Invariants

namespace Audisor.Aflow

variable {sha : Sha256}

/-! ### What is cited -/

/-- The evidence that a reference is to, with the exact hash. -/
def Evidences (evidence : List Evidence) (ref : EvidenceRef) (item : Evidence) : Prop :=
  item ∈ evidence ∧ item.evidenceId = ref.evidenceId ∧ item.contentHash = ref.contentHash

/-- What a build cites for a requirement, in an output or in the result of a validation. -/
def TraceInput.Cites (given : TraceInput) (requirement : Requirement) (ref : EvidenceRef) : Prop :=
  (∃ output ∈ given.buildResult.outputs,
    requirement.requirementId ∈ output.requirementIds.val ∧ ref ∈ output.evidenceReferences.val) ∨
  ∃ validation ∈ given.plan.validations.val,
    requirement.requirementId ∈ validation.requirementIds.val ∧
      ∃ result ∈ given.buildResult.validationResults,
        result.validationId = validation.validationId ∧ ref ∈ result.evidenceReferences

/-- Ids that occur once: those of the evidence, and those of the validations with a result. -/
structure TraceInput.Distinct (given : TraceInput) : Prop where
  evidence : (given.evidence.map Evidence.evidenceId).Nodup
  results : (given.buildResult.validationResults.map ValidationResult.validationId).Nodup

theorem Admissible.distinct {input : EvaluationInput} (admissible : Admissible sha input) :
    input.Distinct := by
  refine ⟨admissible.evidenceIds, ?_⟩
  have valid := admissible.buildResult
  simp only [BuildResult.validate, then_ok, unique_ok, ids_nodup] at valid
  exact valid.2.1

section

variable {given : TraceInput} (distinct : given.Distinct) {requirement : Requirement}

include distinct

theorem resolve_iff {ref : EvidenceRef} {item : Evidence} :
    resolve given.evidence ref = some item ↔ Evidences given.evidence ref item := by
  refine ⟨resolve_some, fun ⟨member, named, same⟩ => ?_⟩
  rw [resolve, ← named, byKey_mem distinct.evidence member, Option.filter_eq_some_iff]
  exact ⟨rfl, by simpa using same⟩

theorem resultOf_iff {validation : Validation} {result : ValidationResult} :
    given.resultOf validation = some result ↔
      result ∈ given.buildResult.validationResults ∧
        result.validationId = validation.validationId := by
  refine ⟨byKey_some, fun ⟨member, named⟩ => ?_⟩
  rw [TraceInput.resultOf, ← named, byKey_mem distinct.results member]

theorem mem_citedRefs {ref : EvidenceRef} :
    ref ∈ given.citedRefs requirement ↔ given.Cites requirement ref := by
  simp only [TraceInput.citedRefs, List.mem_eraseDups, List.mem_append, List.mem_flatMap,
    List.mem_filterMap, resultOf_iff distinct, TraceInput.outputs, TraceInput.plans,
    List.mem_filter, decide_eq_true_eq, TraceInput.Cites]
  grind

theorem mem_visible {item : Evidence} :
    item ∈ given.visible requirement ↔
      ∃ ref, given.Cites requirement ref ∧ Evidences given.evidence ref item := by
  simp only [TraceInput.visible, List.mem_filterMap, mem_citedRefs distinct, resolve_iff distinct]

theorem mem_trusted {item : Evidence} :
    item ∈ given.trusted requirement ↔
      ∃ ref, given.Cites requirement ref ∧ Evidences given.evidence ref item ∧
        isTrustedEvidence item = true := by
  rw [TraceInput.trusted, List.mem_filter, mem_visible distinct]
  grind

end

/-! ### Support -/

/-- **The evidence that a requirement rests on.** -/
structure TraceInput.Supported (given : TraceInput) (requirement : Requirement) : Prop where
  output : ∃ output ∈ given.buildResult.outputs,
    requirement.requirementId ∈ output.requirementIds.val
  validation : ∃ validation ∈ given.plan.validations.val,
    requirement.requirementId ∈ validation.requirementIds.val
  passed : ∀ validation ∈ given.plan.validations.val,
    requirement.requirementId ∈ validation.requirementIds.val →
      ∃ result ∈ given.buildResult.validationResults,
        result.validationId = validation.validationId ∧ result.status = .passed
  resolves : ∀ ref, given.Cites requirement ref → ∃ item, Evidences given.evidence ref item
  uncontradicted : ∀ ref item, given.Cites requirement ref → Evidences given.evidence ref item →
    item.source.evidenceStatus ≠ .contradicted
  covered : ∀ proof ∈ given.successDefinition.proofObligations.val,
    requirement.requirementId ∈ proof.requirementIds.val →
      ∀ types, proof.requiredEvidenceTypes = some types → ∀ type ∈ types.val,
        ∃ ref item, given.Cites requirement ref ∧ Evidences given.evidence ref item ∧
          isTrustedEvidence item = true ∧ item.evidenceType = type
  environment : given.buildResult.observedEnvironment.matchesRequiredEnvironment = some true

/-- No prohibited outcome is present; each has been checked for, and what a check cites is trusted. -/
structure TraceInput.AbsenceShown (given : TraceInput) : Prop where
  absent : ∀ check ∈ given.buildResult.prohibitedOutcomeChecks, check.present = false
  checked : ∀ id, id ∈ given.buildResult.checkedOutcomes ↔ id ∈ given.successDefinition.outcomeIds
  trusted : ∀ check ∈ given.buildResult.prohibitedOutcomeChecks, ∀ ref ∈ check.evidenceReferences,
    ∃ item, Evidences given.evidence ref item ∧ isTrustedEvidence item = true

section

variable {given : TraceInput} (distinct : given.Distinct) {requirement : Requirement}

include distinct

theorem citesTrusted_iff {ref : EvidenceRef} :
    citesTrusted given.evidence ref = true ↔
      ∃ item, Evidences given.evidence ref item ∧ isTrustedEvidence item = true := by
  rw [citesTrusted, Option.any_eq_true]
  simp only [resolve_iff distinct]

theorem absence_iff :
    prohibitedPresent given.buildResult = false ∧ given.absenceEvidenced = true ↔
      given.AbsenceShown := by
  simp only [prohibitedPresent, TraceInput.absenceEvidenced, prohibitedAbsenceEvidenced, sameMembers,
    Bool.and_eq_true, List.all_eq_true, citesTrusted_iff distinct, List.any_eq_false,
    Bool.not_eq_true, decide_eq_true_eq]
  constructor
  · rintro ⟨absent, ⟨forth, back⟩, trusted⟩
    exact ⟨absent, fun id => ⟨back id, forth id⟩, trusted⟩
  · intro shown
    exact ⟨shown.absent, ⟨fun id => (shown.checked id).mpr, fun id => (shown.checked id).mp⟩,
      shown.trusted⟩

theorem validationsPass_iff :
    given.validationsPass requirement = true ↔
      (∃ validation ∈ given.plan.validations.val,
        requirement.requirementId ∈ validation.requirementIds.val) ∧
      ∀ validation ∈ given.plan.validations.val,
        requirement.requirementId ∈ validation.requirementIds.val →
          ∃ result ∈ given.buildResult.validationResults,
            result.validationId = validation.validationId ∧ result.status = .passed := by
  rw [TraceInput.validationsPass, Bool.and_eq_true, Bool.not_eq_true',
    List.isEmpty_eq_false_iff_exists_mem]
  simp only [List.all_eq_true, Option.any_eq_true, resultOf_iff distinct, decide_eq_true_eq,
    TraceInput.plans, List.mem_filter, and_imp, and_assoc]

theorem refsValid_iff (output : ∃ output ∈ given.buildResult.outputs,
    requirement.requirementId ∈ output.requirementIds.val) :
    given.refsValid requirement = true ↔
      ∀ ref, given.Cites requirement ref → ∃ item, Evidences given.evidence ref item := by
  have cited : (given.citedRefs requirement).isEmpty = false := by
    obtain ⟨item, member, named⟩ := output
    obtain ⟨ref, listed⟩ := List.exists_mem_of_ne_nil _ item.evidenceReferences.property
    refine List.isEmpty_eq_false_iff_exists_mem.mpr ⟨ref, (mem_citedRefs distinct).mpr ?_⟩
    exact Or.inl ⟨item, member, named, listed⟩
  rw [TraceInput.refsValid, cited, Bool.not_false, Bool.and_true, decide_eq_true_iff,
    TraceInput.visible, List.length_filterMap_eq_countP, List.countP_eq_length]
  simp only [mem_citedRefs distinct, Option.isSome_iff_exists, resolve_iff distinct]

theorem typesMatch_iff :
    given.typesMatch requirement = true ↔
      ∀ proof ∈ given.successDefinition.proofObligations.val,
        requirement.requirementId ∈ proof.requirementIds.val →
          ∀ types, proof.requiredEvidenceTypes = some types → ∀ type ∈ types.val,
            ∃ ref item, given.Cites requirement ref ∧ Evidences given.evidence ref item ∧
              isTrustedEvidence item = true ∧ item.evidenceType = type := by
  simp only [TraceInput.typesMatch, TraceInput.requiredTypes, TraceInput.proofs, List.all_eq_true,
    List.mem_flatMap, List.mem_filter, decide_eq_true_eq, List.mem_map, mem_trusted distinct]
  constructor
  · intro all proof member named types required type listed
    obtain ⟨item, ⟨ref, cited, evidenced, trusted⟩, same⟩ :=
      all type ⟨proof, ⟨member, named⟩, by rw [required]; exact listed⟩
    exact ⟨ref, item, cited, evidenced, trusted, same⟩
  · rintro all type ⟨proof, ⟨member, named⟩, listed⟩
    cases required : proof.requiredEvidenceTypes with
    | none =>
      rw [required] at listed
      cases listed
    | some types =>
      rw [required] at listed
      obtain ⟨ref, item, cited, evidenced, trusted, same⟩ :=
        all proof member named types required type listed
      exact ⟨item, ⟨ref, cited, evidenced, trusted⟩, same⟩

theorem contradicted_iff :
    given.contradicted requirement = false ↔ given.buildResult.status ≠ .failed ∧
      ∀ ref item, given.Cites requirement ref → Evidences given.evidence ref item →
        item.source.evidenceStatus ≠ .contradicted := by
  simp only [TraceInput.contradicted, Bool.or_eq_false_iff, decide_eq_false_iff_not,
    List.any_eq_false, decide_eq_true_eq, mem_visible distinct]
  grind

/-- **A requirement that is `base_proven`, with no evidence against it**, is a supported one. -/
theorem base_iff :
    given.contradicted requirement = false ∧ given.baseProven requirement = true ↔
      given.buildResult.status ≠ .failed ∧ given.Supported requirement ∧ given.AbsenceShown := by
  have named : (given.outputs requirement).isEmpty = false ↔ ∃ output ∈ given.buildResult.outputs,
      requirement.requirementId ∈ output.requirementIds.val := by
    rw [TraceInput.outputs, List.isEmpty_eq_false_iff_exists_mem]
    simp only [List.mem_filter, decide_eq_true_eq]
  simp only [TraceInput.baseProven, Bool.and_eq_true, Bool.not_eq_true', named, and_assoc,
    absence_iff distinct, validationsPass_iff distinct, typesMatch_iff distinct,
    contradicted_iff distinct, TraceInput.environmentMatches, decide_eq_true_eq]
  constructor
  · rintro ⟨finished, uncontradicted, output, validation, passed, valid, environment, covered, absence⟩
    have resolves := (refsValid_iff distinct output).mp valid
    exact ⟨finished, ⟨output, validation, passed, resolves, uncontradicted, covered, environment⟩,
      absence⟩
  · rintro ⟨finished, supported, absence⟩
    exact ⟨finished, supported.uncontradicted, supported.output, supported.validation,
      supported.passed, (refsValid_iff distinct supported.output).mpr supported.resolves,
      supported.environment, supported.covered, absence⟩

end

/-! ### Proven decisions -/

/-- **The documents of an evaluation are bound to each other**: each reference states the id, the
version and the hash of the document that it is to, and the hash that a document states is its own. -/
structure Bound (sha : Sha256) (input : EvaluationInput) : Prop where
  lock : input.buildResult.lockedPlanReference = input.lockedPlan.ref
  plan : input.lockedPlan.planReference = input.plan.ref sha
  success : input.lockedPlan.successDefinitionReference = input.successDefinition.ref sha
  baseline : input.lockedPlan.baselineReference = input.lockedBaseline.ref
  postBuild : input.buildResult.postBuildBaselineReference = input.postBuildBaseline.ref
  lockHash : input.lockedPlan.lockHash = canonicalHash sha input.lockedPlan.toJson
  baselineHash : input.lockedBaseline.contentHash = canonicalHash sha input.lockedBaseline.toJson
  postBuildHash : input.postBuildBaseline.contentHash =
    canonicalHash sha input.postBuildBaseline.toJson

theorem Admissible.bound {input : EvaluationInput} (admissible : Admissible sha input) :
    Bound sha input := by
  obtain ⟨locked, _, _, _, before, after, _, _, lock, plan, success, baseline, postBuild, _⟩ :=
    admissible
  simp only [LockedPlan.validate, Baseline.validate, then_ok, require_ok, verifyHash,
    beq_iff_eq] at locked before after
  exact ⟨lock, plan, success, baseline, postBuild, locked, before.2.2, after.2.2⟩

/-! ### A small build -/

section

def word (text : String) (some : (text != "") = true := by exact Eq.refl true) : Words :=
  ⟨text, bne_iff_ne.mp some⟩

def identifier (text : String) (valid : isIdentifier text = true := by exact Eq.refl true) :
    Identifier := ⟨text, valid⟩

def smallSource : SourceReference :=
  { sourceType := ⟨"user_intent", by decide⟩, sourceId := word "user", location := word "request"
    evidenceStatus := .verified }

def smallRequirement : Requirement :=
  { requirementId := identifier "requirement-1", statement := word "It runs."
    observableOutcome := word "It has run.", qualityDimensions := ⟨[.correctness], by decide⟩
    priority := .blocking, sourceReferences := ⟨[smallSource], List.cons_ne_nil _ _⟩ }

variable (sha : Sha256)

def smallSuccess (outcomes : List ProhibitedOutcome) : SuccessDefinition :=
  SuccessDefinition.confirm sha
    { successDefinitionId := identifier "success-1", version := schemaVersion
      successStatement := word "It runs."
      actors := ⟨[⟨identifier "actor-1", word "user", word "to run it"⟩], List.cons_ne_nil _ _⟩
      requirements := ⟨[smallRequirement], List.cons_ne_nil _ _⟩
      prohibitedOutcomes := outcomes, nonGoals := []
      proofObligations := ⟨[{
        proofId := identifier "proof-1", requirementIds := ⟨[identifier "requirement-1"], by simp⟩
        proofType := ⟨"command", by decide⟩, executor := .codex, procedure := word "Run it."
        passCondition := word "It ends.", failCondition := word "It fails." }], List.cons_ne_nil _ _⟩
      confirmedAt := "2026-01-01T00:00:00Z", confirmationHash := canonicalHash sha .null }

def smallBaseline : Baseline :=
  Baseline.seal sha
    { baselineId := identifier "baseline-1", repositoryRoot := ⟨"/repository", by decide⟩
      repositoryKind := ⟨"git", by decide⟩, gitState := ⟨"committed", by decide⟩
      dirtyState := ⟨"clean", by decide⟩, scope := ⟨⟨"global", by decide⟩, [], []⟩, entries := []
      authorityHashes := [], capturedAt := "2026-01-01T00:00:00Z"
      contentHash := canonicalHash sha .null }

def smallPlan (outcomes : List ProhibitedOutcome) : Plan :=
  { planId := identifier "plan-1", version := schemaVersion
    successDefinitionReference := (smallSuccess sha outcomes).ref sha, objective := word "Run it."
    interpretation := word "Run it once.", repositoryBaselineReference := (smallBaseline sha).ref
    authorityBundleReference := (smallBaseline sha).ref
    targetPaths := ⟨[⟨⟨"main", by decide⟩, word "It is here.", .allowed⟩], List.cons_ne_nil _ _⟩
    excludedPaths := []
    requirementsCoverage := ⟨[⟨identifier "requirement-1", ⟨[identifier "action-1"], by simp⟩,
      ⟨[identifier "validation-1"], by simp⟩⟩], List.cons_ne_nil _ _⟩
    actions := ⟨[{
      actionId := identifier "action-1", objective := word "Run it."
      requirementIds := ⟨[identifier "requirement-1"], by simp⟩
      capabilityId := identifier "capability-1", owner := .codex
      phase := ⟨"implementation", by decide⟩, targetPaths := [⟨"main", by decide⟩]
      dependsOn := ⟨[], List.nodup_nil⟩, prerequisites := []
      activation := { activationType := .automatic, currentlyAuthorized := true }
      expectedOutputs := ⟨[⟨identifier "output-1", word "a run", none⟩], List.cons_ne_nil _ _⟩ }],
      List.cons_ne_nil _ _⟩
    validations := ⟨[{
      validationId := identifier "validation-1"
      requirementIds := ⟨[identifier "requirement-1"], by simp⟩
      actionIds := ⟨[identifier "action-1"], by simp⟩, proofId := identifier "proof-1"
      proofType := ⟨"command", by decide⟩, executor := .codex, procedure := word "Run it."
      passCondition := word "It ends.", failCondition := word "It fails."
      evidenceExpected := ⟨[⟨"command_result", by decide⟩], by simp⟩ }], List.cons_ne_nil _ _⟩
    dependencies := [], assumptions := [], authorityRisks := []
    failureHandling := ⟨[⟨identifier "failure-1", word "It fails.", ⟨"block", by decide⟩,
      word "It runs again."⟩], List.cons_ne_nil _ _⟩
    stopConditions := ⟨[⟨identifier "stop-1", word "It hangs.", ⟨"stop_action", by decide⟩,
      word "It runs again."⟩], List.cons_ne_nil _ _⟩ }

def smallLock (outcomes : List ProhibitedOutcome) : LockedPlan :=
  LockedPlan.seal sha
    { lockId := identifier "lock-1", analysisDecisionReference := (smallBaseline sha).ref
      planReference := (smallPlan sha outcomes).ref sha
      successDefinitionReference := (smallSuccess sha outcomes).ref sha
      authorityBundleReference := (smallBaseline sha).ref
      baselineReference := (smallBaseline sha).ref, lockedBy := ⟨"aflow", by decide⟩
      lockedAt := "2026-01-01T00:00:00Z", lockHash := canonicalHash sha .null }

def smallEvidence (collector : Collector) : Evidence :=
  Evidence.seal sha
    { evidenceId := identifier "evidence-1", evidenceType := ⟨"command_result", by decide⟩
      claim := word "It ended.", source := smallSource, collectedBy := collector
      collectedAt := "2026-01-01T00:00:00Z", contentHash := canonicalHash sha .null
      visibility := .buildResultInput, locator := ⟨.path, word "main"⟩ }

def smallResult (collector : Collector) (outcomes : List ProhibitedOutcome)
    (checks : List OutcomeCheck) : BuildResult :=
  BuildResult.seal sha
    { buildResultId := identifier "build-1", lockedPlanReference := (smallLock sha outcomes).ref
      producedBy := ⟨"codex", by decide⟩, startedAt := "2026-01-01T00:00:00Z"
      finishedAt := "2026-01-01T00:00:01Z", status := .completed
      observedEnvironment := ⟨identifier "environment-1", word "a machine", some true⟩
      outputs := [{
        outputId := identifier "output-1"
        requirementIds := ⟨[identifier "requirement-1"], List.cons_ne_nil _ _⟩
        description := word "a run"
        evidenceReferences := ⟨[(smallEvidence sha collector).ref], List.cons_ne_nil _ _⟩ }]
      validationResults := [⟨identifier "validation-1", .passed, []⟩]
      prohibitedOutcomeChecks := checks
      postBuildBaselineReference := (smallBaseline sha).ref
      contentHash := canonicalHash sha .null }

/-- **A build of one requirement**, which cites one piece of evidence. -/
def smallBuild (collector : Collector) (outcomes : List ProhibitedOutcome)
    (checks : List OutcomeCheck) : EvaluationInput :=
  { lockedPlan := smallLock sha outcomes, successDefinition := smallSuccess sha outcomes
    plan := smallPlan sha outcomes, buildResult := smallResult sha collector outcomes checks
    evidence := [smallEvidence sha collector], lockedBaseline := smallBaseline sha
    postBuildBaseline := smallBaseline sha, observedAt := "2026-01-01T00:00:02Z"
    decidedAt := "2026-01-01T00:00:03Z" }

variable (collector : Collector) {outcomes : List ProhibitedOutcome} {checks : List OutcomeCheck}

theorem smallBuild_admissible (outcomeIds : (outcomes.map ProhibitedOutcome.outcomeId).Nodup)
    (checked : checks.map OutcomeCheck.outcomeId = outcomes.map ProhibitedOutcome.outcomeId) :
    Admissible sha (smallBuild sha collector outcomes checks) where
  lockedPlan := require_ok.mpr (LockedPlan.seal_verifies sha _)
  successDefinition := by
    refine then_ok.mpr ⟨unique_ok.mpr (List.nodup_singleton _), then_ok.mpr
      ⟨unique_ok.mpr (List.nodup_singleton _), then_ok.mpr
      ⟨unique_ok.mpr (ids_nodup.mpr outcomeIds), then_ok.mpr ⟨unique_ok.mpr List.nodup_nil,
      then_ok.mpr ⟨unique_ok.mpr (List.nodup_singleton _), require_ok.mpr ?_⟩⟩⟩⟩⟩
    exact SuccessDefinition.confirm_verifies sha _
  plan := by rfl
  buildResult := by
    refine then_ok.mpr ⟨unique_ok.mpr (List.nodup_singleton _), then_ok.mpr
      ⟨unique_ok.mpr (List.nodup_singleton _), then_ok.mpr
      ⟨unique_ok.mpr (ids_nodup.mpr ?_), require_ok.mpr ?_⟩⟩⟩
    · exact checked ▸ outcomeIds
    · exact BuildResult.seal_verifies sha _
  lockedBaseline := then_ok.mpr ⟨rfl, then_ok.mpr ⟨rfl,
    require_ok.mpr (Baseline.seal_verifies sha _)⟩⟩
  postBuildBaseline := then_ok.mpr ⟨rfl, then_ok.mpr ⟨rfl,
    require_ok.mpr (Baseline.seal_verifies sha _)⟩⟩
  evidence := List.forall_mem_singleton.mpr (require_ok.mpr (Evidence.seal_verifies sha _))
  evidenceIds := List.nodup_singleton _
  bindsLock := rfl
  bindsPlan := rfl
  bindsSuccess := rfl
  bindsBaseline := rfl
  bindsPostBuild := rfl
  requirements := List.forall_mem_singleton.mpr (List.forall_mem_singleton.mpr List.mem_cons_self)
  validations := List.forall_mem_singleton.mpr List.mem_cons_self
  outcomes := by
    intro id listed
    change id ∈ outcomes.map ProhibitedOutcome.outcomeId
    rw [← checked]
    exact listed

theorem smallEvidence_silent : ∀ item ∈ (smallBuild sha collector outcomes checks).evidence,
    ∀ dimension, statedQuality dimension item = none :=
  List.forall_mem_singleton.mpr fun dimension => by
    have unrated : search dimension ("It ended." ++ " " ++ "").toList = none := by
      cases dimension <;> decide
    exact congrArg (Option.map _) unrated

theorem smallBuild_fits : Fits (smallBuild sha collector outcomes checks) where
  drift := (by decide : isIdentifier ("drift." ++ "baseline-1") = true)
  trace := (by decide : isIdentifier ("trace." ++ "build-1") = true)
  evaluation := (by decide : isIdentifier ("evaluation." ++ "build-1") = true)
  failures := List.forall_mem_singleton.mpr (by decide)
  apart := List.forall_mem_singleton.mpr (by decide)
  rated _ _ := statesKnown_of_silent (smallEvidence_silent sha collector)

/-- **The small build is evaluated.** -/
theorem smallBuild_returns (outcomes : List ProhibitedOutcome) (checks : List OutcomeCheck)
    (outcomeIds : (outcomes.map ProhibitedOutcome.outcomeId).Nodup)
    (checked : checks.map OutcomeCheck.outcomeId = outcomes.map ProhibitedOutcome.outcomeId) :
    ∃ trace evaluation,
      evaluateResult sha (smallBuild sha collector outcomes checks) = .ok (trace, evaluation) :=
  evaluateResult_returns (smallBuild_admissible sha collector outcomeIds checked)
    (smallBuild_fits sha collector)

theorem smallBuild_steady : (smallBuild sha collector outcomes checks).driftBlocks = false := by
  have none : baselineChanges (smallBaseline sha) (smallBaseline sha) = [] :=
    baselineChanges_same rfl rfl rfl rfl
  exact congrArg (fun changes => (driftVerdict changes).blocks) none

theorem smallBuild_cites {ref : EvidenceRef} :
    (smallBuild sha collector outcomes checks).Cites smallRequirement ref ↔
      ref = (smallEvidence sha collector).ref := by
  constructor
  · rintro (⟨output, member, _, listed⟩ | ⟨_, _, _, result, member, _, listed⟩)
    · obtain rfl := List.mem_singleton.mp member
      exact List.mem_singleton.mp listed
    · obtain rfl := List.mem_singleton.mp member
      cases listed
  · rintro rfl
    exact Or.inl ⟨_, List.mem_singleton_self _, List.mem_singleton_self _, List.mem_singleton_self _⟩

theorem smallBuild_evidences {item : Evidence} :
    Evidences (smallBuild sha collector outcomes checks).evidence (smallEvidence sha collector).ref
      item ↔ item = smallEvidence sha collector := by
  constructor
  · exact fun evidenced => List.mem_singleton.mp evidenced.1
  · rintro rfl
    exact ⟨List.mem_singleton_self _, rfl, rfl⟩

theorem smallBuild_supported :
    (smallBuild sha collector outcomes checks).Supported smallRequirement where
  output := ⟨_, List.mem_singleton_self _, List.mem_singleton_self _⟩
  validation := ⟨_, List.mem_singleton_self _, List.mem_singleton_self _⟩
  passed := List.forall_mem_singleton.mpr fun _ => ⟨_, List.mem_singleton_self _, rfl, rfl⟩
  resolves ref cited := by
    rw [(smallBuild_cites sha collector).mp cited]
    exact ⟨_, (smallBuild_evidences sha collector).mpr rfl⟩
  uncontradicted ref item cited evidenced := by
    rw [(smallBuild_cites sha collector).mp cited] at evidenced
    rw [(smallBuild_evidences sha collector).mp evidenced]
    exact (by decide : EvidenceStatus.verified ≠ .contradicted)
  covered := List.forall_mem_singleton.mpr fun _ types required => nomatch required
  environment := rfl

theorem smallBuild_proves
    (shown : (smallBuild sha collector outcomes checks).AbsenceShown)
    (outcomeIds : (outcomes.map ProhibitedOutcome.outcomeId).Nodup)
    (checked : checks.map OutcomeCheck.outcomeId = outcomes.map ProhibitedOutcome.outcomeId) :
    (smallBuild sha collector outcomes checks).Proves smallRequirement := by
  have distinct := (smallBuild_admissible sha collector outcomeIds checked).distinct
  obtain ⟨uncontradicted, base⟩ := (base_iff distinct).mpr
    ⟨by exact (by decide : BuildStatus.completed ≠ .failed), smallBuild_supported sha collector, shown⟩
  refine ⟨uncontradicted, base, List.forall_mem_singleton.mpr ⟨none, ?_, ?_⟩⟩
  · exact explicitQuality_silent (smallEvidence_silent sha collector) .correctness
  · have applicable : QualityDimension.correctness ∈ smallRequirement.qualityDimensions.val :=
      List.mem_singleton_self _
    rw [TraceInput.qualityStatus, if_pos applicable, if_neg (by simp)]
    exact if_pos base

theorem smallBuild_proven
    (shown : (smallBuild sha collector outcomes checks).AbsenceShown)
    (outcomeIds : (outcomes.map ProhibitedOutcome.outcomeId).Nodup)
    (checked : checks.map OutcomeCheck.outcomeId = outcomes.map ProhibitedOutcome.outcomeId) :
    ∃ trace evaluation,
      evaluateResult sha (smallBuild sha collector outcomes checks) = .ok (trace, evaluation) ∧
        evaluation.decision = .proven := by
  obtain ⟨trace, evaluation, returned⟩ := smallBuild_returns sha collector outcomes checks outcomeIds checked
  obtain ⟨run⟩ := evaluateResult_ok.mp returned
  have distinct := (smallBuild_admissible sha collector outcomeIds checked).distinct
  refine ⟨trace, evaluation, returned, run.decision_proven.mpr
    ⟨smallBuild_steady sha collector, ((absence_iff distinct).mpr shown).1, ?_⟩⟩
  exact List.forall_mem_singleton.mpr (smallBuild_proves sha collector shown outcomeIds checked)

theorem smallBuild_nothingProhibited : (smallBuild sha collector [] []).AbsenceShown :=
  ⟨List.forall_mem_nil _, fun _ => Iff.rfl, List.forall_mem_nil _⟩

end

variable {input : EvaluationInput} {trace : RequirementTrace} {evaluation : FinalEvaluation}

/-- **Soundness of a proven evaluation.** -/
theorem proven_sound (returned : evaluateResult sha input = .ok (trace, evaluation))
    (proven : evaluation.decision = .proven) :
    Bound sha input ∧
      (∃ drift, input.drift sha = .ok drift ∧ drift.blocking = false) ∧
      input.buildResult.status ≠ .failed ∧
      ∀ requirement ∈ input.successDefinition.requirements.val, input.Supported requirement := by
  obtain ⟨run⟩ := evaluateResult_ok.mp returned
  obtain ⟨clear, _, proves⟩ := run.decision_proven.mp proven
  have based (requirement : Requirement)
      (required : requirement ∈ input.successDefinition.requirements.val) :
      input.buildResult.status ≠ .failed ∧ input.Supported requirement ∧ input.AbsenceShown :=
    (base_iff run.admissible.distinct).mp
      ⟨(proves requirement required).uncontradicted, (proves requirement required).base⟩
  obtain ⟨first, required⟩ := List.exists_mem_of_ne_nil _ input.successDefinition.requirements.property
  exact ⟨run.admissible.bound, ⟨run.drift, run.drifted, run.driftBlocks.trans clear⟩,
    (based first required).1, fun requirement required => (based requirement required).2.1⟩

theorem proven_sound_small : ∃ trace evaluation,
    evaluateResult sha256 (smallBuild sha256 .deterministicLocal [] []) = .ok (trace, evaluation) ∧
      Bound sha256 (smallBuild sha256 .deterministicLocal [] []) ∧
      (∃ drift, (smallBuild sha256 .deterministicLocal [] []).drift sha256 = .ok drift ∧
        drift.blocking = false) ∧
      (smallBuild sha256 .deterministicLocal [] []).buildResult.status ≠ .failed ∧
      ∀ requirement ∈ (smallBuild sha256 .deterministicLocal [] []).successDefinition.requirements.val,
        (smallBuild sha256 .deterministicLocal [] []).Supported requirement := by
  obtain ⟨trace, evaluation, returned, proven⟩ := smallBuild_proven sha256 .deterministicLocal
    (smallBuild_nothingProhibited sha256 .deterministicLocal) List.nodup_nil rfl
  exact ⟨trace, evaluation, returned, proven_sound returned proven⟩

end Audisor.Aflow
