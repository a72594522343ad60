/-
**What a request that no check objects to satisfies.**

* `EvidenceChecks.check_eq_nil`, `ReferenceChecks.check_eq_nil`, … — each check finds nothing exactly when
  its condition holds.
* `CoverageChecks.Covered` — the requirements, actions, validations and proofs that name each other.
* **`CleanRequest`** — the conditions of all checks. **`deterministicFindings_clean`** — an analysis has no
  deterministic finding exactly on the clean requests.
-/

import Audisor.Aflow.DependencyOrder

namespace Audisor.Aflow

open Json Relation

variable {sha : Sha256} {request : AnalysisRequest}

theorem optional_objection {condition : Prop} [Decidable condition] {finding : Finding} :
    (if condition then none else some finding) = none ↔ condition := by
  by_cases holds : condition
  · exact iff_of_true (if_pos holds) holds
  · rw [if_neg holds]
    exact iff_of_false (by rintro ⟨⟩) holds

theorem objection_eq_nil {condition : Prop} [Decidable condition] {finding : Finding} :
    (if condition then [] else [finding]) = [] ↔ condition := by
  by_cases holds : condition
  · exact iff_of_true (if_pos holds) holds
  · rw [if_neg holds]
    exact iff_of_false (List.cons_ne_nil _ _) holds

/-! ### Evidence and references -/

namespace EvidenceChecks

/-- Every document is sealed, and every reference resolves. -/
structure Evident (sha : Sha256) (request : AnalysisRequest) : Prop where
  distinct : (request.evidence.map Evidence.evidenceId).Nodup
  authority : verifyHash sha request.authorityEvidence.contentHash
    request.authorityEvidence.toJson = true
  repository : verifyHash sha request.repositoryEvidence.contentHash
    request.repositoryEvidence.toJson = true
  baseline : verifyHash sha request.baseline.contentHash request.baseline.toJson = true
  sealed : ∀ item ∈ request.evidence, verifyHash sha item.contentHash item.toJson = true
  resolve : ∀ reference ∈ references request.plan, resolves request reference.2 = true

/-- **The check of the evidence finds nothing** when all of it is sealed and resolves. -/
theorem check_eq_nil : check sha request = [] ↔ Evident sha request := by
  have items := @forall_zipIdx Evidence request.evidence fun item =>
    verifyHash sha item.contentHash item.toJson = true
  have refs := @forall_zipIdx (String × EvidenceRef) (references request.plan) fun reference =>
    resolves request reference.2 = true
  simp only [check, List.append_eq_nil_iff, List.map_eq_nil_iff, List.filterMap_eq_nil_iff,
    objections_eq_nil, optional_objection, items, refs, duplicates_eq_nil, ids_nodup, artifacts,
    List.forall_mem_cons, List.not_mem_nil, false_imp_iff, implies_true, and_true]
  constructor
  · rintro ⟨⟨⟨distinct, authority, repository, baseline⟩, sealed⟩, resolve⟩
    exact ⟨distinct, authority, repository, baseline, sealed, resolve⟩
  · intro evident
    exact ⟨⟨⟨evident.distinct, evident.authority, evident.repository, evident.baseline⟩,
      evident.sealed⟩, evident.resolve⟩

end EvidenceChecks

namespace ReferenceChecks

/-- The plan refers to the definition, the baseline and the authority bundle of the request. -/
structure Bound (sha : Sha256) (request : AnalysisRequest) : Prop where
  success : request.plan.successDefinitionReference = request.successDefinition.ref sha
  baseline : request.plan.repositoryBaselineReference = request.baseline.ref
  authority : request.plan.authorityBundleReference = request.authorityEvidence.ref

/-- **The check of the references finds nothing** when they are exact. -/
theorem check_eq_nil : check sha request = [] ↔ Bound sha request := by
  have exact_ (stated expected : ArtifactRef) : stated = expected ↔
      stated.artifactId.val = expected.artifactId.val ∧ stated.schemaId.val = expected.schemaId.val ∧
        stated.version.val = expected.version.val ∧
        stated.contentHash.val = expected.contentHash.val := by
    obtain ⟨_, _, _, _⟩ := stated
    obtain ⟨_, _, _, _⟩ := expected
    simp only [ArtifactRef.mk.injEq, Subtype.ext_iff]
  simp only [check, List.append_eq_nil_iff, List.filterMap_eq_nil_iff, successFields,
    List.forall_mem_cons, List.not_mem_nil, false_imp_iff, implies_true, and_true,
    optional_objection, objection_eq_nil]
  constructor
  · rintro ⟨⟨same, baseline⟩, authority⟩
    exact ⟨(exact_ _ _).mpr same, baseline, authority⟩
  · rintro ⟨success, baseline, authority⟩
    exact ⟨⟨(exact_ _ _).mp success, baseline⟩, authority⟩

end ReferenceChecks

/-! ### Coverage -/

namespace CoverageChecks

/-- What a blocking requirement needs: a row whose items exist, and an action and a validation. -/
structure RequirementCovered (plan : Plan) (id : Identifier) : Prop where
  row : ∃ row, byKey plan.requirementsCoverage.val CoverageRow.requirementId id = some row ∧
    (∀ action ∈ row.actionIds.val, action ∈ plan.actions.val.map Action.actionId) ∧
    ∀ validation ∈ row.validationIds.val,
      validation ∈ plan.validations.val.map Validation.validationId
  action : ∃ action ∈ dictValues plan.actions.val Action.actionId, id ∈ action.requirementIds.val
  validation : ∃ validation ∈ dictValues plan.validations.val Validation.validationId,
    id ∈ validation.requirementIds.val

theorem requirementCoverage_eq_nil {id : Identifier} :
    requirementCoverage request id = [] ↔ RequirementCovered request.plan id := by
  rw [requirementCoverage]
  cases found : byKey request.plan.requirementsCoverage.val CoverageRow.requirementId id with
  | none =>
    refine iff_of_false (List.cons_ne_nil _ _) fun covered => ?_
    obtain ⟨row, same, -⟩ := covered.row
    cases found.symm.trans same
  | some row =>
    have some_ {α : Type} {items : List α} {named : α → Bool} :
        ¬ (items.filter named).isEmpty = true ↔ ∃ item ∈ items, named item = true := by
      rw [List.isEmpty_iff, List.filter_eq_nil_iff]
      push Not
      rfl
    have objects {condition : Prop} [Decidable condition] {finding : Finding} :
        (if condition then [finding] else []) = [] ↔ ¬ condition := by
      by_cases holds : condition <;> simp [holds]
    simp only [List.append_eq_nil_iff, objects, Bool.or_eq_true, not_or, some_, decide_eq_true_eq,
      List.any_eq_true, not_exists, not_and, Decidable.not_not]
    constructor
    · rintro ⟨⟨actions, validations⟩, action, validation⟩
      exact ⟨⟨row, found, actions, validations⟩, action, validation⟩
    · rintro ⟨⟨row', same, actions, validations⟩, action, validation⟩
      cases found.symm.trans same
      exact ⟨⟨actions, validations⟩, action, validation⟩

/-- What a validation needs: a proof that covers its requirements, and actions that exist. -/
def ValidationBound (request : AnalysisRequest) (validation : Validation) : Prop :=
  ∃ proof, byKey request.successDefinition.proofObligations.val ProofObligation.proofId
      validation.proofId = some proof ∧
    (∀ id ∈ validation.requirementIds.val, id ∈ proof.requirementIds.val) ∧
    ∀ action ∈ validation.actionIds.val,
      action ∈ request.plan.actions.val.map Action.actionId

theorem validationReferences_eq_nil {validation : Validation} {index : Nat} :
    validationReferences request validation index = [] ↔ ValidationBound request validation := by
  simp only [validationReferences, ValidationBound]
  cases found : byKey request.successDefinition.proofObligations.val ProofObligation.proofId
      validation.proofId with
  | none =>
    refine iff_of_false (List.cons_ne_nil _ _) ?_
    rintro ⟨proof, ⟨⟩, -⟩
  | some proof =>
    simp only [List.append_eq_nil_iff, objection_eq_nil, List.map_eq_nil_iff,
      List.filter_eq_nil_iff, decide_eq_true_eq, Decidable.not_not, List.all_eq_true,
      Option.some.injEq, exists_eq_left']

/-- **The requirements, actions, validations and proofs that name each other.** -/
structure Covered (request : AnalysisRequest) : Prop where
  rows : ∀ row ∈ request.plan.requirementsCoverage.val,
    row.requirementId ∈ requirementIds request.successDefinition
  actions : ∀ action ∈ request.plan.actions.val, ∀ id ∈ action.requirementIds.val,
    id ∈ requirementIds request.successDefinition
  validations : ∀ validation ∈ request.plan.validations.val, ∀ id ∈ validation.requirementIds.val,
    id ∈ requirementIds request.successDefinition
  proofs : ∀ proof ∈ request.successDefinition.proofObligations.val,
    ∀ id ∈ proof.requirementIds.val, id ∈ requirementIds request.successDefinition
  blocking : ∀ id ∈ blocking request.successDefinition, RequirementCovered request.plan id
  bound : ∀ validation ∈ request.plan.validations.val, ValidationBound request validation

theorem forall_itemRequirements {α : Type} {field : String} {items : List α}
    {requirements : α → List Identifier} {property : Identifier → Prop} :
    (∀ reference ∈ itemRequirements field items requirements, property reference.1) ↔
      ∀ item ∈ items, ∀ id ∈ requirements item, property id := by
  rw [← forall_zipIdx fun item => ∀ id ∈ requirements item, property id]
  constructor
  · intro every pair listed id named
    exact every _ (List.mem_flatMap.mpr ⟨pair, listed, List.mem_map_of_mem named⟩)
  · rintro every reference listed
    obtain ⟨⟨item, index⟩, among, inner⟩ := List.mem_flatMap.mp listed
    obtain ⟨id, named, rfl⟩ := List.mem_map.mp inner
    exact every (item, index) among id named

/-- **The check of coverage finds nothing** when everything that is named exists. -/
theorem check_eq_nil : check request = [] ↔ Covered request := by
  have rows : (∀ reference ∈ request.plan.requirementsCoverage.val.zipIdx.map fun pair =>
        (pair.1.requirementId, "/plan/requirements_coverage/" ++ numeral pair.2 ++ "/requirement_id"),
        reference.1 ∈ requirementIds request.successDefinition) ↔
      ∀ row ∈ request.plan.requirementsCoverage.val,
        row.requirementId ∈ requirementIds request.successDefinition := by
    rw [List.forall_mem_map]
    exact forall_zipIdx fun row : CoverageRow =>
      row.requirementId ∈ requirementIds request.successDefinition
  have proofs := @forall_zipIdx ProofObligation request.successDefinition.proofObligations.val
    fun proof => ∀ id ∈ proof.requirementIds.val, id ∈ requirementIds request.successDefinition
  have validations := @forall_zipIdx Validation request.plan.validations.val
    fun validation => ValidationBound request validation
  have inner (proof : ProofObligation) := @forall_zipIdx Identifier proof.requirementIds.val
    fun id => id ∈ requirementIds request.successDefinition
  have unknown : unknownRequirements request = [] ↔
      ∀ reference ∈ requirementReferences request.plan,
        reference.1 ∈ requirementIds request.successDefinition := by
    simp only [unknownRequirements, List.map_eq_nil_iff, List.zipIdx_eq_nil_iff,
      List.filter_eq_nil_iff, decide_eq_true_eq, Decidable.not_not]
  simp only [check, List.append_eq_nil_iff, unknown, requirementReferences,
    List.forall_mem_append, rows, forall_itemRequirements, proofRequirements,
    List.flatMap_eq_nil_iff, objections_eq_nil, optional_objection, proofs, inner,
    requirementCoverage_eq_nil, validationReferences_eq_nil, validations]
  constructor
  · rintro ⟨⟨⟨⟨⟨rows, actions⟩, validations⟩, proofs⟩, blocking⟩, bound⟩
    exact ⟨rows, actions, validations, proofs, blocking, bound⟩
  · intro covered
    exact ⟨⟨⟨⟨⟨covered.rows, covered.actions⟩, covered.validations⟩, covered.proofs⟩,
      covered.blocking⟩, covered.bound⟩

end CoverageChecks

/-! ### Dependencies and activation -/

namespace DependencyChecks

theorem unresolved_eq_nil : unresolved request = [] ↔
    ∀ dependency ∈ request.plan.dependencies, dependency.status ≠ .unresolved := by
  rw [← forall_zipIdx fun dependency : Dependency => dependency.status ≠ .unresolved, unresolved,
    objections_eq_nil]
  simp only [ite_eq_right_iff, reduceCtorEq, imp_false, ne_eq]

/-- Every dependency exists, none is part of a cycle, and none is unresolved. -/
structure Settled (plan : Plan) : Prop where
  known : ∀ action ∈ plan.actions.val, ∀ dependency ∈ action.dependsOn.val,
    dependency ∈ plan.actions.val.map Action.actionId
  acyclic : ∀ id, ¬ TransGen (Needs plan) id id
  resolved : ∀ dependency ∈ plan.dependencies, dependency.status ≠ .unresolved

theorem settled_of_independent {plan : Plan}
    (independent : ∀ action ∈ plan.actions.val, action.dependsOn.val = [])
    (resolved : ∀ dependency ∈ plan.dependencies, dependency.status ≠ .unresolved) :
    Settled plan where
  known := by
    intro action listed dependency needed
    rw [independent action listed] at needed
    cases needed
  acyclic := by
    intro id cycle
    obtain ⟨other, -, -, action, listed, -, needed⟩ := TransGen.tail'_iff.mp cycle
    rw [independent action listed] at needed
    cases needed
  resolved := resolved

/-- **The check of dependencies finds nothing** when they are settled. -/
theorem check_eq_nil (distinct : (request.plan.actions.val.map Action.actionId).Nodup) :
    check request = [] ↔ Settled request.plan := by
  obtain ⟨found, appended, -⟩ := @cycles_append request (missing request)
  have walked : cycles request (missing request) = [] ↔
      missing request = [] ∧ cycles request (missing request) = missing request := by
    rw [appended, List.append_eq_nil_iff, List.append_right_eq_self]
  rw [check, List.append_eq_nil_iff, walked, missing_eq_nil, cycles_quiet_iff distinct,
    unresolved_eq_nil]
  constructor
  · rintro ⟨⟨known, acyclic⟩, resolved⟩
    exact ⟨known, acyclic, resolved⟩
  · intro settled
    exact ⟨⟨settled.known, settled.acyclic⟩, settled.resolved⟩

end DependencyChecks

namespace ActivationChecks

def actionProblems (request : AnalysisRequest) (action : Action) : List String :=
  problems (request.authorityEvidence.sources.val.map fun source => source.authorityId.val) action
    (byKey request.authorityEvidence.capabilities Capability.capabilityId action.capabilityId)

/-- **The check of activation finds nothing** when nothing is wrong with any action. -/
theorem check_eq_nil : check request = [] ↔
    ∀ action ∈ request.plan.actions.val, actionProblems request action = [] := by
  have each := @forall_zipIdx Action request.plan.actions.val fun action =>
    actionProblems request action = []
  rw [check, objections_eq_nil, ← each]
  simp only [optional_objection, List.isEmpty_iff]
  rfl

end ActivationChecks

/-! ### Clean requests -/

/-- The conditions of all authority checks. -/
structure AuthorityChecks.Permitted (plan : Plan) : Prop where
  targets : ∀ target ∈ plan.targetPaths.val, target.authorityStatus = .allowed ∧
    ∀ excluded ∈ plan.excludedPaths, overlaps target.path excluded.path = false
  actions : ∀ action ∈ plan.actions.val,
    (∀ path ∈ action.targetPaths, approved plan path = true) ∧
      ∀ output ∈ action.expectedOutputs.val, outputApproved plan action output = true
  risks : ∀ risk ∈ plan.authorityRisks, risk.status ≠ .unresolved

/-- **A request that no deterministic check objects to.** -/
structure CleanRequest (sha : Sha256) (request : AnalysisRequest) : Prop where
  success : request.successDefinition.validate sha = .ok ()
  plan : request.plan.validate = .ok ()
  evident : EvidenceChecks.Evident sha request
  bound : ReferenceChecks.Bound sha request
  covered : CoverageChecks.Covered request
  settled : DependencyChecks.Settled request.plan
  permitted : AuthorityChecks.Permitted request.plan
  active : ∀ action ∈ request.plan.actions.val, ActivationChecks.actionProblems request action = []

theorem Plan.validate_distinct {plan : Plan} (valid : plan.validate = .ok ()) :
    (plan.requirementsCoverage.val.map CoverageRow.requirementId).Nodup ∧
      (plan.actions.val.map Action.actionId).Nodup ∧
      (plan.validations.val.map Validation.validationId).Nodup := by
  simp only [Plan.validate, then_ok, unique_ok, ids_nodup] at valid
  exact ⟨valid.1, valid.2.1, valid.2.2.1⟩

/-- **The deterministic checks find nothing exactly on the clean requests.** -/
theorem deterministicFindings_clean :
    deterministicFindings sha request = [] ↔ CleanRequest sha request := by
  rw [deterministicFindings_eq_nil, domainFindings_eq_nil, checkFindings_eq_nil,
    EvidenceChecks.check_eq_nil, ReferenceChecks.check_eq_nil, CoverageChecks.check_eq_nil,
    AuthorityChecks.check_eq_nil, ActivationChecks.check_eq_nil]
  constructor
  · rintro ⟨⟨success, plan⟩, evident, bound, covered, settled, ⟨targets, actions, risks⟩, active⟩
    exact ⟨success, plan, evident, bound, covered,
      (DependencyChecks.check_eq_nil (Plan.validate_distinct plan).2.1).mp settled,
      ⟨targets, actions, risks⟩, active⟩
  · intro clean
    exact ⟨⟨clean.success, clean.plan⟩, clean.evident, clean.bound, clean.covered,
      (DependencyChecks.check_eq_nil (Plan.validate_distinct clean.plan).2.1).mpr clean.settled,
      ⟨clean.permitted.targets, clean.permitted.actions, clean.permitted.risks⟩, clean.active⟩

theorem analyze_ready_clean {reviewer : Option Reviewer} {decidedAt : String}
    {decision : AnalysisDecision}
    (returned : analyze sha request reviewer decidedAt = .ok decision)
    (ready : decision.executionReady = true) : CleanRequest sha request :=
  deterministicFindings_clean.mp (analyze_ready returned ready).1

/-- **A clean request without candidates is ready**, where no reviewer is given. -/
theorem CleanRequest.ready (clean : CleanRequest sha request)
    (silent : SemanticChecks.candidates request = [])
    (named : isIdentifier ("review." ++ request.analysisId.val) = true) (decidedAt : String) :
    ∃ decision, analyze sha request none decidedAt = .ok decision ∧
      decision.executionReady = true ∧ decision = decisionOn sha request [] [] decidedAt := by
  have found : reviewFindings request (nullReviewer request) = ([], []) := by
    rw [reviewFindings_nullReviewer, silent]
    rfl
  have reviewed : (nullReviewer request).admitted = true := Bool.and_eq_true_iff.mpr ⟨named, rfl⟩
  have returned := analyze_clean reviewed (deterministicFindings_clean.mpr clean) (by rw [found])
    (by rw [found]; exact List.forall_mem_nil _) (by rw [found]; exact List.nodup_nil) decidedAt
  rwa [found] at returned

end Audisor.Aflow
