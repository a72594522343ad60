/-
**What an analysis finds.**

* `Finding`, `makeFinding` — a gap of a plan, as `make_finding` fills it in. Its texts are plain
  strings, which the schema of a finding may refuse: `Finding.admitted`.
* `requestEvidenceRef` — the evidence that a check cites.
* `AnalysisDecision`, `AnalysisDecision.validate` — the decision, and what it must satisfy.
-/

import Audisor.Aflow.AnalysisRequest

namespace Audisor.Aflow

open Json

/-! ### Words -/

inductive GapType where
  | structuralMissing | structuralInvalid | brokenReference | coverageGap | dependencyGap
  | unsupportedAssumption | terminologyDrift | interpretationDrift | capabilityGap
  | systemBoundaryGap | similarityOverlapGap | sequenceActivationGap | validationEvidenceGap
  | outputEnvironmentGap | authorityAmbiguity | contradiction | relevantDrift | otherMaterial
  deriving DecidableEq, Repr

def GapType.value : GapType → String
  | .structuralMissing => "structural_missing"
  | .structuralInvalid => "structural_invalid"
  | .brokenReference => "broken_reference"
  | .coverageGap => "coverage_gap"
  | .dependencyGap => "dependency_gap"
  | .unsupportedAssumption => "unsupported_assumption"
  | .terminologyDrift => "terminology_drift"
  | .interpretationDrift => "interpretation_drift"
  | .capabilityGap => "capability_gap"
  | .systemBoundaryGap => "system_boundary_gap"
  | .similarityOverlapGap => "similarity_overlap_gap"
  | .sequenceActivationGap => "sequence_activation_gap"
  | .validationEvidenceGap => "validation_evidence_gap"
  | .outputEnvironmentGap => "output_environment_gap"
  | .authorityAmbiguity => "authority_ambiguity"
  | .contradiction => "contradiction"
  | .relevantDrift => "relevant_drift"
  | .otherMaterial => "other_material"

inductive Origin where
  | deterministic | semantic
  deriving DecidableEq, Repr

def Origin.value : Origin → String
  | .deterministic => "deterministic"
  | .semantic => "semantic"

inductive FindingStatus where
  | «open» | closed | rejected | invalidated
  deriving DecidableEq, Repr

def FindingStatus.value : FindingStatus → String
  | .«open» => "open"
  | .closed => "closed"
  | .rejected => "rejected"
  | .invalidated => "invalidated"

/-- What closes a gap. -/
inductive ClosureCode where
  | addRequiredField | correctInvalidValue | repairReference | coverRequirement
  | resolveDependency | substantiateOrRemoveAssumption | alignTerminology | correctInterpretation
  | assignValidCapability | restoreSystemBoundary | resolveOverlap | correctSequenceOrActivation
  | addSufficientValidation | exerciseRequiredEnvironment | resolveAuthorityOwnership
  | resolveContradiction | revalidateAfterDrift | otherBounded
  deriving DecidableEq, Repr

def ClosureCode.value : ClosureCode → String
  | .addRequiredField => "add_required_field"
  | .correctInvalidValue => "correct_invalid_value"
  | .repairReference => "repair_reference"
  | .coverRequirement => "cover_requirement"
  | .resolveDependency => "resolve_dependency"
  | .substantiateOrRemoveAssumption => "substantiate_or_remove_assumption"
  | .alignTerminology => "align_terminology"
  | .correctInterpretation => "correct_interpretation"
  | .assignValidCapability => "assign_valid_capability"
  | .restoreSystemBoundary => "restore_system_boundary"
  | .resolveOverlap => "resolve_overlap"
  | .correctSequenceOrActivation => "correct_sequence_or_activation"
  | .addSufficientValidation => "add_sufficient_validation"
  | .exerciseRequiredEnvironment => "exercise_required_environment"
  | .resolveAuthorityOwnership => "resolve_authority_ownership"
  | .resolveContradiction => "resolve_contradiction"
  | .revalidateAfterDrift => "revalidate_after_drift"
  | .otherBounded => "other_bounded"

/-- `GAP_TO_CLOSURE.get(gap_type, "other_bounded")`. -/
def GapType.closure : GapType → ClosureCode
  | .structuralMissing => .addRequiredField
  | .structuralInvalid => .correctInvalidValue
  | .brokenReference => .repairReference
  | .coverageGap => .coverRequirement
  | .dependencyGap => .resolveDependency
  | .unsupportedAssumption => .substantiateOrRemoveAssumption
  | .capabilityGap => .assignValidCapability
  | .systemBoundaryGap => .restoreSystemBoundary
  | .sequenceActivationGap => .correctSequenceOrActivation
  | .validationEvidenceGap => .addSufficientValidation
  | .outputEnvironmentGap => .exerciseRequiredEnvironment
  | .authorityAmbiguity => .resolveAuthorityOwnership
  | .contradiction => .resolveContradiction
  | .relevantDrift => .revalidateAfterDrift
  | .terminologyDrift | .interpretationDrift | .similarityOverlapGap | .otherMaterial =>
    .otherBounded

/-! ### Findings -/

structure Closure where
  closureCode : ClosureCode
  description : String
  acceptancePredicates : List String
  deriving DecidableEq

/-- **A gap of a plan.** How severe a finding is weighs as much as a requirement does. -/
structure Finding where
  findingId : String
  gapType : GapType
  origin : Origin
  severity : Priority
  blocking : Bool
  requirementReferences : List Identifier
  planLocations : List String
  specificClaim : String
  evidenceReferences : List EvidenceRef
  reasoning : String
  whyItMatters : String
  requiredClosure : Closure
  status : FindingStatus
  deriving DecidableEq

def Closure.toJson (closure : Closure) : Json :=
  .obj [("closure_code", .str closure.closureCode.value), ("description", .str closure.description),
    ("acceptance_predicates", listOf closure.acceptancePredicates .str)]

def Finding.toJson (finding : Finding) : Json :=
  .obj [version, ("finding_id", .str finding.findingId), ("gap_type", .str finding.gapType.value),
    ("origin", .str finding.origin.value), ("severity", .str finding.severity.value),
    ("blocking", .bool finding.blocking),
    ("requirement_references", texts finding.requirementReferences),
    ("plan_locations", listOf finding.planLocations .str),
    ("specific_claim", .str finding.specificClaim),
    ("evidence_references", refs finding.evidenceReferences),
    ("reasoning", .str finding.reasoning), ("why_it_matters", .str finding.whyItMatters),
    ("required_closure", finding.requiredClosure.toJson), ("status", .str finding.status.value)]

/-- `finding.schema.json`, on what the types leave open. -/
def Finding.admitted (finding : Finding) : Bool :=
  isIdentifier finding.findingId &&
    (!finding.planLocations.isEmpty && decide finding.planLocations.Nodup &&
      finding.planLocations.all isJsonPointer) &&
    finding.specificClaim != "" && !finding.evidenceReferences.isEmpty &&
    finding.reasoning != "" && finding.whyItMatters != "" &&
    finding.requiredClosure.description != "" &&
    (!finding.requiredClosure.acceptancePredicates.isEmpty &&
      finding.requiredClosure.acceptancePredicates.all (· != "")) &&
    (finding.severity != .blocking || finding.blocking)

/-- The arguments of `make_finding` that have a default. -/
structure FindingOptions where
  requirementReferences : List Identifier := []
  reasoning : Option String := none
  why : Option String := none
  acceptancePredicates : Option (List String) := none

/-- `make_finding(..)`. No caller passes an empty text or an empty list of predicates. -/
def makeFinding (findingId : String) (gapType : GapType) (origin : Origin)
    (planLocations : List String) (claim : String) (evidenceReferences : List EvidenceRef)
    (options : FindingOptions := {}) : Finding :=
  { findingId, gapType, origin, severity := .blocking, blocking := true
    requirementReferences := options.requirementReferences
    planLocations := if planLocations.isEmpty then [""] else planLocations
    specificClaim := claim, evidenceReferences, reasoning := options.reasoning.getD claim
    whyItMatters := options.why.getD
      "The accepted plan could not reliably prove the locked success definition."
    requiredClosure :=
      { closureCode := gapType.closure
        description :=
          "Resolve the bounded " ++ gapType.value ++ " at the challenged plan location."
        acceptancePredicates := options.acceptancePredicates.getD
          ["The " ++ gapType.value ++ " condition is no longer present."] }
    status := .«open» }

@[simp] theorem makeFinding_findingId (findingId : String) (gapType : GapType) (origin : Origin)
    (planLocations : List String) (claim : String) (evidence : List EvidenceRef)
    (options : FindingOptions) :
    (makeFinding findingId gapType origin planLocations claim evidence options).findingId =
      findingId := rfl

def numeral (n : Nat) : String := String.ofList (decimal n)

/-- `evidence_ref(repository["repository_evidence_id"], repository)`. -/
def RepositoryEvidence.ref (repository : RepositoryEvidence) : EvidenceRef :=
  { evidenceId := repository.repositoryEvidenceId, contentHash := repository.contentHash }

/-- `request_evidence_ref(request, preferred)`: the preferred evidence, the first, or the repository's. -/
def requestEvidenceRef (request : AnalysisRequest) (preferred : Option Identifier := none) :
    EvidenceRef :=
  match preferred.bind fun id => request.evidence.find? fun item => item.evidenceId = id with
  | some item => item.ref
  | none =>
    match request.evidence with
    | item :: _ => item.ref
    | [] => request.repositoryEvidence.ref

/-! ### Decisions -/

inductive AnalysisVerdict where
  | noMaterialGap | materialGapFound | missingEvidence | contradicted | driftRevalidationRequired
  deriving DecidableEq, Repr

def AnalysisVerdict.value : AnalysisVerdict → String
  | .noMaterialGap => "no_material_gap"
  | .materialGapFound => "material_gap_found"
  | .missingEvidence => "missing_evidence"
  | .contradicted => "contradicted"
  | .driftRevalidationRequired => "drift_revalidation_required"

structure RejectedFinding where
  findingId : String
  reason : String
  evidenceReferences : List EvidenceRef
  deriving DecidableEq

/-- A decision without its hash. -/
structure UnsealedDecision where
  analysisId : Identifier
  successDefinitionReference : ArtifactRef
  planReference : ArtifactRef
  decision : AnalysisVerdict
  blocking : Bool
  executionReady : Bool
  findings : List Finding
  rejectedFindings : List RejectedFinding
  decidedAt : String
  deriving DecidableEq

/-- **The decision on a plan.** -/
structure AnalysisDecision extends UnsealedDecision where
  contentHash : Digest
  deriving DecidableEq

def RejectedFinding.toJson (rejected : RejectedFinding) : Json :=
  .obj [("finding_id", .str rejected.findingId), ("reason", .str rejected.reason),
    ("evidence_references", refs rejected.evidenceReferences)]

def UnsealedDecision.fields (decision : UnsealedDecision) : Dict :=
  [version, ("analysis_id", .str decision.analysisId.val),
    ("success_definition_reference", decision.successDefinitionReference.toJson),
    ("plan_reference", decision.planReference.toJson),
    ("decision", .str decision.decision.value), ("blocking", .bool decision.blocking),
    ("execution_ready", .bool decision.executionReady),
    ("findings", listOf decision.findings Finding.toJson),
    ("rejected_findings", listOf decision.rejectedFindings RejectedFinding.toJson),
    ("decided_at", .str decision.decidedAt)]

def AnalysisDecision.toJson (decision : AnalysisDecision) : Json :=
  .obj (decision.fields ++ [("content_hash", .str decision.contentHash.val)])

/-- `analysis-decision.schema.json`, on what the types leave open. -/
def UnsealedDecision.admitted (decision : UnsealedDecision) : Bool :=
  decision.findings.all Finding.admitted &&
    (decision.rejectedFindings.all fun rejected =>
      isIdentifier rejected.findingId && rejected.reason != "") &&
    (if decision.decision = .noMaterialGap then
      !decision.blocking && decision.executionReady && decision.findings.isEmpty
    else decision.blocking && !decision.executionReady && !decision.findings.isEmpty)

/-- `artifact_ref(decision, "analysis-decision.schema.json", id_field="analysis_id")`. -/
def AnalysisDecision.ref (decision : AnalysisDecision) : ArtifactRef :=
  artifactRef decision.analysisId "analysis-decision.schema.json" schemaVersion decision.contentHash

section

variable (sha : Sha256)

/-- `validate_domain_invariants(decision, "analysis_decision")`. -/
def AnalysisDecision.validate (decision : AnalysisDecision) : Except AflowError Unit := do
  if !decision.admitted then throw (.schemaValidation "analysis-decision.schema.json")
  unique (decision.findings.map Finding.findingId) "finding"
  unique (decision.rejectedFindings.map RejectedFinding.findingId) "rejected finding"
  let clean := decide (decision.decision = .noMaterialGap)
  require (clean == (!decision.blocking && decision.executionReady && decision.findings.isEmpty))
    "analysis decision invariant violated"
  require (clean || (decision.blocking && !decision.executionReady && !decision.findings.isEmpty))
    "blocking analysis decision invariant violated"
  require (verifyHash sha decision.contentHash decision.toJson)
    "analysis decision content hash mismatch"

def UnsealedDecision.seal (decision : UnsealedDecision) : AnalysisDecision :=
  { decision with contentHash := canonicalHash sha (.obj decision.fields) }

theorem UnsealedDecision.seal_verifies (decision : UnsealedDecision) :
    verifyHash sha (decision.seal sha).contentHash (decision.seal sha).toJson = true := by
  rw [verifyHash, AnalysisDecision.toJson, canonicalHash_contentHash]
  exact beq_self_eq_true _

/-- **What a valid decision satisfies.** -/
theorem AnalysisDecision.validate_ok {decision : AnalysisDecision} :
    decision.validate sha = .ok () ↔
      decision.admitted = true ∧ (decision.findings.map Finding.findingId).Nodup ∧
      (decision.rejectedFindings.map RejectedFinding.findingId).Nodup ∧
      verifyHash sha decision.contentHash decision.toJson = true := by
  rw [AnalysisDecision.validate]
  cases admitted : decision.admitted with
  | false => simp [bind, Except.bind, throw, throwThe, MonadExceptOf.throw]
  | true =>
    -- the schema already pairs the verdict with the two flags
    have paired := admitted
    simp only [UnsealedDecision.admitted, Bool.and_eq_true] at paired
    have verdict := paired.2
    simp only [Bool.not_true, Bool.false_eq_true, if_false, then_ok, unique_ok, require_ok,
      true_and]
    refine and_congr_right fun _ => and_congr_right fun _ => ?_
    by_cases clean : decision.decision = .noMaterialGap
    · rw [if_pos clean] at verdict
      simp [clean, verdict]
    · rw [if_neg clean, Bool.and_eq_true, Bool.and_eq_true] at verdict
      simp [clean, verdict]

end

end Audisor.Aflow
