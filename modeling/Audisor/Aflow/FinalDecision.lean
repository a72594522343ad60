/-
**The final decision on a build.**

* `EvaluationInput.checkInputs` — the checks of `evaluate_result` on what it is given: every document is
  valid and sealed, and they are bound to each other by exact references.
* `judge` — the decision, from the trace and the drift between the two baselines.
* `evaluateResult` — `evaluate_result`.
-/

import Audisor.Aflow.Drift
import Audisor.Aflow.RequirementTrace

namespace Audisor.Aflow

open Json

/-! ### Documents -/

structure BlockingFailure where
  failureId : String
  requirementIds : List Identifier
  reason : String
  evidenceReferences : List EvidenceRef
  deriving DecidableEq

/-- An evaluation without its hash. -/
structure UnsealedEvaluation where
  evaluationId : String
  lockedPlanReference : ArtifactRef
  buildResultReference : ArtifactRef
  traceReference : DerivedRef
  decision : RequirementStatus
  blocking : Bool
  qualitySummary : List QualityResult
  blockingFailures : List BlockingFailure
  prohibitedOutcomesPresent : List Identifier
  decidedAt : String
  deriving DecidableEq

structure FinalEvaluation extends UnsealedEvaluation where
  contentHash : Digest
  deriving DecidableEq

def BlockingFailure.toJson (failure : BlockingFailure) : Json :=
  .obj [("failure_id", .str failure.failureId), ("requirement_ids", texts failure.requirementIds),
    ("reason", .str failure.reason), ("evidence_references", refs failure.evidenceReferences)]

def UnsealedEvaluation.fields (evaluation : UnsealedEvaluation) : Dict :=
  [version, ("evaluation_id", .str evaluation.evaluationId),
    ("locked_plan_reference", evaluation.lockedPlanReference.toJson),
    ("build_result_reference", evaluation.buildResultReference.toJson),
    ("trace_reference", evaluation.traceReference.toJson),
    ("decision", .str evaluation.decision.value), ("blocking", .bool evaluation.blocking),
    ("quality_summary", listOf evaluation.qualitySummary QualityResult.toJson),
    ("blocking_failures", listOf evaluation.blockingFailures BlockingFailure.toJson),
    ("prohibited_outcomes_present", texts evaluation.prohibitedOutcomesPresent),
    ("decided_at", .str evaluation.decidedAt)]

def FinalEvaluation.toJson (evaluation : FinalEvaluation) : Json :=
  .obj (evaluation.fields ++ [("content_hash", .str evaluation.contentHash.val)])

def UnsealedEvaluation.seal (sha : Sha256) (evaluation : UnsealedEvaluation) : FinalEvaluation :=
  { evaluation with contentHash := canonicalHash sha (.obj evaluation.fields) }

theorem UnsealedEvaluation.seal_verifies (sha : Sha256) (evaluation : UnsealedEvaluation) :
    verifyHash sha (evaluation.seal sha).contentHash (evaluation.seal sha).toJson = true := by
  rw [verifyHash, FinalEvaluation.toJson, canonicalHash_contentHash]
  exact beq_self_eq_true _

def RequirementStatus.blocks : RequirementStatus → Bool
  | .proven | .partiallyProven => false
  | .unproven | .contradicted | .invalidatedByDrift => true

/-- `validate(evaluation, "final-evaluation.schema.json")`. -/
def UnsealedEvaluation.admitted (evaluation : UnsealedEvaluation) : Bool :=
  isIdentifier evaluation.evaluationId && isIdentifier evaluation.traceReference.artifactId &&
    !evaluation.qualitySummary.isEmpty && evaluation.qualitySummary.all QualityResult.rated &&
    evaluation.blockingFailures.all (fun failure => isIdentifier failure.failureId) &&
    (evaluation.decision != .proven || (!evaluation.blocking &&
      evaluation.blockingFailures.isEmpty && evaluation.prohibitedOutcomesPresent.isEmpty)) &&
    (!evaluation.decision.blocks ||
      (evaluation.blocking && !evaluation.blockingFailures.isEmpty))

/-- `validate_domain_invariants(evaluation, "final_evaluation")`. -/
def FinalEvaluation.validate (sha : Sha256) (evaluation : FinalEvaluation) :
    Except AflowError Unit := do
  if evaluation.admitted then .ok () else .error (.schemaValidation "final-evaluation.schema.json")
  unique (evaluation.qualitySummary.map fun result => result.dimension.value) "quality dimension"
  unique (evaluation.blockingFailures.map BlockingFailure.failureId) "blocking failure"
  require (evaluation.decision != .proven || (!evaluation.blocking &&
    evaluation.blockingFailures.isEmpty && evaluation.prohibitedOutcomesPresent.isEmpty))
    "proven final decision invariant violated"
  require (!evaluation.decision.blocks ||
    (evaluation.blocking && !evaluation.blockingFailures.isEmpty))
    "blocking final decision invariant violated"
  require (evaluation.decision != .proven || evaluation.qualitySummary.all fun result =>
    result.status ∈ [.pass, .notApplicable])
    "proven final decision contains an unproven quality dimension"
  require (verifyHash sha evaluation.contentHash evaluation.toJson)
    "final evaluation content hash mismatch"

/-! ### The input -/

/-- **What a build is evaluated on**, with the two readings of the clock. -/
structure EvaluationInput extends TraceInput where
  lockedBaseline : Baseline
  postBuildBaseline : Baseline
  observedAt : String
  decidedAt : String

/-- A check whose failure is a `ValueError`. -/
def ensure (condition : Bool) (message : String) : Except AflowError Unit :=
  if condition then .ok () else .error (.valueError message)

@[simp] theorem ensure_ok {condition : Bool} {message : String} :
    ensure condition message = .ok () ↔ condition = true := by
  cases condition <;> simp [ensure]

def checkEvidence (sha : Sha256) (seen : List Identifier) : List Evidence → Except AflowError Unit
  | [] => .ok ()
  | item :: rest => do
    item.validate sha
    ensure (item.evidenceId ∉ seen) ("duplicate build evidence ID: " ++ item.evidenceId.val)
    checkEvidence sha (seen ++ [item.evidenceId]) rest

def SuccessDefinition.requirementIds (success : SuccessDefinition) : List Identifier :=
  success.requirements.val.map Requirement.requirementId

def Plan.validationIds (plan : Plan) : List Identifier :=
  plan.validations.val.map Validation.validationId

/-- `validate_domain_invariants` of every document. -/
def EvaluationInput.checkDocuments (sha : Sha256) (input : EvaluationInput) :
    Except AflowError Unit := do
  input.lockedPlan.validate sha
  input.successDefinition.validate sha
  input.plan.validate
  input.buildResult.validate sha
  input.lockedBaseline.validate sha
  input.postBuildBaseline.validate sha
  checkEvidence sha [] input.evidence

def EvaluationInput.checkBindings (sha : Sha256) (input : EvaluationInput) :
    Except AflowError Unit := do
  ensure (input.buildResult.lockedPlanReference = input.lockedPlan.ref)
    "build result does not bind the supplied locked plan"
  ensure (input.lockedPlan.planReference = input.plan.ref sha)
    "locked plan does not bind the supplied plan"
  ensure (input.lockedPlan.successDefinitionReference = input.successDefinition.ref sha)
    "locked plan does not bind the supplied success definition"
  ensure (input.lockedPlan.baselineReference = input.lockedBaseline.ref)
    "locked plan does not bind the supplied locked baseline"
  ensure (input.buildResult.postBuildBaselineReference = input.postBuildBaseline.ref)
    "build result does not bind the supplied post-build baseline"

def EvaluationInput.checkNames (input : EvaluationInput) : Except AflowError Unit := do
  ensure (input.buildResult.outputs.all fun item =>
    item.requirementIds.val.all (· ∈ input.successDefinition.requirementIds))
    "build output references a requirement outside the locked success definition"
  ensure (input.buildResult.validationResults.all fun item =>
    item.validationId ∈ input.plan.validationIds)
    "build result references an unknown locked validation"
  ensure (input.buildResult.checkedOutcomes.all (· ∈ input.successDefinition.outcomeIds))
    "build result references an unknown prohibited outcome"

def EvaluationInput.checkInputs (sha : Sha256) (input : EvaluationInput) :
    Except AflowError Unit := do
  input.checkDocuments sha
  input.checkBindings sha
  input.checkNames

/-! ### The decision -/

/-- `sorted(requirement_ids) if drift_event["changes"] else []`. -/
def affectedRequirements (success : SuccessDefinition) (changes : List DriftChange) :
    List Identifier :=
  if changes.isEmpty then [] else sortedUnion success.requirementIds []

def EvaluationInput.drift (sha : Sha256) (input : EvaluationInput) :
    Except AflowError DriftDecision := do
  let event ← compareBaselines sha input.lockedBaseline input.postBuildBaseline input.observedAt
  event.validate
  let decision := classify sha event (affectedRequirements input.successDefinition event.changes)
  decision.validate
  return decision

/-- `prohibited`: the outcomes that are present. -/
def BuildResult.prohibitedOutcomesPresent (build : BuildResult) : List Identifier :=
  (build.prohibitedOutcomeChecks.filter OutcomeCheck.present).map OutcomeCheck.outcomeId

def SuccessDefinition.priority (success : SuccessDefinition) (requirementId : Identifier) :
    Option Priority :=
  (byKey success.requirements.val Requirement.requirementId requirementId).map Requirement.priority

/-- `blocking_entries`. -/
def blockingEntries (success : SuccessDefinition) (entries : List TraceEntry) : List TraceEntry :=
  entries.filter fun entry => success.priority entry.requirementId = some .blocking

def entryFailure (entry : TraceEntry) : BlockingFailure :=
  { failureId := "failure." ++ entry.requirementId.val, requirementIds := [entry.requirementId]
    reason := "Blocking requirement is " ++ entry.status.value ++ "."
    evidenceReferences := entry.evidenceReferences }

def entryFailures (blocking : List TraceEntry) : List BlockingFailure :=
  (blocking.filter fun entry => entry.status ≠ .proven).map entryFailure

def plainFailure (failureId : String) (requirementIds : List Identifier) (reason : String) :
    BlockingFailure :=
  { failureId, requirementIds, reason, evidenceReferences := [] }

def TraceEntry.invalidate (entry : TraceEntry) : TraceEntry :=
  { entry with
    status := .invalidatedByDrift
    rationale := "Relevant, protected, or unknown drift invalidated the locked analysis." }

/-- The decision, with the trace that it is about and the failures that it rests on. -/
structure Judgement where
  trace : RequirementTrace
  decision : RequirementStatus
  failures : List BlockingFailure

/-- **The decision**, before a decision that blocks without a failure is given one. -/
def settle (sha : Sha256) (input : EvaluationInput) (drift : DriftDecision)
    (trace : RequirementTrace) : Judgement :=
  let prohibited := input.buildResult.prohibitedOutcomesPresent
  let blocking := blockingEntries input.successDefinition trace.entries
  let failures := entryFailures blocking
  if drift.blocking then
    { trace := UnsealedTrace.seal sha
        { trace with entries := trace.entries.map TraceEntry.invalidate }
      decision := .invalidatedByDrift
      failures := failures ++ [plainFailure "failure.relevant-drift"
        (blocking.map TraceEntry.requirementId) drift.reason.val] }
  else if !prohibited.isEmpty || blocking.any fun entry => entry.status = .contradicted then
    { trace, decision := .contradicted
      failures :=
        if !prohibited.isEmpty && failures.isEmpty then
          [plainFailure "failure.prohibited-outcome" [] "A prohibited outcome is present."]
        else failures }
  else if failures.isEmpty && trace.entries.all fun entry => entry.status = .proven then
    { trace, decision := .proven, failures }
  else if !failures.isEmpty then { trace, decision := .unproven, failures }
  else { trace, decision := .partiallyProven, failures }

/-- The decision, and at least one failure when it blocks. -/
def judge (sha : Sha256) (input : EvaluationInput) (drift : DriftDecision)
    (trace : RequirementTrace) : Judgement :=
  let judged := settle sha input drift trace
  if judged.decision.blocks && judged.failures.isEmpty then
    { judged with
      failures := [plainFailure "failure.output" [] "Returned output is not proven."] }
  else judged

def EvaluationInput.conclude (input : EvaluationInput) (judged : Judgement)
    (qualitySummary : List QualityResult) : UnsealedEvaluation :=
  { evaluationId := "evaluation." ++ input.buildResult.buildResultId.val
    lockedPlanReference := input.lockedPlan.ref
    buildResultReference := input.buildResult.ref
    traceReference := judged.trace.ref
    decision := judged.decision
    blocking := judged.decision.blocks
    qualitySummary
    blockingFailures := judged.failures
    prohibitedOutcomesPresent := input.buildResult.prohibitedOutcomesPresent
    decidedAt := input.decidedAt }

/-- `evaluate_result`: the trace and the evaluation. -/
def evaluateResult (sha : Sha256) (input : EvaluationInput) :
    Except AflowError (RequirementTrace × FinalEvaluation) := do
  input.checkInputs sha
  let drift ← input.drift sha
  let built ← input.buildTrace sha
  let judged := judge sha input drift built
  judged.trace.validate sha
  let qualitySummary ← aggregateQuality (judged.trace.entries.flatMap TraceEntry.qualityResults)
  let evaluation := (input.conclude judged qualitySummary).seal sha
  evaluation.validate sha
  return (judged.trace, evaluation)

end Audisor.Aflow
