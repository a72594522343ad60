/-
**The analysis of a plan.**

* `deterministicFindings` — the broken invariants of the definition and of the plan, or, where both are
  sound, what the checks find.
* `reviewFindings` — the semantic candidates, the program's own and the reviewer's, substantiated.
* **`analyze`** — the decision on an admitted request. `lockPlan` — the lock of an accepted plan.

A reviewer is a function of the request. A time is the text that the clock gives.
-/

import Audisor.Aflow.ReferenceChecks
import Audisor.Aflow.Substantiation

namespace Audisor.Aflow

open Json

variable (sha : Sha256)

/-! ### Findings of the analysis -/

def domainFinding (findingId : Identifier) (field location : String)
    (outcome : Except AflowError Unit) : Option Finding :=
  match outcome with
  | .error (.domainInvariant message) =>
    some (makeFinding findingId.val .structuralInvalid .deterministic [location]
      (field ++ " violates a mandatory domain invariant: " ++ message)
      [{ evidenceId := findingId
         contentHash := canonicalHash sha
          (.obj [("error", .str message), ("location", .str location)]) }]
      { reasoning := some ("The schema-valid artifact still violates a non-bypassable A-Flow " ++
          "domain invariant.")
        acceptancePredicates := some [
          "The artifact at " ++ location ++ " satisfies all ID, hash, and decision invariants."] })
  | _ => none

def domainFindings (request : AnalysisRequest) : List Finding :=
  (domainFinding sha ⟨"domain.success_definition", by decide⟩ "success_definition"
    "/success_definition" (request.successDefinition.validate sha)).toList ++
  (domainFinding sha ⟨"domain.plan", by decide⟩ "plan" "/plan" request.plan.validate).toList

def checkFindings (request : AnalysisRequest) : List Finding :=
  EvidenceChecks.check sha request ++ ReferenceChecks.check sha request ++
  CoverageChecks.check request ++ DependencyChecks.check request ++
  AuthorityChecks.check request ++ ActivationChecks.check request

def deterministicFindings (request : AnalysisRequest) : List Finding :=
  if (domainFindings sha request).isEmpty then checkFindings sha request
  else domainFindings sha request

/-! ### The semantic review -/

/-- What a reviewer answers. Its id is a plain text, which the schema may refuse. -/
structure SemanticReview where
  reviewId : String
  analysisId : Identifier
  adapterId : Identifier
  modelOrAgentId : Words
  candidateFindings : List Finding
  reviewSummary : Words

abbrev Reviewer := AnalysisRequest → SemanticReview

/-- `NullSemanticReviewer`. -/
def nullReviewer : Reviewer := fun request =>
  { reviewId := "review." ++ request.analysisId.val, analysisId := request.analysisId
    adapterId := ⟨"adapter.null", by decide⟩
    modelOrAgentId := ⟨"deterministic-null", by decide⟩, candidateFindings := []
    reviewSummary :=
      ⟨"No semantic candidates proposed by the neutral deterministic adapter.", by decide⟩ }

/-- `semantic-review.schema.json`, on what the types leave open. -/
def SemanticReview.admitted (review : SemanticReview) : Bool :=
  isIdentifier review.reviewId && review.candidateFindings.all Finding.admitted

/-- Whether a candidate takes an id of the program's own rules. -/
def isReserved (candidate : Finding) : Bool :=
  "semantic.".toList.isPrefixOf candidate.findingId.toList

def reservedRejection (candidate : Finding) : RejectedFinding :=
  { findingId := candidate.findingId
    reason := "semantic.* is reserved for deterministic local semantic rules"
    evidenceReferences := candidate.evidenceReferences }

/-- The candidates that are accepted, and those that are rejected. -/
def reviewFindings (request : AnalysisRequest) (review : SemanticReview) :
    List Finding × List RejectedFinding :=
  let builtIn := substantiate (SemanticChecks.candidates request) request true
  let external :=
    substantiate (review.candidateFindings.filter fun candidate => !isReserved candidate) request
  (builtIn.1 ++ external.1,
    (review.candidateFindings.filter isReserved).map reservedRejection ++
      (builtIn.2 ++ external.2))

theorem reviewFindings_nullReviewer (request : AnalysisRequest) :
    reviewFindings request (nullReviewer request) =
      substantiate (SemanticChecks.candidates request) request true :=
  Prod.ext (List.append_nil _) (List.append_nil _)

/-! ### The decision -/

/-- `_decision_type(findings)`. -/
def decisionType (findings : List Finding) : AnalysisVerdict :=
  let found (gap : GapType) := findings.any fun finding => finding.gapType = gap
  if found .contradiction then .contradicted
  else if found .relevantDrift then .driftRevalidationRequired
  else if found .unsupportedAssumption || found .validationEvidenceGap ||
      found .outputEnvironmentGap then .missingEvidence
  else .materialGapFound

/-- The decision on some findings: clean when there is none. -/
def decisionOn (request : AnalysisRequest) (findings : List Finding)
    (rejected : List RejectedFinding) (decidedAt : String) : AnalysisDecision :=
  UnsealedDecision.seal sha
    { analysisId := request.analysisId
      successDefinitionReference := request.successDefinition.ref sha
      planReference := request.plan.ref sha
      decision := if findings.isEmpty then .noMaterialGap else decisionType findings
      blocking := !findings.isEmpty, executionReady := findings.isEmpty
      findings, rejectedFindings := rejected, decidedAt }

def conclude (request : AnalysisRequest) (findings : List Finding)
    (rejected : List RejectedFinding) (decidedAt : String) : Except AflowError AnalysisDecision := do
  let decision := decisionOn sha request findings rejected decidedAt
  decision.validate sha
  return decision

/-- **`analyze`** on an admitted request. -/
def analyze (request : AnalysisRequest) (reviewer : Option Reviewer) (decidedAt : String) :
    Except AflowError AnalysisDecision :=
  let deterministic := deterministicFindings sha request
  if deterministic.isEmpty then do
    let review := reviewer.getD nullReviewer request
    if !review.admitted then throw (.schemaValidation "semantic-review.schema.json")
    let (accepted, rejected) := reviewFindings request review
    conclude sha request accepted rejected decidedAt
  else conclude sha request deterministic [] decidedAt

/-! ### The lock -/

def lockOf (request : AnalysisRequest) (decision : AnalysisDecision) (lockId : Identifier)
    (lockedAt : String) : LockedPlan :=
  LockedPlan.seal sha
    { lockId, analysisDecisionReference := decision.ref, planReference := request.plan.ref sha
      successDefinitionReference := request.successDefinition.ref sha
      authorityBundleReference := request.authorityEvidence.ref
      baselineReference := request.baseline.ref, lockedBy := oneOf "aflow", lockedAt
      lockHash := canonicalHash sha .null }

/-- `lock_plan`. -/
def lockPlan (request : AnalysisRequest) (decision : AnalysisDecision) (lockedAt : String) :
    Except AflowError LockedPlan := do
  request.successDefinition.validate sha
  request.plan.validate
  decision.validate sha
  require (decide (decision.decision = .noMaterialGap) && decision.executionReady)
    "only a no_material_gap, execution-ready plan can be locked"
  require (decide (decision.planReference = request.plan.ref sha ∧
      decision.successDefinitionReference = request.successDefinition.ref sha))
    "decision references do not exactly bind the accepted artifacts"
  let lockId := "lock." ++ request.plan.planId.val ++ "." ++ request.plan.version.val
  if named : isIdentifier lockId = true then
    let locked := lockOf sha request decision ⟨lockId, named⟩ lockedAt
    locked.validate sha
    return locked
  else .error (.schemaValidation "locked-plan.schema.json")

end Audisor.Aflow
