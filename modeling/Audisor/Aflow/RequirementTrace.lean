/-
**The requirement-by-requirement evidence of a build, and how well it speaks.**

* `explicitQuality` — `explicit_quality`: the worst rating of a dimension that a text of the evidence
  states, found by a search that ignores case.
* `isTrustedEvidence` — verified evidence from somebody else than the builder.
* `aggregateQuality` — the worst rating of each dimension over all requirements.
* `outputsFor`, `citedRefs`, `visible`, `trusted`, … — what the loop of `build_trace` computes for one
  requirement, under the names of its variables.
* `qualityStatus`, `traceStatus` — the rating of a dimension, and the status of the requirement.
* `buildTrace` — `build_trace`.

Ignoring case, `i` also matches `İ` and `ı`, and `s` also matches `ſ`. A rating spelled so is not one of
the known words once it is in lower case: `QualityStatus.other`.
-/

import Audisor.Aflow.Invariants
import Audisor.Text.Lines
import Mathlib.Data.List.MinMax

namespace Audisor.Aflow

section

open Json Text

/-! ### Ratings -/

/-- What a dimension is rated. -/
inductive QualityStatus where
  | pass | partly | fail | unproven | notApplicable
  | other (word : String)
  deriving DecidableEq, Repr

def QualityStatus.value : QualityStatus → String
  | .pass => "pass"
  | .partly => "partial"
  | .fail => "fail"
  | .unproven => "unproven"
  | .notApplicable => "not_applicable"
  | .other word => word

def QualityStatus.ofWord (word : String) : QualityStatus :=
  if word = "pass" then .pass
  else if word = "partial" then .partly
  else if word = "fail" then .fail
  else if word = "unproven" then .unproven
  else .other word

/-- `RANK.get(status)`. -/
def QualityStatus.rank : QualityStatus → Option Nat
  | .fail => some 0
  | .unproven => some 1
  | .partly => some 2
  | .pass => some 3
  | .notApplicable => some 4
  | .other _ => none

/-- `DIMENSIONS`. -/
def dimensions : List QualityDimension :=
  [.correctness, .completeness, .usability, .consistency, .reliability, .evidenceQuality,
    .constraintCompliance]

theorem mem_dimensions (dimension : QualityDimension) : dimension ∈ dimensions := by
  cases dimension <;> decide

/-! ### The search for a rating -/

/-- Whether a character matches a lower-case letter of a pattern under `re.I`. -/
def matchesLetter (letter c : Char) : Bool :=
  c.toLower == letter || (letter == 'i' && (c == 'İ' || c == 'ı')) || (letter == 's' && c == 'ſ')

def afterWord : List Char → List Char → Option (List Char)
  | [], text => some text
  | letter :: word, c :: text => if matchesLetter letter c then afterWord word text else none
  | _ :: _, [] => none

/-- `(pass|partial|fail|unproven)`. -/
def ratingAt (text : List Char) : Option (List Char) :=
  (["pass", "partial", "fail", "unproven"].find? fun word =>
    (afterWord word.toList text).isSome).map fun word => text.take word.length

/-- `dimension\s*=\s*(pass|partial|fail|unproven)`. -/
def dimensionAt (dimension : QualityDimension) (text : List Char) : Option (List Char) := do
  let rest ← afterWord dimension.value.toList text
  let rest ← afterWord ['='] (rest.dropWhile isWhitespace)
  ratingAt (rest.dropWhile isWhitespace)

/-- `(?:quality:)?`, and the dimension with its rating. -/
def patternAt (dimension : QualityDimension) (text : List Char) : Option (List Char) :=
  (afterWord "quality:".toList text >>= dimensionAt dimension) <|> dimensionAt dimension text

/-- `pattern.search(text)`: the group of the leftmost match. -/
def search (dimension : QualityDimension) : List Char → Option (List Char)
  | [] => none
  | c :: rest => patternAt dimension (c :: rest) <|> search dimension rest

/-- The lower case of a character that a rating can match. -/
def lowered (c : Char) : List Char := if c = 'İ' then ['i', '\u0307'] else [c.toLower]

def statedQuality (dimension : QualityDimension) (item : Evidence) : Option QualityStatus :=
  (search dimension (item.claim.val ++ " " ++ item.payloadSummary.getD "").toList).map fun group =>
    .ofWord (String.ofList (group.flatMap lowered))

/-- `min(found, key=RANK.get) if found else None`: a word without a rank cannot be compared. -/
def leastRated : List QualityStatus → Except AflowError (Option QualityStatus)
  | [] => .ok none
  | [status] => .ok (some status)
  | found => if found.all fun status => status.rank.isSome then
      .ok (found.argmin fun status => status.rank.getD 0) else .error .typeError

/-- `explicit_quality`. -/
def explicitQuality (evidence : List Evidence) (dimension : QualityDimension) :
    Except AflowError (Option QualityStatus) :=
  leastRated (evidence.filterMap (statedQuality dimension))

/-! ### Trust -/

/-- `is_trusted_evidence`. -/
def isTrustedEvidence (item : Evidence) : Bool :=
  item.source.evidenceStatus = .verified &&
    item.collectedBy ∈ [.deterministicLocal, .externalHarness, .human] &&
    item.visibility = .buildResultInput

/-! ### The ratings of a requirement, and of all -/

/-- A rating of a dimension, with its reason and the evidence for it. -/
structure QualityResult where
  dimension : QualityDimension
  status : QualityStatus
  reason : String
  evidenceReferences : List EvidenceRef
  deriving DecidableEq

def QualityResult.toJson (result : QualityResult) : Json :=
  .obj [("dimension", .str result.dimension.value), ("status", .str result.status.value),
    ("reason", .str result.reason), ("evidence_references", refs result.evidenceReferences)]

def qualityReason : QualityStatus → String
  | .pass => "Visible evidence explicitly supports this quality dimension."
  | .notApplicable => "This dimension is not applicable to the locked requirement."
  | .unproven | .partly => "Visible evidence does not prove this required quality dimension."
  | .fail | .other _ => "Visible evidence contradicts or fails this required quality dimension."

/-- The summary of one dimension: its worst applicable rating. -/
def aggregateDimension (rows : List QualityResult) (dimension : QualityDimension) :
    Except AflowError QualityResult :=
  let applicable := rows.filter fun row => row.dimension = dimension ∧ row.status ≠ .notApplicable
  if applicable.all fun row => row.status.rank.isSome then
    match applicable.argmin fun row => row.status.rank.getD 0 with
    | some worst => .ok { worst with dimension }
    | none => .ok
        { dimension, status := .notApplicable
          reason := "No locked requirement declared this dimension applicable."
          evidenceReferences := [] }
  else .error .keyError

/-- `aggregate_quality`. -/
def aggregateQuality (rows : List QualityResult) : Except AflowError (List QualityResult) :=
  dimensions.mapM (aggregateDimension rows)

end

open Json

/-! ### Documents -/

/-- How far a requirement is proven. -/
inductive RequirementStatus where
  | proven | partiallyProven | unproven | contradicted | invalidatedByDrift
  deriving DecidableEq, Repr

def RequirementStatus.value : RequirementStatus → String
  | .proven => "proven"
  | .partiallyProven => "partially_proven"
  | .unproven => "unproven"
  | .contradicted => "contradicted"
  | .invalidatedByDrift => "invalidated_by_drift"

structure TraceEntry where
  requirementId : Identifier
  expectedObservableOutcome : Words
  evidenceReferences : List EvidenceRef
  qualityResults : List QualityResult
  status : RequirementStatus
  rationale : String
  deriving DecidableEq

/-- A trace without its hash. -/
structure UnsealedTrace where
  traceId : String
  lockedPlanReference : ArtifactRef
  buildResultReference : ArtifactRef
  entries : List TraceEntry
  deriving DecidableEq

structure RequirementTrace extends UnsealedTrace where
  contentHash : Digest
  deriving DecidableEq

def TraceEntry.toJson (entry : TraceEntry) : Json :=
  .obj [("requirement_id", .str entry.requirementId.val),
    ("expected_observable_outcome", .str entry.expectedObservableOutcome.val),
    ("evidence_references", refs entry.evidenceReferences),
    ("quality_results", listOf entry.qualityResults QualityResult.toJson),
    ("status", .str entry.status.value), ("rationale", .str entry.rationale)]

def UnsealedTrace.fields (trace : UnsealedTrace) : Dict :=
  [version, ("trace_id", .str trace.traceId),
    ("locked_plan_reference", trace.lockedPlanReference.toJson),
    ("build_result_reference", trace.buildResultReference.toJson),
    ("entries", listOf trace.entries TraceEntry.toJson)]

def RequirementTrace.toJson (trace : RequirementTrace) : Json :=
  .obj (trace.fields ++ [("content_hash", .str trace.contentHash.val)])

def UnsealedTrace.seal (sha : Sha256) (trace : UnsealedTrace) : RequirementTrace :=
  { trace with contentHash := canonicalHash sha (.obj trace.fields) }

theorem UnsealedTrace.seal_verifies (sha : Sha256) (trace : UnsealedTrace) :
    verifyHash sha (trace.seal sha).contentHash (trace.seal sha).toJson = true := by
  rw [verifyHash, RequirementTrace.toJson, canonicalHash_contentHash]
  exact beq_self_eq_true _

/-- `artifact_ref(trace, ..)`. -/
def RequirementTrace.ref (trace : RequirementTrace) : DerivedRef :=
  { artifactId := trace.traceId, schemaId := schemaId "requirement-evidence-trace.schema.json"
    version := schemaVersion, contentHash := trace.contentHash }

def QualityResult.rated (result : QualityResult) : Bool := result.status.rank.isSome

/-- `validate(trace, "requirement-evidence-trace.schema.json")`. -/
def RequirementTrace.admitted (trace : RequirementTrace) : Bool :=
  isIdentifier trace.traceId && !trace.entries.isEmpty &&
    trace.entries.all fun entry =>
      !entry.qualityResults.isEmpty && entry.qualityResults.all QualityResult.rated

def RequirementTrace.validate (sha : Sha256) (trace : RequirementTrace) :
    Except AflowError Unit := do
  if trace.admitted then .ok () else
    .error (.schemaValidation "requirement-evidence-trace.schema.json")
  unique (ids trace.entries TraceEntry.requirementId) "trace requirement"
  trace.entries.forM fun entry =>
    unique (entry.qualityResults.map fun result => result.dimension.value)
      ("trace quality for " ++ entry.requirementId.val)
  require (verifyHash sha trace.contentHash trace.toJson) "requirement trace content hash mismatch"

/-! ### What a reference resolves to -/

/-- The evidence that a reference cites, if it is there with the hash that the reference states. -/
def resolve (evidence : List Evidence) (ref : EvidenceRef) : Option Evidence :=
  (byKey evidence Evidence.evidenceId ref.evidenceId).filter fun item =>
    item.contentHash = ref.contentHash

theorem resolve_some {evidence : List Evidence} {ref : EvidenceRef} {item : Evidence}
    (found : resolve evidence ref = some item) :
    item ∈ evidence ∧ item.evidenceId = ref.evidenceId ∧ item.contentHash = ref.contentHash := by
  obtain ⟨stored, same⟩ := Option.filter_eq_some_iff.mp found
  obtain ⟨member, named⟩ := byKey_some stored
  exact ⟨member, named, by simpa using same⟩

/-! ### Prohibited outcomes -/

/-- `prohibited_present`. -/
def prohibitedPresent (build : BuildResult) : Bool :=
  build.prohibitedOutcomeChecks.any OutcomeCheck.present

def SuccessDefinition.outcomeIds (success : SuccessDefinition) : List Identifier :=
  success.prohibitedOutcomes.map ProhibitedOutcome.outcomeId

def BuildResult.checkedOutcomes (build : BuildResult) : List Identifier :=
  build.prohibitedOutcomeChecks.map OutcomeCheck.outcomeId

def sameMembers {α : Type} [DecidableEq α] (first second : List α) : Bool :=
  first.all (· ∈ second) && second.all (· ∈ first)

def citesTrusted (evidence : List Evidence) (ref : EvidenceRef) : Bool :=
  (resolve evidence ref).any isTrustedEvidence

/-- `prohibited_absence_evidenced`. -/
def prohibitedAbsenceEvidenced (success : SuccessDefinition) (build : BuildResult)
    (evidence : List Evidence) : Bool :=
  sameMembers success.outcomeIds build.checkedOutcomes &&
    build.prohibitedOutcomeChecks.all fun check =>
      check.evidenceReferences.all (citesTrusted evidence)

/-! ### One requirement -/

/-- **What the trace is built from.** -/
structure TraceInput where
  lockedPlan : LockedPlan
  successDefinition : SuccessDefinition
  plan : Plan
  buildResult : BuildResult
  evidence : List Evidence

namespace TraceInput

variable (input : TraceInput) (requirement : Requirement)

/-- `outputs`: those that name the requirement. -/
def outputs : List BuildOutput :=
  input.buildResult.outputs.filter fun item => requirement.requirementId ∈ item.requirementIds.val

/-- `plans`: the validations that name the requirement. -/
def plans : List Validation :=
  input.plan.validations.val.filter fun item =>
    requirement.requirementId ∈ item.requirementIds.val

/-- `result_by_id.get(validation_id)`. -/
def resultOf (validation : Validation) : Option ValidationResult :=
  byKey input.buildResult.validationResults ValidationResult.validationId validation.validationId

/-- `refs`: what the outputs and the results cite, each once. -/
def citedRefs : List EvidenceRef :=
  ((input.outputs requirement).flatMap (fun item => item.evidenceReferences.val) ++
    ((input.plans requirement).filterMap input.resultOf).flatMap
      ValidationResult.evidenceReferences).eraseDups

def visible : List Evidence := (input.citedRefs requirement).filterMap (resolve input.evidence)

def trusted : List Evidence := (input.visible requirement).filter isTrustedEvidence

def refsValid : Bool :=
  (input.visible requirement).length = (input.citedRefs requirement).length &&
    !(input.citedRefs requirement).isEmpty

def validationsPass : Bool :=
  !(input.plans requirement).isEmpty &&
    (input.plans requirement).all fun item =>
      (input.resultOf item).any fun result => result.status = .passed

def environmentMatches : Bool :=
  input.buildResult.observedEnvironment.matchesRequiredEnvironment = some true

def proofs : List ProofObligation :=
  input.successDefinition.proofObligations.val.filter fun proof =>
    requirement.requirementId ∈ proof.requirementIds.val

def requiredTypes : List EvidenceType :=
  (input.proofs requirement).flatMap fun proof =>
    (proof.requiredEvidenceTypes.map Subtype.val).getD []

def typesMatch : Bool :=
  (input.requiredTypes requirement).all
    (· ∈ (input.trusted requirement).map Evidence.evidenceType)

def contradicted : Bool :=
  input.buildResult.status = .failed ||
    (input.visible requirement).any fun item => item.source.evidenceStatus = .contradicted

def absenceEvidenced : Bool :=
  prohibitedAbsenceEvidenced input.successDefinition input.buildResult input.evidence

def baseProven : Bool :=
  !(input.outputs requirement).isEmpty && input.validationsPass requirement &&
    input.refsValid requirement && input.environmentMatches && input.typesMatch requirement &&
    !prohibitedPresent input.buildResult && input.absenceEvidenced

/-- The rating of an applicable dimension that the evidence says nothing of. -/
def implicitStatus : QualityDimension → QualityStatus
  | .evidenceQuality =>
    if input.refsValid requirement && input.typesMatch requirement then .pass else .unproven
  | .constraintCompliance =>
    if input.absenceEvidenced && input.buildResult.status = .completed then .pass else .unproven
  | .correctness | .completeness => if input.baseProven requirement then .pass else .unproven
  | .usability | .consistency | .reliability => .unproven

/-- The rating of a dimension, given what the trusted evidence states of it. -/
def qualityStatus (dimension : QualityDimension) (stated : Option QualityStatus) : QualityStatus :=
  if dimension ∈ requirement.qualityDimensions.val then
    if dimension = .constraintCompliance && prohibitedPresent input.buildResult then .fail
    else stated.getD (input.implicitStatus requirement dimension)
  else .notApplicable

def qualityResult (dimension : QualityDimension) : Except AflowError QualityResult := do
  let stated ← explicitQuality (input.trusted requirement) dimension
  let status := input.qualityStatus requirement dimension stated
  return { dimension, status, reason := qualityReason status
           evidenceReferences := input.citedRefs requirement }

/-- `required_statuses`. -/
def requiredStatuses (results : List QualityResult) : List QualityStatus :=
  (results.filter fun result => result.dimension ∈ requirement.qualityDimensions.val).map
    QualityResult.status

/-- The status of a requirement, given the ratings of its dimensions. -/
def traceStatus (required : List QualityStatus) : RequirementStatus :=
  if input.contradicted requirement || .fail ∈ required then .contradicted
  else if input.baseProven requirement && required.all (· = .pass) then .proven
  else if required.any (· ∈ [.pass, .partly]) && !(input.outputs requirement).isEmpty then
    .partiallyProven
  else .unproven

def traceEntry : Except AflowError TraceEntry := do
  let results ← dimensions.mapM (input.qualityResult requirement)
  let status := input.traceStatus requirement (requiredStatuses requirement results)
  return {
    requirementId := requirement.requirementId
    expectedObservableOutcome := requirement.observableOutcome
    evidenceReferences := input.citedRefs requirement
    qualityResults := results
    status
    rationale :=
      if status = .proven then
        "All required observable, validation, environment, evidence-type, and quality predicates " ++
          "passed."
      else "The returned build evidence does not satisfy every locked proof and quality predicate." }

/-- `build_trace`. -/
def buildTrace (sha : Sha256) : Except AflowError RequirementTrace := do
  let entries ← input.successDefinition.requirements.val.mapM input.traceEntry
  return UnsealedTrace.seal sha
    { traceId := "trace." ++ input.buildResult.buildResultId.val
      lockedPlanReference := input.lockedPlan.ref
      buildResultReference := input.buildResult.ref
      entries }

end TraceInput

end Audisor.Aflow
