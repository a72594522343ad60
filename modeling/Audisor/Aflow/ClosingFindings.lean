/-
**The closure of findings by a revised plan.**

* `ClosureRequest`, `RevisedRequest` — what is submitted, and the request that is analysed again. The schema
  of requests may refuse it, and the errors that its admission reports are a parameter.
* `refusedDecision` — the decision on a request that is not admitted.
* `pointerValue` — `_pointer_value`. `predicateGate` — `_predicate_gate`.
* **`closeFindings`** — `close_findings`: every prior finding with its status, and the new decision.
-/

import Audisor.Aflow.DecisionEngine
import Audisor.Interaction.Checked

namespace Audisor.Aflow

open Json

/-! ### Documents that no schema has admitted -/

inductive ClosingError where
  | aflow (error : AflowError)
  | attributeError
  deriving DecidableEq, Repr

abbrev Closing := Except ClosingError

def calls {α : Type} (outcome : Except AflowError α) : Closing α := outcome.mapError .aflow

/-- `value[key]` of a text. -/
def subscript (value : Json) (key : String) : Closing Json :=
  match value with
  | .obj fields => (get? fields key).elim (.error (.aflow .keyError)) .ok
  | _ => .error (.aflow .typeError)

/-- The `dict` whose `get` is called. -/
def asDict : Json → Closing Dict
  | .obj fields => .ok fields
  | _ => .error .attributeError

def iterate : Json → Closing (List Json)
  | .arr items => .ok items
  | .obj fields => .ok ((firstOnly (fields.map Prod.fst)).map .str)
  | .str text => .ok (text.toList.map fun c => .str (String.singleton c))
  | _ => .error (.aflow .typeError)

/-- Whether a value may be a key of a `dict`. -/
def isKey : Json → Bool
  | .arr _ | .obj _ => false
  | _ => true

/-- `{item[key]: item for item in items}`, with every assignment. -/
def keyed (key : String) (items : List Json) : Closing (List (Json × Json)) :=
  items.mapM fun item => do
    let id ← subscript item key
    if isKey id then return (id, item) else throw (.aflow .typeError)

/-- `table.get(id)`. -/
def tableGet (table : List (Json × Json)) (id : String) : Option Json :=
  (table.reverse.find? fun entry => Json.eq entry.1 (.str id)).map Prod.snd

/-! ### Requests -/

/-- Why the admission refuses a request. -/
structure AdmissionError where
  keyword : String
  instancePath : String
  schemaPath : String
  message : String
  deriving DecidableEq, Repr

/-- **The request that is analysed again**: it is admitted, or it is refused for some reasons. -/
inductive RevisedRequest where
  | admitted (request : AnalysisRequest)
  | refused (fields : Dict) (errors : AtLeastOne AdmissionError)

def RevisedRequest.fields : RevisedRequest → Dict
  | .admitted request => request.toDict
  | .refused fields _ => fields

/-- `closure-request.schema.json`. -/
structure ClosureRequest where
  closureId : Identifier
  priorDecisionReference : ArtifactRef
  originalPlanReference : ArtifactRef
  revisedPlan : Plan
  addedEvidence : List Evidence
  deriving DecidableEq

/-- **What `close_findings` is given**, with the reading of the clock. -/
structure ClosureInput where
  closure : ClosureRequest
  priorDecision : AnalysisDecision
  originalPlan : Plan
  revisedRequest : RevisedRequest
  reviewer : Option Reviewer
  decidedAt : String

section

variable (sha : Sha256)

/-! ### The analysis of a request that is not admitted -/

def AdmissionError.toJson (errorId : String) (error : AdmissionError) : Json :=
  .obj [("error_id", .str errorId), ("keyword", .str error.keyword),
    ("instance_path", .str error.instancePath), ("schema_path", .str error.schemaPath),
    ("message", .str error.message), ("blocking", .bool true)]

/-- One finding of `_schema_findings`, where its evidence has an id. -/
def admissionFinding (error : AdmissionError) (index : Nat) : Option Finding :=
  let errorId := "schema.error." ++ numeral (index + 1)
  let place := if error.instancePath = "" then "/" else error.instancePath
  if named : isIdentifier errorId = true then
    some (makeFinding ("finding." ++ errorId)
      (if error.keyword = "required" then .structuralMissing else .structuralInvalid) .deterministic
      [error.instancePath] ("Schema admission failed at " ++ place ++ ": " ++ error.message)
      [{ evidenceId := ⟨errorId, named⟩, contentHash := canonicalHash sha (error.toJson errorId) }]
      { reasoning := some ("JSON Schema keyword " ++ error.keyword ++
          " failed at schema location " ++ error.schemaPath ++ ".")
        acceptancePredicates := some [
          "The value at " ++ place ++ " satisfies " ++ error.schemaPath ++ "."] })
  else none

def readFormat (format : String → Bool) : Json → Option { text : String // format text = true }
  | .str text => if fits : format text = true then some ⟨text, fits⟩ else none
  | _ => none

/-- An `artifact_ref` of `common.schema.json`. -/
def readRef (schemaName : String) (artifactId version contentHash : Json) : Option ArtifactRef := do
  return artifactRef (← readFormat isIdentifier artifactId) schemaName
    (← readFormat isSemVer version) (← readFormat isSha256 contentHash)

/-- The parts of a decision that a refused request states itself. -/
def refusedParts (fields : Dict) (errors : List AdmissionError) :
    Closing (Option (Identifier × ArtifactRef × ArtifactRef × List Finding)) := do
  let plan := (get? fields "plan").getD
    (.obj [("plan_id", .str "plan.invalid"), ("version", .str "1.0.0")])
  let success := (get? fields "success_definition").getD
    (.obj [("success_definition_id", .str "success.invalid"), ("version", .str "1.0.0"),
      ("confirmation", .obj [("content_hash", .str (canonicalHash sha (.obj [])).val)])])
  let successFields ← asDict success
  let confirmation ← asDict ((get? successFields "confirmation").getD (.obj []))
  let planFields ← asDict plan
  return do
    let analysisId ← readFormat isIdentifier
      ((get? fields "analysis_id").getD (.str "analysis.invalid"))
    let successReference ← readRef "success-definition.schema.json"
      ((get? successFields "success_definition_id").getD (.str "success.invalid"))
      ((get? successFields "version").getD (.str "1.0.0"))
      ((get? confirmation "content_hash").getD (.str (canonicalHash sha success).val))
    let planReference ← readRef "plan.schema.json"
      ((get? planFields "plan_id").getD (.str "plan.invalid"))
      ((get? planFields "version").getD (.str "1.0.0")) (.str (canonicalHash sha plan).val)
    let findings ← errors.zipIdx.mapM fun (error, index) => admissionFinding sha error index
    return (analysisId, successReference, planReference, findings)

/-- `analyze` on a request that is not admitted. -/
def refusedDecision (fields : Dict) (errors : List AdmissionError) (decidedAt : String) :
    Closing AnalysisDecision := do
  match ← refusedParts sha fields errors with
  | none => throw (.aflow (.schemaValidation "analysis-decision.schema.json"))
  | some (analysisId, successReference, planReference, findings) =>
    let decision := UnsealedDecision.seal sha
      { analysisId, successDefinitionReference := successReference, planReference
        decision := .materialGapFound, blocking := true, executionReady := false, findings
        rejectedFindings := [], decidedAt }
    calls (decision.validate sha)
    return decision

/-- `analyze(revised_analysis_request, reviewer)`. -/
def ClosureInput.reanalyze (input : ClosureInput) : Closing AnalysisDecision :=
  match input.revisedRequest with
  | .admitted request => calls (analyze sha request input.reviewer input.decidedAt)
  | .refused fields errors => refusedDecision sha fields errors.val input.decidedAt

end

/-! ### Changes -/

/-- `_pointer_value(root, pointer)`, where no lookup fails. -/
def pointerValue (root : Json) (location : String) : Option Json :=
  let path := planScoped location
  if path.isEmpty then some root
  else (pointerTokens path).foldl (fun current token => current.bind (stepInto token)) (some root)

/-- Whether the loop over the locations takes one for changed: a lookup that fails is a change. -/
def changedAt (original revised : Plan) (location : String) : Bool :=
  match pointerValue original.toJson location, pointerValue revised.toJson location with
  | some before, some after => !Json.eq before after
  | _, _ => true

/-! ### Predicates -/

/-- `evidence_codes`. -/
def evidenceCodes : List ClosureCode :=
  [.substantiateOrRemoveAssumption, .addSufficientValidation, .resolveContradiction,
    .revalidateAfterDrift]

/-- `change_codes`. -/
def changeCodes : List ClosureCode :=
  [.addRequiredField, .correctInvalidValue, .repairReference, .coverRequirement,
    .resolveDependency, .alignTerminology, .correctInterpretation, .assignValidCapability,
    .restoreSystemBoundary, .resolveOverlap, .correctSequenceOrActivation,
    .resolveAuthorityOwnership, .otherBounded]

/-- `proof_by_id` of the success definition of a request. -/
def proofTable (request : Dict) : Closing (List (Json × Json)) := do
  let success ← subscript (.obj request) "success_definition"
  let obligations ← subscript success "proof_obligations"
  keyed "proof_id" (← iterate obligations)

/-- `proof_by_id.get(proof_id, {}).get("required_environment")`. -/
def environmentOf (table : List (Json × Json)) (proofId : Identifier) : Json :=
  match tableGet table proofId.val with
  | some (.obj proof) => (get? proof "required_environment").getD .null
  | _ => .null

/-- Whether a validation of the finding's requirements is run where its proof requires. -/
def runsWhereRequired (finding : Finding) (table : List (Json × Json)) (plan : Plan) : Bool :=
  (plan.validations.val.filter fun validation =>
    validation.requirementIds.val.any (· ∈ finding.requirementReferences)).any fun validation =>
      Json.eq (validation.requiredEnvironment.elim .null fun text => .str text.val)
        (environmentOf table validation.proofId)

/-- Whether the finding is from a reviewer who is not asked again. -/
def unreplayed (finding : Finding) (reviewer : Option Reviewer) : Bool :=
  decide (finding.origin = .semantic) && !(reviewer.isSome || isReserved finding)

/-- `Evaluated n original predicate(s) against …`. -/
def evaluated (finding : Finding) (against : String) : String :=
  "Evaluated " ++ numeral finding.requiredClosure.acceptancePredicates.length ++
    " original predicate(s) against " ++ against ++ "."

/-- **`_predicate_gate`**. The plan of the request equals the revised plan by then. -/
def predicateGate (finding : Finding) (changed addedEvidence : Bool) (request : Dict) (plan : Plan)
    (reviewer : Option Reviewer) : Closing (Bool × String) := do
  let code := finding.requiredClosure.closureCode
  if unreplayed finding reviewer then
    return (false, "The original external semantic reviewer was not replayed, so its predicates " ++
      "remain unverified.")
  if code = .exerciseRequiredEnvironment then
    let table ← proofTable request
    return (runsWhereRequired finding table plan && (changed || addedEvidence),
      evaluated finding "proof environment and bounded revision evidence")
  if code ∈ evidenceCodes then
    return (changed || addedEvidence, evaluated finding "changed structure and added evidence")
  if code ∈ changeCodes then
    return (changed, evaluated finding "the challenged plan location")
  return (false, "No deterministic evaluator exists for the original closure predicate code.")

/-! ### Results -/

inductive ClosureStatus where
  | closed | partiallyClosed | «open» | invalidated
  deriving DecidableEq, Repr

def ClosureStatus.value : ClosureStatus → String
  | .closed => "closed"
  | .partiallyClosed => "partially_closed"
  | .«open» => "open"
  | .invalidated => "invalidated"

structure FindingResult where
  findingId : String
  status : ClosureStatus
  evidenceReferences : List EvidenceRef
  reason : String
  deriving DecidableEq

/-- A closure without its hash. -/
structure UnsealedClosure where
  closureId : Identifier
  priorDecisionReference : ArtifactRef
  revisedPlanReference : ArtifactRef
  findingResults : List FindingResult
  newDecision : AnalysisDecision
  deriving DecidableEq

structure ClosureResult extends UnsealedClosure where
  contentHash : Digest
  deriving DecidableEq

def FindingResult.toJson (result : FindingResult) : Json :=
  .obj [("finding_id", .str result.findingId), ("status", .str result.status.value),
    ("evidence_references", refs result.evidenceReferences), ("reason", .str result.reason)]

def UnsealedClosure.fields (closure : UnsealedClosure) : Dict :=
  [version, ("closure_id", .str closure.closureId.val),
    ("prior_decision_reference", closure.priorDecisionReference.toJson),
    ("revised_plan_reference", closure.revisedPlanReference.toJson),
    ("finding_results", listOf closure.findingResults FindingResult.toJson),
    ("new_decision", closure.newDecision.toJson)]

def ClosureResult.toJson (result : ClosureResult) : Json :=
  .obj (result.fields ++ [("content_hash", .str result.contentHash.val)])

/-- `closure-result.schema.json`, on what the types leave open. -/
def UnsealedClosure.admitted (closure : UnsealedClosure) : Bool :=
  !closure.findingResults.isEmpty &&
    (closure.findingResults.all fun result =>
      isIdentifier result.findingId && result.reason != "") &&
    closure.newDecision.admitted

section

variable (sha : Sha256)

def UnsealedClosure.seal (closure : UnsealedClosure) : ClosureResult :=
  { closure with contentHash := canonicalHash sha (.obj closure.fields) }

/-- `validate_domain_invariants(result, "closure_result")`. -/
def ClosureResult.validate (result : ClosureResult) : Except AflowError Unit := do
  if !result.admitted then throw (.schemaValidation "closure-result.schema.json")
  unique (result.findingResults.map FindingResult.findingId) "closure finding"
  let unresolved := result.findingResults.any fun item =>
    item.status ∈ [ClosureStatus.open, ClosureStatus.partiallyClosed]
  require (!(unresolved && decide (result.newDecision.decision = .noMaterialGap)))
    "closure cannot be clean while an original finding remains unresolved"
  require (verifyHash sha result.contentHash result.toJson) "closure result content hash mismatch"

/-! ### The closure -/

/-- `artifact_ref(success, "success-definition.schema.json", id_field="success_definition_id")` of any
value. -/
def successRef (success : Json) : Closing Json := do
  let fields ← asDict success
  let version := (get? fields "version").getD ((get? fields "schema_version").getD (.str "1.0.0"))
  let stated := (get? fields "content_hash").getD .null
  let locked := (get? fields "lock_hash").getD .null
  let contentHash := if stated.truthy then stated else if locked.truthy then locked
    else .str (canonicalHash sha success).val
  let artifactId ← subscript success "success_definition_id"
  return .obj [("artifact_id", artifactId),
    ("schema_id", .str (schemaId "success-definition.schema.json").val), ("version", version),
    ("content_hash", contentHash)]

/-- A comparison whose failure is a `ValueError`. -/
def binds (condition : Bool) (message : String) : Closing Unit :=
  Checked.refuse (condition = false) (.aflow (.valueError message))

def ClosureInput.checkBindings (input : ClosureInput) : Closing Unit := do
  let closure := input.closure
  let prior := input.priorDecision
  calls (prior.validate sha)
  calls input.originalPlan.validate
  let plan ← subscript (.obj input.revisedRequest.fields) "plan"
  binds (Json.eq closure.revisedPlan.toJson plan)
    "closure revised_plan must equal the plan submitted for reanalysis"
  let expectedSuccess ← successRef sha
    (← subscript (.obj input.revisedRequest.fields) "success_definition")
  binds (closure.priorDecisionReference = prior.ref)
    "closure request does not exactly bind the supplied prior decision"
  binds (closure.originalPlanReference = input.originalPlan.ref sha)
    "closure request does not exactly bind the supplied original plan"
  binds (prior.planReference = closure.originalPlanReference)
    "closure request does not bind the prior decision's original plan"
  binds (Json.eq prior.successDefinitionReference.toJson expectedSuccess)
    "revision changed or weakened the locked success definition"
  binds (closure.revisedPlan.successDefinitionReference = prior.successDefinitionReference)
    "revised plan no longer binds the original success definition"

def ClosureInput.checkAdded (input : ClosureInput) : Closing Unit := do
  let evidence ← subscript (.obj input.revisedRequest.fields) "evidence"
  let revised ← keyed "evidence_id" (← iterate evidence)
  binds (input.closure.addedEvidence.all fun item => item.visibility = .closureInput)
    "added closure evidence must have closure_input visibility"
  binds ((dictValues input.closure.addedEvidence Evidence.evidenceId).all fun item =>
      (tableGet revised item.evidenceId.val).any fun found => Json.eq found item.toJson)
    "every added closure evidence artifact must be present unchanged in revised analysis input"

/-- `changed`: one of the locations of a finding is taken for changed. -/
def ClosureInput.changed (input : ClosureInput) (finding : Finding) : Bool :=
  finding.planLocations.any (changedAt input.originalPlan input.closure.revisedPlan)

/-- `gap_remains`: a finding of the decision has the type, and a location or a requirement, of this one. -/
def gapRemains (decision : AnalysisDecision) (finding : Finding) : Bool :=
  decision.findings.any fun candidate =>
    decide (candidate.gapType = finding.gapType) &&
      (candidate.planLocations.any (· ∈ finding.planLocations) ||
        candidate.requirementReferences.any (· ∈ finding.requirementReferences))

/-- What `_predicate_gate` says of a prior finding. -/
def ClosureInput.gate (input : ClosureInput) (finding : Finding) : Closing (Bool × String) :=
  predicateGate finding (input.changed finding) (!input.closure.addedEvidence.isEmpty)
    input.revisedRequest.fields input.closure.revisedPlan input.reviewer

def settleFinding (decision : AnalysisDecision) (finding : Finding) (gate : Bool × String) :
    ClosureStatus × String :=
  if !gapRemains decision finding && gate.1 && decide (decision.decision = .noMaterialGap) then
    (.closed, gate.2 ++
      " The original gap is absent and reanalysis found no new blocking gap.")
  else if !gapRemains decision finding && gate.1 then
    (.partiallyClosed, gate.2 ++
      " The original gap is absent, but reanalysis found a different blocking gap.")
  else if !gapRemains decision finding then
    (.«open», "The finding was not reproduced, but closure remains open: " ++ gate.2)
  else
    (.«open», "The original gap remains after evaluating its original acceptance predicates.")

def ClosureInput.result (input : ClosureInput) (decision : AnalysisDecision) (finding : Finding) :
    Closing FindingResult := do
  let gate ← input.gate finding
  return {
    findingId := finding.findingId
    status := (settleFinding decision finding gate).1
    evidenceReferences := input.closure.addedEvidence.map Evidence.ref
    reason := (settleFinding decision finding gate).2 }

def ClosureInput.conclude (input : ClosureInput) (decision : AnalysisDecision)
    (results : List FindingResult) : ClosureResult :=
  UnsealedClosure.seal sha
    { closureId := input.closure.closureId
      priorDecisionReference := input.closure.priorDecisionReference
      revisedPlanReference := input.closure.revisedPlan.ref sha
      findingResults := results, newDecision := decision }

/-- **`close_findings`.** -/
def closeFindings (input : ClosureInput) : Closing ClosureResult := do
  input.checkBindings sha
  input.checkAdded
  let decision ← input.reanalyze sha
  let results ← input.priorDecision.findings.mapM (input.result decision)
  let result := input.conclude sha decision results
  calls (result.validate sha)
  return result

end

end Audisor.Aflow
