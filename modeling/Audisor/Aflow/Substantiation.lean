/-
**Candidates of a semantic review.**

* `SemanticChecks.candidates` — the gaps that the program itself proposes.
* `reasons` — why a candidate is not substantiated by the request.
* `substantiate` — the candidates that are accepted, and those that are not.

The text of a schema error is the validator's, and only its first words are kept.
-/

import Audisor.Aflow.ReferenceChecks
import Audisor.Text.Words

namespace Audisor.Aflow

open Json

/-! ### The program's own candidates -/

/-- The `repr` of a list of words. -/
def wordsRepr (words : List String) : String :=
  "[" ++ ", ".intercalate (words.map fun word => "'" ++ word ++ "'") ++ "]"

namespace SemanticChecks

def assumptionCandidate (request : AnalysisRequest) (assumption : Assumption) (index : Nat) :
    Finding :=
  let stated := assumption.evidenceRefs.getD []
  makeFinding ("semantic.assumption." ++ assumption.assumptionId.val) .unsupportedAssumption
    .semantic ["/plan/assumptions/" ++ numeral index]
    ("Assumption " ++ assumption.assumptionId.val ++ " is explicitly unsubstantiated: " ++
      assumption.statement.val)
    (if stated.isEmpty then [requestEvidenceRef request] else stated)
    { reasoning := some ("The plan labels this premise unsubstantiated and provides no " ++
        "verified basis for depending on it.")
      acceptancePredicates := some [
        "The assumption is either removed or supported by bounded matching evidence."] }

def assumptionCandidates (request : AnalysisRequest) : List Finding :=
  objections request.plan.assumptions fun assumption index =>
    if assumption.status = .unsubstantiated then some (assumptionCandidate request assumption index)
    else none

def environmentWords : List String := ["mock", "substitute", "same process", "environment"]

/-- The first evidence of the request whose claim is about an environment. -/
def environmentEvidence (request : AnalysisRequest) : Option Evidence :=
  request.evidence.find? fun item => environmentWords.any fun word =>
    Text.contains (Text.lower item.claim.val.toList) word.toList

/-- The environment that a proof requires and a validation does not have. -/
def missedEnvironment (validation : Validation) (proof : ProofObligation) : Option Words :=
  proof.requiredEnvironment.filter fun required => validation.requiredEnvironment ≠ some required

def environmentCandidate (request : AnalysisRequest) (validation : Validation) (index : Nat)
    (required : Words) : Finding :=
  let id := validation.validationId.val
  makeFinding ("semantic.environment." ++ id) .outputEnvironmentGap .semantic
    ["/plan/validations/" ++ numeral index ++ "/required_environment"]
    ("Validation " ++ id ++ " uses " ++
      validation.requiredEnvironment.elim "an unspecified environment" Subtype.val ++
      " while proof " ++ validation.proofId.val ++ " requires " ++ required.val ++ ".")
    [requestEvidenceRef request ((environmentEvidence request).map Evidence.evidenceId)]
    { requirementReferences := validation.requirementIds.val
      reasoning := some ("The visible validation boundary differs materially from the proof " ++
        "obligation's required environment.")
      acceptancePredicates := some [
        "Validation evidence is collected in the required environment: " ++ required.val ++ "."] }

def requiredTypes (proof : ProofObligation) : List EvidenceType :=
  proof.requiredEvidenceTypes.elim [] Subtype.val

/-- The types of evidence that a proof requires and a validation omits, sorted. -/
def omittedTypes (validation : Validation) (proof : ProofObligation) : List String :=
  (((requiredTypes proof).filter fun type => type ∉ validation.evidenceExpected.val).map
    Subtype.val).insertionSort (· ≤ ·)

/-- Whether a validation has another type or executor than its proof. -/
def proofMismatch (validation : Validation) (proof : ProofObligation) : Bool :=
  validation.proofType ≠ proof.proofType || validation.executor ≠ proof.executor

def evidenceCandidate (request : AnalysisRequest) (validation : Validation) (index : Nat)
    (omitted : List String) : Finding :=
  let id := validation.validationId.val
  makeFinding ("semantic.evidence." ++ id) .validationEvidenceGap .semantic
    ["/plan/validations/" ++ numeral index ++ "/evidence_expected"]
    ("Validation " ++ id ++ " " ++
      (if omitted.isEmpty then "changes the proof type or executor boundary"
        else "omits required evidence types " ++ wordsRepr omitted) ++
      " relative to proof " ++ validation.proofId.val ++ ".")
    [requestEvidenceRef request]
    { requirementReferences := validation.requirementIds.val
      reasoning := some ("Its planned evidence cannot satisfy the independently defined proof " ++
        "obligation.") }

def validationCandidates (request : AnalysisRequest) (validation : Validation) (index : Nat) :
    List Finding :=
  match byKey request.successDefinition.proofObligations.val ProofObligation.proofId
      validation.proofId with
  | none => []
  | some proof =>
    (missedEnvironment validation proof).toList.map
      (environmentCandidate request validation index) ++
    (if !(omittedTypes validation proof).isEmpty || proofMismatch validation proof then
      [evidenceCandidate request validation index (omittedTypes validation proof)] else [])

def candidates (request : AnalysisRequest) : List Finding :=
  assumptionCandidates request ++
  request.plan.validations.val.zipIdx.flatMap fun (validation, index) =>
    validationCandidates request validation index

end SemanticChecks

/-! ### Substantiation -/

def vague : List String :=
  ["validation might be incomplete", "there may be a problem", "consider adding more tests",
    "this could fail"]

def stopwords : List String :=
  ["this", "that", "with", "from", "into", "only", "plan", "validation", "finding", "might", "could",
    "would", "required", "evidence"]

/-- `_tokens(text)`. -/
def significantTokens (text : String) : List (List Char) :=
  ((Text.tokens (Text.lower text.toList)).filter fun token =>
    4 ≤ token.length ∧ token ∉ stopwords.map String.toList).dedup

/-- An item of a list at an index that may count from its end. -/
def pythonItem (items : List Json) (index : Int) : Option Json :=
  let position := if index < 0 then index + items.length else index
  if position < 0 then none else items[position.toNat]?

def stepInto (token : List Char) : Json → Option Json
  | .arr items => (Text.readInt token).bind (pythonItem items)
  | .obj fields => get? fields (String.ofList token)
  | _ => none

def pointerTokens (pointer : List Char) : List (List Char) :=
  ((pointer.dropWhile (· = '/')).splitOn '/').map fun token =>
    Text.replaceMark '~' '0' '~' (Text.replaceMark '~' '1' '/' token)

/-- `_resolve_pointer(root, pointer)`. -/
def resolvePointer (root : Json) (pointer : List Char) : Bool :=
  pointer.isEmpty ||
    ((pointerTokens pointer).foldl (fun current token => current.bind (stepInto token))
      (some root)).isSome

/-- A location without its leading `/plan`. -/
def planScoped (location : String) : List Char := Text.removeStart "/plan".toList location.toList

def supports (candidate : Finding) (item : Evidence) : Bool :=
  let claimed := significantTokens (candidate.specificClaim ++ " " ++ candidate.reasoning ++ " " ++
    candidate.whyItMatters)
  let shown := significantTokens (item.claim.val ++ " " ++ item.payloadSummary.getD "")
  2 ≤ (claimed.filter fun token => token ∈ shown).length ||
    (item.locator.kind = .jsonPointer && item.locator.value.val ∈ candidate.planLocations)

def cited (request : AnalysisRequest) (candidate : Finding) : List Evidence :=
  request.evidence.filter fun item => item.ref ∈ candidate.evidenceReferences

/-- **Why a candidate is not substantiated.** -/
def reasons (request : AnalysisRequest) (planLocationsAreEvidence : Bool) (candidate : Finding) :
    List String :=
  (if candidate.admitted then [] else ["finding.schema.json validation failed"]) ++
  (if candidate.origin = .semantic then []
    else ["semantic adapter may only propose semantic findings"]) ++
  (if Text.lower (Text.strip candidate.specificClaim.toList) ∈ vague.map String.toList ∨
      candidate.specificClaim.length < 16 then
    ["claim is vague or insufficiently specific"] else []) ++
  (if candidate.requirementReferences.any fun id =>
      id ∉ request.successDefinition.requirements.val.map Requirement.requirementId then
    ["finding references a requirement outside the locked success definition"] else []) ++
  ((candidate.planLocations.filter fun location =>
    !resolvePointer request.plan.toJson (planScoped location)).map fun location =>
      "plan location does not resolve: " ++ location) ++
  ((candidate.evidenceReferences.filter fun ref => !EvidenceChecks.resolves request ref).map
    fun ref => "evidence reference is absent or hash-mismatched: " ++ ref.evidenceId.val) ++
  (if candidate.evidenceReferences.isEmpty then ["finding has no bounded evidence"]
    else if (cited request candidate).any (supports candidate) ||
        (planLocationsAreEvidence && !candidate.planLocations.isEmpty) then []
    else ["cited evidence does not materially support the finding claim"])

/-- `dict.fromkeys(texts)`. -/
def firstOnly (texts : List String) : List String := texts.reverse.dedup.reverse

def rejection (request : AnalysisRequest) (planLocationsAreEvidence : Bool) (candidate : Finding) :
    RejectedFinding :=
  { findingId := candidate.findingId
    reason := "; ".intercalate (firstOnly (reasons request planLocationsAreEvidence candidate))
    evidenceReferences := candidate.evidenceReferences.filter (EvidenceChecks.resolves request) }

def substantiated (request : AnalysisRequest) (planLocationsAreEvidence : Bool)
    (candidate : Finding) : Bool := (reasons request planLocationsAreEvidence candidate).isEmpty

/-- `substantiate(candidates, request)`: the accepted candidates, and the others. -/
def substantiate (candidates : List Finding) (request : AnalysisRequest)
    (planLocationsAreEvidence : Bool := false) : List Finding × List RejectedFinding :=
  (candidates.filter (substantiated request planLocationsAreEvidence),
    (candidates.filter fun candidate =>
      !substantiated request planLocationsAreEvidence candidate).map
        (rejection request planLocationsAreEvidence))

end Audisor.Aflow
