/-
**The one answer of the local model, as a Fix reads it.**

* `oneJsonObject` — the answer is one JSON object, with no framing.
* `planFromJson`, `successDefinitionFromJson` — the corrected plan and the success definition, with the
  error of each check.
* `invokeLocalFix` — the whole boundary: the answer is read, then every check is grounded.
-/

import Audisor.Fix.Grounding
import Audisor.Json.Text
import Audisor.Number.Decimals
import Audisor.Text.Words

namespace Audisor.Fix

open Checked Json Text

/-! ### Errors -/

/-- An exception: its `code` where it has one, its type and text, and what an artifact reads of it. -/
structure Failure where
  code : Option String
  typeName : String
  message : String
  detail : Json := .str ""
  missingInputs : List Json := []
  gaps : List Json := []
  requiredCorrections : List Json := []
  retryPrompt : Json := .null

/-- `FixLocalInvocationError(code, message)`. -/
def invocationError (code message : String) : Failure :=
  { code := some code, typeName := "FixLocalInvocationError", message }

def schemaInvalid (message : String) : Failure := invocationError "schema_invalid" message

def pythonError (typeName message : String) : Failure := { code := none, typeName, message }

/-! ### The answer -/

/-- What the worker does: it raises, or its response has an answer, which need not be a text. -/
inductive WorkerReply where
  | raised
  | answered (answer : Option String)

/-- `not text.strip()`. -/
def isBlank (text : String) : Bool := (strip text.toList).isEmpty

def fence : List Char := List.replicate 3 (Char.ofNat 0x60)

/-- `_one_json_object(answer)`. -/
def oneJsonObject (answer : Option String) : Except Failure Dict :=
  match answer with
  | none => .error (invocationError "empty_response" "Fix model returned no content")
  | some answer =>
    let text := strip answer.toList
    if text.isEmpty then
      .error (invocationError "empty_response" "Fix model returned no content")
    else if fence.isPrefixOf text ∨ fence.isSuffixOf text then
      .error (invocationError "invalid_response_framing" "Markdown framing is not allowed")
    else
      match loads (String.ofList text) with
      | none => .error (invocationError "invalid_json" "Fix model returned invalid JSON")
      | some (.obj fields) => .ok fields
      | some _ =>
        .error (invocationError "invalid_response_framing" "Fix model must return one JSON object")

def writtenText (fields : Dict) (key : String) : Option String :=
  match get? fields key with
  | some (.str text) => if text ≠ "" then some text else none
  | _ => none

def concreteText (fields : Dict) (key : String) : Option String :=
  match get? fields key with
  | some (.str text) => if isBlank text then none else some text
  | _ => none

/-- `int(value)`, `none` where Python raises. -/
def intOf : Json → Option Int
  | .bool value => some (if value then 1 else 0)
  | .int value => some value
  | .float literal =>
    (Number.toDouble (literal.scaled.1 * 10 ^ literal.scaled.2.toNat /
      10 ^ (-literal.scaled.2).toNat)).map Number.truncate
  | .str text => readInt text.toList
  | _ => none

/-! ### The plan -/

def stepFromJson (findingIds files : List String) (item : Json) : Except Failure PlanStep :=
  let malformed : Except Failure PlanStep :=
    .error (schemaInvalid "Fix model emitted a malformed plan step")
  match item with
  | .obj fields =>
    match writtenText fields "id", writtenText fields "action", writtenText fields "target_file",
      writtenText fields "originating_finding_id" with
    | some id, some action, some targetFile, some originatingFindingId =>
      if originatingFindingId ∉ findingIds ∨ targetFile ∉ files then
        .error (invocationError "scope_violation" "Fix model step is outside the finding scope")
      else
        .ok { id, action, targetFile, originatingFindingId
              acceptanceCriterion := getD fields "acceptance_criterion" .null }
    | _, _, _, _ => malformed
  | _ => malformed

/-- `_plan_from_json(value, original, findings, manifest)`. -/
def planFromJson (value : Json) (findings : List Finding) (manifest : FixScopedManifest) :
    Except Failure ImplementationPlan :=
  match value with
  | .obj fields =>
    match get? fields "steps" with
    | some (.arr rawSteps) => do
      let steps ← rawSteps.mapM (stepFromJson (findings.map Finding.id) manifest.files)
      refuse (steps.isEmpty = true) (schemaInvalid "Fix model emitted no repair steps")
      return { steps
               targetFiles := (steps.map PlanStep.targetFile).dedup.insertionSort fun a b => a ≤ b
               isQualified := true
               minorIssues := [] }
    | _ => .error (schemaInvalid "Fix model plan steps are missing")
  | _ => .error (schemaInvalid "Fix model plan is not an object")

/-! ### The success definition -/

def resolutionMethods : List String := ["rescan", "test", "assertion"]

/-- `value in ("rescan", "test", "assertion")`. -/
def isResolutionMethod : Json → Option String
  | .str method => if method ∈ resolutionMethods then some method else none
  | _ => none

def checkFromJson (repr : PythonRepr) (findingIds : List String) (item : Json) :
    Except Failure FindingCheck :=
  match item with
  | .obj fields =>
    match writtenText fields "finding_id" with
    | none => .error (schemaInvalid "finding_check.finding_id is missing")
    | some findingId =>
      if findingId ∉ findingIds then
        .error (invocationError "unknown_finding_id"
          ("finding_check references unknown finding_id: " ++ findingId))
      else
        match isResolutionMethod (getD fields "resolution_method" .null) with
        | none =>
          .error (schemaInvalid ("finding_check.resolution_method is invalid: " ++
            repr.text (getD fields "resolution_method" .null)))
        | some resolutionMethod =>
          match concreteText fields "check" with
          | none => .error (schemaInvalid "finding_check.check must be concrete and non-empty")
          | some check =>
            match concreteText fields "expected_result" with
            | none =>
              .error (schemaInvalid "finding_check.expected_result must be concrete and non-empty")
            | some expectedResult => .ok { findingId, resolutionMethod, check, expectedResult }
  | _ => .error (schemaInvalid "finding_check is not an object")

def validationFromJson (seenIds : List String) (item : Json) : Except Failure ValidationSpec :=
  match item with
  | .obj fields =>
    match concreteText fields "id" with
    | none => .error (schemaInvalid "validation.id must be a stable non-empty string")
    | some id =>
      if id ∈ seenIds then .error (schemaInvalid ("validation.id is not unique: " ++ id))
      else
        match concreteText fields "command_or_assertion" with
        | none =>
          .error (schemaInvalid "validation.command_or_assertion must be concrete and non-empty")
        | some commandOrAssertion =>
          match concreteText fields "expected_result" with
          | none => .error (schemaInvalid "validation.expected_result must be non-empty")
          | some expectedResult => .ok { id, commandOrAssertion, expectedResult }
  | _ => .error (schemaInvalid "validation is not an object")

/-- The validations in their order, with the ids of those before. -/
def validationsFromJson (seenIds : List String) : List Json → Except Failure (List ValidationSpec)
  | [] => .ok []
  | item :: rest => do
    let validation ← validationFromJson seenIds item
    let others ← validationsFromJson (validation.id :: seenIds) rest
    return validation :: others

def uncovered (findingIds : List String) (checks : List FindingCheck) : List String :=
  findingIds.dedup.filter fun id => id ∉ checks.map FindingCheck.findingId

/-- `_success_definition_from_json(value, findings, manifest)`. -/
def successDefinitionFromJson (repr : PythonRepr) (value : Json) (findings : List Finding) :
    Except Failure SuccessDefinition :=
  let findingIds := findings.map Finding.id
  match value with
  | .obj fields =>
    match get? fields "finding_checks" with
    | some (.arr (first :: others)) => do
      let checks ← (first :: others).mapM (checkFromJson repr findingIds)
      refuse (uncovered findingIds checks ≠ []) (invocationError "verification_contract_incomplete"
        ("finding_checks do not cover every finding; missing: \x7b" ++ String.intercalate ", "
          ((uncovered findingIds checks).map fun id => repr.text (.str id)) ++ "\x7d"))
      match get? fields "validations" with
      | some (.arr rawValidations) =>
        let validations ← validationsFromJson [] rawValidations
        match get? fields "must_not_regress" with
        | some (.arr rawMustNotRegress) =>
          match concreteText fields "success_rule" with
          | some successRule =>
            return { findingChecks := checks, validations
                     mustNotRegress := rawMustNotRegress.map (strOf repr), successRule }
          | none =>
            .error (invocationError "verification_contract_incomplete"
              "success_definition.success_rule must be non-empty")
        | _ => .error (schemaInvalid "success_definition.must_not_regress is not a list")
      | _ => .error (schemaInvalid "success_definition.validations is not a list")
    | _ =>
      .error (invocationError "verification_contract_incomplete"
        "success_definition.finding_checks is missing or empty")
  | _ => .error (schemaInvalid "Fix model success_definition is not an object")

/-! ### The boundary -/

/-- `FixIgnitionResult`. -/
structure FixIgnitionResult where
  candidatePlan : ImplementationPlan
  implementationEligible : Bool
  successDefinition : SuccessDefinition
  verificationGrounding : VerificationGrounding

def responseFields : List String := ["status", "plan", "gap_corrections_applied", "success_definition"]

/-- The status of a response: whether it accepts. A list or an object cannot be looked up in a set. -/
def responseStatus : Json → Except Failure Bool
  | .str "accepted" => .ok true
  | .str "rejected" => .ok false
  | .arr _ => .error (pythonError "TypeError" "unhashable type: 'list'")
  | .obj _ => .error (pythonError "TypeError" "unhashable type: 'dict'")
  | _ => .error (schemaInvalid "Fix model response fields are invalid")

def checkCorrections (value : Json) : Except Failure Unit :=
  match intOf value with
  | none => .error (pythonError "ValueError" "invalid gap_corrections_applied")
  | some count =>
    refuse (count < 0) (invocationError "decision_inconsistent" "Fix gap correction count is invalid")

def groundResponse (repr : PythonRepr) (findings : List Finding) (manifest : FixScopedManifest)
    (success : SuccessDefinition) (catalog : ValidationSourceCatalog) :
    Except Failure VerificationGrounding :=
  match resolveGrounding repr findings manifest success catalog with
  | .ok grounding => .ok grounding
  | .error error => .error (invocationError error.code (error.code ++ ": " ++ error.message))

def readResponse (repr : PythonRepr) (fields : Dict) (plan : ImplementationPlan)
    (findings : List Finding) (manifest : FixScopedManifest)
    (configuredTestCommands : List (List String)) : Except Failure FixIgnitionResult := do
  refuse (¬ sameSet (fields.map Prod.fst) responseFields)
    (schemaInvalid "Fix model response fields are invalid")
  let implementationEligible ← responseStatus (getD fields "status" .null)
  let candidatePlan ← planFromJson (getD fields "plan" .null) findings manifest
  checkCorrections (getD fields "gap_corrections_applied" .null)
  let successDefinition ←
    successDefinitionFromJson repr (getD fields "success_definition" .null) findings
  let verificationGrounding ← groundResponse repr findings manifest successDefinition
    (buildValidationSourceCatalog findings plan configuredTestCommands)
  return { candidatePlan, implementationEligible, successDefinition, verificationGrounding }

/-- `invoke_local_fix(worker, plan, findings, manifest, ...)`. -/
def invokeLocalFix (repr : PythonRepr) (reply : WorkerReply) (plan : ImplementationPlan)
    (findings : List Finding) (manifest : FixScopedManifest)
    (configuredTestCommands : List (List String)) : Except Failure FixIgnitionResult :=
  match reply with
  | .raised => .error (invocationError "provider_failed" "Fix local provider request failed")
  | .answered answer => do
    let fields ← oneJsonObject answer
    readResponse repr fields plan findings manifest configuredTestCommands

end Audisor.Fix
