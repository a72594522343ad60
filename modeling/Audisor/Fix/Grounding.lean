/-
**Where each check of a success definition comes from.**

* `ValidationSourceCatalog` — the scanner checks, the tests and the acceptance criteria a check may be
  grounded in. `buildValidationSourceCatalog` collects them before the model is asked.
* `parseAssertion` — the deterministic assertions `form::path` and `form::path::literal`.
* `resolveGrounding` — each check and each validation with its source, or the `GroundingError`.
* `VerificationGrounding.toMapping` — the grounding as it is persisted.
-/

import Audisor.Aflow.Formats
import Audisor.Fix.Records
import Audisor.Interaction.Checked
import Audisor.Json.Str
import Audisor.Text.Words

namespace Audisor.Fix

open Checked Json Text

/-! ### Sources -/

structure ScannerCheckSource where
  findingId : String
  findingType : String
  repro : String
  scopedPath : String

structure ConfiguredTestSource where
  sourceId : String
  tokens : List String

structure RecordedTestSource where
  sourceId : String
  findingId : String
  tokens : List String

structure PlanAcceptanceSource where
  stepId : String
  findingId : String
  targetFile : String
  acceptanceCriterion : Json

structure ValidationSourceCatalog where
  scannerChecks : List ScannerCheckSource
  configuredTests : List ConfiguredTestSource
  recordedTests : List RecordedTestSource
  planAcceptances : List PlanAcceptanceSource

inductive CommandSource where
  | configured (source : ConfiguredTestSource)
  | recorded (source : RecordedTestSource)

/-- `catalog.lookup_command_source(source_id)`. -/
def ValidationSourceCatalog.lookupCommandSource (catalog : ValidationSourceCatalog)
    (sourceId : String) : Option CommandSource :=
  match catalog.configuredTests.find? fun source => source.sourceId = sourceId with
  | some source => some (.configured source)
  | none =>
    (catalog.recordedTests.find? fun source => source.sourceId = sourceId).map .recorded

/-! ### The catalog -/

def scannerCheckSource (finding : Finding) : Option ScannerCheckSource :=
  match getD finding.evidenceFields "repro" (.str "") with
  | .str repro =>
    if repro ≠ "" then
      some { findingId := finding.id, findingType := finding.type, repro, scopedPath := finding.file }
    else none
  | _ => none

/-- A list of texts, or `none`. -/
def textsOf? : List Json → Option (List String)
  | [] => some []
  | .str text :: rest => (textsOf? rest).map (text :: ·)
  | _ :: _ => none

/-- A finding that records a command. The command may be empty. -/
def recordedTestSource (finding : Finding) : Option RecordedTestSource :=
  match get? finding.evidenceFields "command" with
  | some (.arr command) =>
    (textsOf? command).map fun tokens =>
      { sourceId := "recorded-test-" ++ finding.id ++ "-001", findingId := finding.id, tokens }
  | _ => none

def threeDigits (n : Nat) : String :=
  String.ofList (List.replicate (3 - (decimal n).length) '0' ++ decimal n)

def configuredTestSources (commands : List (List String)) : List ConfiguredTestSource :=
  commands.mapIdx fun index tokens =>
    { sourceId := "configured-test-" ++ threeDigits (index + 1), tokens }

def planAcceptanceSource (step : PlanStep) : Option PlanAcceptanceSource :=
  if step.acceptanceCriterion.truthy then
    some { stepId := step.id, findingId := step.originatingFindingId, targetFile := step.targetFile
           acceptanceCriterion := step.acceptanceCriterion }
  else none

/-- `build_validation_source_catalog(...)`, as far as the resolver reads it. -/
def buildValidationSourceCatalog (findings : List Finding) (plan : ImplementationPlan)
    (configuredTestCommands : List (List String)) : ValidationSourceCatalog :=
  { scannerChecks := findings.filterMap scannerCheckSource
    configuredTests := configuredTestSources configuredTestCommands
    recordedTests := findings.filterMap recordedTestSource
    planAcceptances := plan.steps.filterMap planAcceptanceSource }

/-! ### Assertions -/

inductive AssertionForm where
  | scannerClear | fileExists | fileContains | fileNotContains | pythonCompiles | jsonParses
  deriving DecidableEq, Repr

def AssertionForm.value : AssertionForm → String
  | .scannerClear => "scanner_clear"
  | .fileExists => "file_exists"
  | .fileContains => "file_contains"
  | .fileNotContains => "file_not_contains"
  | .pythonCompiles => "python_compiles"
  | .jsonParses => "json_parses"

def assertionForms : List AssertionForm :=
  [.scannerClear, .fileExists, .fileContains, .fileNotContains, .pythonCompiles, .jsonParses]

/-- What the pattern takes as `rest`: `.+` stops at a newline, which may only end the text. -/
def restOfLine (text : List Char) : Option (List Char) :=
  let rest := Aflow.withoutNewline text
  if rest = [] ∨ '\n' ∈ rest then none else some rest

/-- `_ASSERTION_RE.match(assertion)`. -/
def matchAssertion (assertion : List Char) : Option (AssertionForm × List Char) :=
  assertionForms.findSome? fun form =>
    let start := form.value.toList ++ [':', ':']
    if start.isPrefixOf assertion then
      (restOfLine (assertion.drop start.length)).map fun rest => (form, rest)
    else none

/-- `rest.split("::", 1)`, where it gives two parts. -/
def splitColons : List Char → Option (List Char × List Char)
  | ':' :: ':' :: rest => some ([], rest)
  | c :: rest => (splitColons rest).map fun parts => (c :: parts.1, parts.2)
  | [] => none

/-- `parse_assertion(assertion)`: the form, the path, and the literal of a form that has one. -/
def parseAssertion (assertion : String) : Option (AssertionForm × String × Option String) :=
  match matchAssertion assertion.toList with
  | none => none
  | some (form, rest) =>
    if form = .fileContains ∨ form = .fileNotContains then
      (splitColons rest).map fun parts =>
        (form, String.ofList parts.1, some (String.ofList parts.2))
    else some (form, String.ofList rest, none)

/-- `is_valid_scoped_path(path, allowed_paths)`. -/
def isValidScopedPath (path : String) (allowedPaths : List String) : Bool :=
  path ≠ "" && !isAbsolute path && !(pathParts path).contains ".." &&
    path.toList.head? != some '\\' && allowedPaths.contains path

/-! ### Groundings -/

inductive GroundingType where
  | scannerCheck | planAcceptance | deterministicAssertion | recordedTest | configuredTest
  deriving DecidableEq, Repr

def GroundingType.value : GroundingType → String
  | .scannerCheck => "scanner_check"
  | .planAcceptance => "plan_acceptance"
  | .deterministicAssertion => "deterministic_assertion"
  | .recordedTest => "recorded_test"
  | .configuredTest => "configured_test"

structure FindingCheckGrounding where
  findingId : String
  resolutionMethod : String
  sourceType : GroundingType
  sourceReference : String
  authorizedTokens : Option (List String)
  scopedPaths : List String

structure ValidationGrounding where
  validationId : String
  sourceType : GroundingType
  sourceReference : String
  authorizedTokens : Option (List String)
  scopedPaths : List String

structure VerificationGrounding where
  findingChecks : List FindingCheckGrounding
  validations : List ValidationGrounding

/-- `list(tokens) if tokens else None`. -/
def tokensJson : Option (List String) → Json
  | some (token :: rest) => textsJson (token :: rest)
  | _ => .null

def FindingCheckGrounding.toMapping (grounding : FindingCheckGrounding) : Json :=
  .obj [("finding_id", .str grounding.findingId),
    ("resolution_method", .str grounding.resolutionMethod),
    ("source_type", .str grounding.sourceType.value),
    ("source_reference", .str grounding.sourceReference),
    ("authorized_tokens", tokensJson grounding.authorizedTokens),
    ("scoped_paths", textsJson grounding.scopedPaths)]

def ValidationGrounding.toMapping (grounding : ValidationGrounding) : Json :=
  .obj [("validation_id", .str grounding.validationId),
    ("source_type", .str grounding.sourceType.value),
    ("source_reference", .str grounding.sourceReference),
    ("authorized_tokens", tokensJson grounding.authorizedTokens),
    ("scoped_paths", textsJson grounding.scopedPaths)]

def VerificationGrounding.toMapping (grounding : VerificationGrounding) : Json :=
  .obj [("finding_checks", .arr (grounding.findingChecks.map FindingCheckGrounding.toMapping)),
    ("validations", .arr (grounding.validations.map ValidationGrounding.toMapping))]

/-! ### The resolver -/

structure GroundingError where
  code : String
  message : String

def notGrounded (message : String) : GroundingError := { code := "validation_not_grounded", message }

/-- `REQUIRED_SUCCESS_RULE`. -/
def requiredSuccessRule : String := "all_finding_checks_and_validations_pass"

/-- `_ground_finding_check(...)`: the scanner first, then the plan, an assertion, a recorded test. -/
def groundFindingCheck (repr : PythonRepr) (findings : List Finding) (allowedPaths : List String)
    (catalog : ValidationSourceCatalog) (check : FindingCheck) :
    Except GroundingError FindingCheckGrounding :=
  let grounded (sourceType : GroundingType) (sourceReference : String)
      (authorizedTokens : Option (List String)) (scopedPath : String) : FindingCheckGrounding :=
    { findingId := check.findingId, resolutionMethod := check.resolutionMethod, sourceType
      sourceReference, authorizedTokens, scopedPaths := [scopedPath] }
  match findings.find? fun finding => finding.id = check.findingId with
  | none =>
    .error (notGrounded ("finding_check references unknown finding_id: " ++ check.findingId))
  | some finding =>
    match catalog.scannerChecks.find? fun source => source.findingId = check.findingId with
    | some source =>
      .ok (grounded .scannerCheck ("scanner:" ++ source.findingId) none source.scopedPath)
    | none =>
      match catalog.planAcceptances.find? fun source => source.findingId = check.findingId with
      | some source =>
        .ok (grounded .planAcceptance ("plan:" ++ source.stepId) none source.targetFile)
      | none =>
        match parseAssertion check.check with
        | some (form, path, _) =>
          if form = .scannerClear then
            if path ≠ check.findingId then
              .error (notGrounded ("scanner_clear assertion references " ++ path ++ ", expected " ++
                check.findingId))
            else
              .ok (grounded .deterministicAssertion ("assertion:" ++ check.check) none finding.file)
          else if ¬ isValidScopedPath path allowedPaths then
            .error (notGrounded ("assertion references invalid or out-of-scope path: " ++ path))
          else .ok (grounded .deterministicAssertion ("assertion:" ++ check.check) none path)
        | none =>
          match catalog.lookupCommandSource check.check with
          | some (.recorded source) =>
            if source.findingId = check.findingId then
              .ok (grounded .recordedTest source.sourceId (some source.tokens) finding.file)
            else
              .error (notGrounded ("finding_check for " ++ check.findingId ++
                " cannot be grounded: " ++ repr.text (.str check.check)))
          | _ =>
            .error (notGrounded ("finding_check for " ++ check.findingId ++
              " cannot be grounded: " ++ repr.text (.str check.check)))

/-- `_ground_validation(...)`: an assertion first, then a configured or a recorded test. -/
def groundValidation (repr : PythonRepr) (allowedPaths : List String)
    (catalog : ValidationSourceCatalog) (validation : ValidationSpec) :
    Except GroundingError ValidationGrounding :=
  let grounded (sourceType : GroundingType) (sourceReference : String)
      (authorizedTokens : Option (List String)) (scopedPaths : List String) : ValidationGrounding :=
    { validationId := validation.id, sourceType, sourceReference, authorizedTokens, scopedPaths }
  match parseAssertion validation.commandOrAssertion with
  | some (form, path, _) =>
    if form = .scannerClear then
      .error (notGrounded ("scanner_clear assertion is not valid for validation: " ++
        repr.text (.str validation.commandOrAssertion)))
    else if ¬ isValidScopedPath path allowedPaths then
      .error (notGrounded ("assertion references invalid or out-of-scope path: " ++ path))
    else
      .ok (grounded .deterministicAssertion ("assertion:" ++ validation.commandOrAssertion) none
        [path])
  | none =>
    match catalog.lookupCommandSource validation.commandOrAssertion with
    | some (.configured source) =>
      .ok (grounded .configuredTest source.sourceId (some source.tokens) [])
    | some (.recorded source) => .ok (grounded .recordedTest source.sourceId (some source.tokens) [])
    | none =>
      .error (notGrounded ("validation " ++ validation.id ++ " cannot be grounded: " ++
        repr.text (.str validation.commandOrAssertion)))

def FixScopedManifest.allowedPaths (manifest : FixScopedManifest) : List String :=
  manifest.files ++ manifest.dependencyClosure

/-- `ValidationGroundingResolver.resolve(...)`. -/
def resolveGrounding (repr : PythonRepr) (findings : List Finding) (manifest : FixScopedManifest)
    (success : SuccessDefinition) (catalog : ValidationSourceCatalog) :
    Except GroundingError VerificationGrounding := do
  refuse (success.successRule ≠ requiredSuccessRule) {
    code := "unsupported_success_rule"
    message := "success_rule must be '" ++ requiredSuccessRule ++ "', got: " ++
      repr.text (.str success.successRule) }
  let findingChecks ← success.findingChecks.mapM
    (groundFindingCheck repr findings manifest.allowedPaths catalog)
  let validations ← success.validations.mapM
    (groundValidation repr manifest.allowedPaths catalog)
  return { findingChecks, validations }

end Audisor.Fix
