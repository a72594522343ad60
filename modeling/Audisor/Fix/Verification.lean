/-
**The verification behind an implementation.**

* `VerifierOp` — what the verifier asks: the result it may have left before, the scan, the files, the
  commands.
* `reconstructScanConfig` — the configuration of the scan, as the scanner context states it.
* `evaluateDeterministicAssertion`, `executeAuthorizedCommand` — what a check comes down to.
* `evaluateFindingChecks`, `evaluateValidations` — the entries of the contract, each with the record that
  grounds it.
* `verify` — the whole of `FixPostExecutionVerifier.verify`.
-/

import Audisor.Aflow.Hashing
import Audisor.Fix.Continuation
import Audisor.Interaction.Outcome

namespace Audisor.Fix

open Checked Interaction Json Text

variable (repr : PythonRepr)

/-! ### The configuration of the scan -/

/-- `type(value).__name__`. -/
def typeName : Json → String
  | .null => "NoneType"
  | .bool _ => "bool"
  | .int _ => "int"
  | .float _ => "float"
  | .str _ => "str"
  | .arr _ => "list"
  | .obj _ => "dict"

structure ScanConfig where
  excludedDirs : List String
  excludedFiles : List String
  extensions : List String
  testCommands : List (List String)
  contractRequirements : List (String × List String)
  sourceRoots : List String
  repositoryRoot : String

/-- `FixVerificationError(code, message)`. -/
def verificationError (code message : String) : Failure :=
  { code := some code, typeName := "FixVerificationError", message := code ++ ": " ++ message }

def contextInvalid (message : String) : Failure := verificationError "scanner_context_invalid" message

/-- An item that must be a text; `what` is the start of the message. -/
def textItem (what : String) : Json → Except Failure String
  | .str text => .ok text
  | value => .error (contextInvalid (what ++ repr.text value))

/-- `_as_str_set(value)` and `_as_str_tuple(value)`; `expected` is what the message asks for. -/
def asTexts (expected : String) : Json → Except Failure (List String)
  | .null => .ok []
  | .arr items => items.mapM (textItem repr "scanner_context field contains non-string: ")
  | value => .error (contextInvalid ("scanner_context field expected " ++ expected ++
      ", got: " ++ typeName value))

def asTextSet : Json → Except Failure (List String) := asTexts repr "iterable of strings"

def asTextTuple : Json → Except Failure (List String) := asTexts repr "list of strings"

/-- One entry of `test_commands`. -/
def commandTuple : Json → Except Failure (List String)
  | .arr tokens =>
    tokens.mapM (textItem repr "scanner_context.test_commands entry contains non-string: ")
  | value => .error (contextInvalid ("scanner_context.test_commands entry expected list, got: " ++
      typeName value))

/-- `_as_command_tuples(value)`. -/
def asCommandTuples : Json → Except Failure (List (List String))
  | .null => .ok []
  | .arr items => items.mapM (commandTuple repr)
  | value => .error (contextInvalid ("scanner_context.test_commands expected list, got: " ++
      typeName value))

/-- One entry of `contract_requirements`. -/
def contractRequirement : Json → Except Failure (String × List String)
  | .arr [.str path, .arr fields] => do
    let names ← fields.mapM fun field =>
      match field with
      | .str name => .ok name
      | _ => .error (contextInvalid
          ("scanner_context.contract_requirements field must be string, got: " ++ typeName field))
    return (path, names)
  | .arr [.str _, value] => .error (contextInvalid
      ("scanner_context.contract_requirements fields must be list, got: " ++ typeName value))
  | .arr [path, _] => .error (contextInvalid
      ("scanner_context.contract_requirements path must be string, got: " ++ typeName path))
  | value => .error (contextInvalid
      ("scanner_context.contract_requirements entry expected [path, fields], got: " ++ repr.text value))

/-- `_as_contract_requirements(value)`. -/
def asContractRequirements : Json → Except Failure (List (String × List String))
  | .null => .ok []
  | .arr items => items.mapM (contractRequirement repr)
  | value => .error (contextInvalid ("scanner_context.contract_requirements expected list, got: " ++
      typeName value))

/-- `reconstruct_scan_config(scanner_context)`. -/
def reconstructScanConfig (context : Dict) : Except Failure ScanConfig :=
  match concreteText context "repository_root" with
  | none => .error (contextInvalid "scanner_context.repository_root is missing or empty")
  | some repositoryRoot => do
    let excludedDirs ← asTextSet repr (getD context "excluded_dirs" .null)
    let excludedFiles ← asTextSet repr (getD context "excluded_files" .null)
    let extensions ← asTextSet repr (getD context "extensions" .null)
    let testCommands ← asCommandTuples repr (getD context "test_commands" .null)
    let contractRequirements ← asContractRequirements repr (getD context "contract_requirements" .null)
    let sourceRoots ← asTextTuple repr (getD context "source_roots" .null)
    return { excludedDirs, excludedFiles, extensions, testCommands, contractRequirements, sourceRoots
             repositoryRoot }

/-! ### The scan -/

/-- What a rule of the scanner reports. -/
structure Detection where
  kind : String
  file : String
  severity : String
  evidence : Dict

/-- `_finding(kind, file, severity, evidence)`: its id is the start of a hash over the rest. -/
def Detection.finding (sha : Aflow.Sha256) (detection : Detection) : Finding :=
  let payload : Json := .obj [("type", .str detection.kind), ("file", .str detection.file),
    ("severity", .str detection.severity), ("evidence", .obj detection.evidence)]
  { id := "scan-" ++ String.ofList
      ((sha.hexdigest ((sortKeys payload).dumps { compact := true })).toList.take 16)
    type := detection.kind
    file := detection.file
    severity := detection.severity
    evidence := .obj detection.evidence }

def Finding.before (first second : Finding) : Bool :=
  decide (first.file < second.file) || (first.file == second.file &&
    (decide (first.type < second.type) || (first.type == second.type && decide (first.id ≤ second.id))))

def reportOf (sha : Aflow.Sha256) (detections : List Detection) : List Finding :=
  (detections.map (Detection.finding sha)).mergeSort Finding.before

def scannerEvidence (report : List Finding) : List String :=
  (report.map Finding.id).filter fun id => id ≠ ""

/-! ### Questions -/

/-- What a command comes to. -/
inductive CommandOutcome where
  | completed (returnCode : Int) (stdout stderr : String)
  | timeout (stdout stderr : String)
  | refused (message : String)
  | raised (failure : Failure)

/-- What is at a path. -/
inductive FileText where
  | missing
  | unreadable (message : String)
  | text (content : String)

/-- What the verifier asks. -/
inductive VerifierOp where
  | loadResult
  | rescan (config : ScanConfig) (root : String)
  | resolve (path : Path)
  | readFile (path : Path)
  | isDir (path : Path)
  | runCommand (tokens : List String) (cwd : Path)
  | persistResult (result : Json)

/-- What each question is answered with. A result that is no JSON is not there. -/
def VerifierOp.Answer : VerifierOp → Type
  | .loadResult => Option Json
  | .rescan _ _ => Except Failure (List Detection)
  | .resolve _ => Path
  | .readFile _ => FileText
  | .isDir _ => Bool
  | .runCommand _ _ => CommandOutcome
  | .persistResult _ => Except Failure Unit

/-- The signature of the verifier. -/
abbrev verifierSignature : Signature := ⟨VerifierOp, VerifierOp.Answer⟩

/-- A computation of the verifier. -/
abbrev VerifierProgram := Program verifierSignature Failure

def inquire (op : VerifierOp) : VerifierProgram op.Answer := .ask (S := verifierSignature) op .done

/-! ### Results -/

structure FindingCheckResult where
  findingId : String
  checkId : String
  passed : Bool
  sourceType : String
  sourceReference : String
  reason : Json

def FindingCheckResult.toMapping (result : FindingCheckResult) : Json :=
  .obj [("finding_id", .str result.findingId), ("check_id", .str result.checkId),
    ("passed", .bool result.passed), ("source_type", .str result.sourceType),
    ("source_reference", .str result.sourceReference), ("reason", result.reason)]

structure ValidationResult where
  validationId : String
  passed : Bool
  sourceType : String
  sourceReference : String
  exitCode : Json
  stdout : Json
  stderr : Json
  reason : Json

def ValidationResult.toMapping (result : ValidationResult) : Json :=
  .obj [("validation_id", .str result.validationId), ("passed", .bool result.passed),
    ("source_type", .str result.sourceType), ("source_reference", .str result.sourceReference),
    ("exit_code", result.exitCode), ("stdout", result.stdout), ("stderr", result.stderr),
    ("reason", result.reason)]

structure FixVerificationResult where
  operationId : String
  repositoryRoot : String
  codexResultReference : String
  verificationPerformed : Bool
  successRule : String
  originalFindingIds : List Json
  remainingFindingIds : List Json
  findingResults : List FindingCheckResult
  validationResults : List ValidationResult
  passed : Bool
  completionClaimed : Bool
  failureCode : Json
  failureMessage : Json

def FixVerificationResult.toMapping (result : FixVerificationResult) : Json :=
  .obj [("operation_id", .str result.operationId), ("repository_root", .str result.repositoryRoot),
    ("codex_result_reference", .str result.codexResultReference),
    ("verification_performed", .bool result.verificationPerformed),
    ("success_rule", .str result.successRule),
    ("scanner_result", .obj [("original_finding_ids", .arr result.originalFindingIds),
      ("remaining_original_finding_ids", .arr result.remainingFindingIds)]),
    ("finding_results", .arr (result.findingResults.map FindingCheckResult.toMapping)),
    ("validation_results", .arr (result.validationResults.map ValidationResult.toMapping)),
    ("passed", .bool result.passed), ("completion_claimed", .bool result.completionClaimed),
    ("failure_code", result.failureCode), ("failure_message", result.failureMessage)]

/-! ### A result that is there -/

/-- `str(item.get(key, ""))`. -/
def textField (fields : Dict) (key : String) : String := strOf repr (getD fields key (.str ""))

/-- `bool(item.get(key, False))`. -/
def flagField (fields : Dict) (key : String) : Bool := (getD fields key (.bool false)).truthy

def objectsOf (items : List Json) : List Dict :=
  items.filterMap fun item =>
    match item with
    | .obj fields => some fields
    | _ => none

def readFindingResult (fields : Dict) : FindingCheckResult where
  findingId := textField repr fields "finding_id"
  checkId := textField repr fields "check_id"
  passed := flagField fields "passed"
  sourceType := textField repr fields "source_type"
  sourceReference := textField repr fields "source_reference"
  reason := getD fields "reason" .null

def readValidationResult (fields : Dict) : ValidationResult where
  validationId := textField repr fields "validation_id"
  passed := flagField fields "passed"
  sourceType := textField repr fields "source_type"
  sourceReference := textField repr fields "source_reference"
  exitCode := getD fields "exit_code" .null
  stdout := getD fields "stdout" .null
  stderr := getD fields "stderr" .null
  reason := getD fields "reason" .null

/-- `data.get("scanner_result", {}) or {}`, which must then have a `get`. -/
def scannerResultOf (data : Dict) : Except Failure Dict :=
  match getD data "scanner_result" (.obj []) with
  | .obj fields => .ok fields
  | value =>
    if value.truthy then
      .error (pythonError "AttributeError" ("'" ++ typeName value ++ "' object has no attribute 'get'"))
    else .ok []

/-- The result that a document states; what is not iterable raises `TypeError`. -/
def resultFrom (data : Dict) : Except Failure FixVerificationResult := do
  let findingResults ← iterate (getD data "finding_results" (.arr []))
  let validationResults ← iterate (getD data "validation_results" (.arr []))
  let scannerResult ← scannerResultOf data
  let originalFindingIds ← iterate (getD scannerResult "original_finding_ids" (.arr []))
  let remainingFindingIds ← iterate (getD scannerResult "remaining_original_finding_ids" (.arr []))
  return {
    operationId := textField repr data "operation_id"
    repositoryRoot := textField repr data "repository_root"
    codexResultReference := textField repr data "codex_result_reference"
    verificationPerformed := flagField data "verification_performed"
    successRule := textField repr data "success_rule"
    originalFindingIds, remainingFindingIds
    findingResults := (objectsOf findingResults).map (readFindingResult repr)
    validationResults := (objectsOf validationResults).map (readValidationResult repr)
    passed := flagField data "passed"
    completionClaimed := flagField data "completion_claimed"
    failureCode := getD data "failure_code" .null
    failureMessage := getD data "failure_message" .null }

/-- `_load_existing_result(root)` of what the file holds: a `TypeError` makes it absent. -/
def existingResult (document : Option Json) : Except Failure (Option FixVerificationResult) :=
  match document with
  | some (.obj data) =>
    match resultFrom repr data with
    | .ok result => .ok (some result)
    | .error failure => if failure.typeName = "TypeError" then .ok none else .error failure
  | _ => .ok none

/-! ### Assertions -/

/-- What the assertions ask of Python: the message of a syntax error, and of a text that is no JSON. -/
structure Readers where
  syntaxError : String → Option String
  jsonMessage : String → String

/-- Whether a check holds, and why not. -/
structure Verdict where
  passed : Bool
  reason : Json

def Verdict.holds : Verdict := { passed := true, reason := .null }

def Verdict.fails (reason : String) : Verdict := { passed := false, reason := .str reason }

/-- `_is_in_scope(rel_path, scoped_paths)`. -/
def isInScope (relPath : String) (scopedPaths : Json) : Except Failure Bool :=
  if scopedPaths.truthy = false ∨ relPath = "" ∨ isAbsolute relPath = true ∨ ".." ∈ pathParts relPath then
    .ok false
  else do
    let paths ← iterate scopedPaths
    return paths.contains (.str relPath)

def assertionVerdict (readers : Readers) (form : AssertionForm) (relPath : String)
    (literal : Option String) (file : FileText) : Verdict :=
  match form, file with
  | .scannerClear, _ => .fails ("unsupported assertion form: " ++ repr.text (.str form.value))
  | _, .missing => .fails ("file does not exist: " ++ relPath)
  | .fileExists, _ => .holds
  | _, .unreadable message => .fails ("could not read file: " ++ message)
  | .fileContains, .text content =>
    if literal.all fun word => contains content.toList word.toList then .holds
    else .fails ("literal not found in " ++ relPath)
  | .fileNotContains, .text content =>
    if literal.all fun word => !contains content.toList word.toList then .holds
    else .fails ("literal found in " ++ relPath)
  | .pythonCompiles, .text content =>
    match readers.syntaxError content with
    | some message => .fails ("python syntax error: " ++ message)
    | none => .holds
  | .jsonParses, .text content =>
    if (loads content).isSome then .holds
    else .fails ("json parse error: " ++ readers.jsonMessage content)

/-- `_evaluate_deterministic_assertion(...)`. -/
def evaluateDeterministicAssertion (readers : Readers) (form : AssertionForm) (relPath : String)
    (literal : Option String) (root : String) (scopedPaths : Json) : VerifierProgram Verdict := do
  let inScope ← .ofExcept (isInScope relPath scopedPaths)
  if inScope then
    let base ← inquire (.resolve (pathParts root))
    let target ← inquire (.resolve (Path.joined base relPath))
    if base.isPrefixOf target then
      let file ← inquire (.readFile target)
      return assertionVerdict repr readers form relPath literal file
    else
      .raise (verificationError "path_out_of_scope"
        ("path " ++ repr.text (.str relPath) ++ " escapes repository root"))
  else return .fails ("path " ++ repr.text (.str relPath) ++ " is not in approved scope")

/-! ### Commands -/

/-- `SUPPORTED_EXPECTED_RESULTS`. -/
def supportedExpectedResults : List String :=
  ["exit code 0", "exists", "contains", "absent", "compiles", "parses"]

/-- What the execution of a command gives. -/
structure CommandResult where
  passed : Bool
  exitCode : Json
  stdout : Json
  stderr : Json
  reason : Json

def CommandResult.fails (reason : String) : CommandResult :=
  { passed := false, exitCode := .null, stdout := .null, stderr := .null, reason := .str reason }

/-- What a command comes to; an exception that is not caught leaves the verifier. -/
def commandResult (expected : String) : CommandOutcome → Except Failure CommandResult
  | .timeout stdout stderr => .ok { passed := false, exitCode := .null, stdout := .str stdout
                                    stderr := .str stderr, reason := .str "command_timeout" }
  | .refused message => .ok (.fails ("command_execution_failed: " ++ message))
  | .raised failure => .error failure
  | .completed code stdout stderr =>
    let ran (passed : Bool) (reason : Json) : CommandResult :=
      { passed, exitCode := .int code, stdout := .str stdout, stderr := .str stderr, reason }
    if expected = "exit code 0" then
      if code = 0 then .ok (ran true .null)
      else .ok (ran false (.str ("command exited with code " ++ String.ofList (renderInt code))))
    else .ok (ran false (.str ("unsupported_expected_result: " ++ repr.text (.str expected))))

/-- `_execute_authorized_command_full(...)`. -/
def executeAuthorizedCommand (tokens : List String) (root expected : String) :
    VerifierProgram CommandResult :=
  if tokens = [] ∨ "" ∈ tokens then .done (.fails "malformed authorized_tokens")
  else if expected ∉ supportedExpectedResults then
    .done (.fails ("unsupported_expected_result: " ++ repr.text (.str expected)))
  else do
    let cwd ← inquire (.resolve (pathParts root))
    let isDir : Bool ← inquire (.isDir cwd)
    if isDir then
      let outcome ← inquire (.runCommand tokens cwd)
      .ofExcept (commandResult repr expected outcome)
    else return .fails ("repository_root is not a directory: " ++ root)

/-! ### The entries of the contract -/

def groundingOf (idField : String) (records : List Json) (id : String) : Option Dict :=
  (objectsOf records).reverse.find? fun fields => get? fields idField = some (.str id)

/-- `authorized_tokens`, where it is a list, as texts. -/
def authorizedTokens (grounding : Dict) : List String :=
  match getD grounding "authorized_tokens" .null with
  | .arr tokens => tokens.map (strOf repr)
  | _ => []

def entriesOf (fields : Dict) (key : String) : List Json :=
  match getD fields key (.arr []) with
  | .arr entries => entries
  | _ => []

def scannerClear (evidence : List String) (findingId : String) : Verdict :=
  if findingId ∈ evidence then .fails ("finding " ++ findingId ++ " still present in post-scan")
  else .holds

/-- One round of the loop over the finding checks, with the record of the finding. -/
def findingCheckVerdict (readers : Readers) (root : String) (evidence : List String) (check : Dict)
    (grounding : Dict) : VerifierProgram Verdict :=
  let findingId := textField repr check "finding_id"
  let sourceType := textField repr grounding "source_type"
  if sourceType = "scanner_check" then .done (scannerClear evidence findingId)
  -- a plan step whose target is the file of the finding
  else if sourceType = "plan_acceptance" then .done (scannerClear evidence findingId)
  else if sourceType = "deterministic_assertion" then
    match parseAssertion (textField repr check "check") with
    | none => .done (.fails ("unparseable assertion: " ++ repr.text (.str (textField repr check "check"))))
    | some (form, path, literal) =>
      if form = .scannerClear then .done (scannerClear evidence findingId)
      else evaluateDeterministicAssertion repr readers form path literal root
        (getD grounding "scoped_paths" (.arr []))
  else if sourceType = "recorded_test" then
    if authorizedTokens repr grounding = [] then
      .done (.fails "missing authorized_tokens for recorded_test")
    else do
      let result ← executeAuthorizedCommand repr (authorizedTokens repr grounding) root
        (textField repr check "expected_result")
      return { passed := result.passed, reason := result.reason }
  else .done (.fails ("unsupported source_type: " ++ repr.text (.str sourceType)))

def evaluateFindingCheck (readers : Readers) (root : String) (evidence : List String)
    (records : List Json) (index : Nat) (check : Dict) : VerifierProgram FindingCheckResult :=
  let findingId := textField repr check "finding_id"
  let checkId := "finding_check:" ++ String.ofList (decimal index)
  match groundingOf "finding_id" records findingId with
  | none => .done { findingId, checkId, passed := false, sourceType := "unknown", sourceReference := ""
                    reason := .str "missing grounding for finding_check" }
  | some grounding => do
    let verdict ← findingCheckVerdict repr readers root evidence check grounding
    return { findingId, checkId, passed := verdict.passed
             sourceType := textField repr grounding "source_type"
             sourceReference := textField repr grounding "source_reference"
             reason := verdict.reason }

/-- The objects of a list, each with its place in the list. -/
def enumerateObjects (entries : List Json) : List (Nat × Dict) :=
  (entries.mapIdx fun index entry => (index, entry)).filterMap fun entry =>
    match entry.2 with
    | .obj fields => some (entry.1, fields)
    | _ => none

/-- `_evaluate_finding_checks(...)`. -/
def evaluateFindingChecks (readers : Readers) (root : String) (evidence : List String)
    (contract grounding : Dict) : VerifierProgram (List FindingCheckResult) :=
  (enumerateObjects (entriesOf contract "finding_checks")).mapM fun entry =>
    evaluateFindingCheck repr readers root evidence (entriesOf grounding "finding_checks") entry.1 entry.2

def Verdict.command (verdict : Verdict) : CommandResult :=
  { passed := verdict.passed, exitCode := .null, stdout := .null, stderr := .null, reason := verdict.reason }

/-- One round of the loop over the validations, with the record of the validation. -/
def validationVerdict (readers : Readers) (root : String) (validation grounding : Dict) :
    VerifierProgram CommandResult :=
  let sourceType := textField repr grounding "source_type"
  if sourceType = "deterministic_assertion" then
    match parseAssertion (textField repr validation "command_or_assertion") with
    | none => .done (.fails ("unparseable assertion: " ++
        repr.text (.str (textField repr validation "command_or_assertion"))))
    | some (form, path, literal) =>
      if form = .scannerClear then .done (.fails "scanner_clear is not valid for ValidationSpec")
      else do
        let verdict ← evaluateDeterministicAssertion repr readers form path literal root
          (getD grounding "scoped_paths" (.arr []))
        return verdict.command
  else if sourceType = "configured_test" ∨ sourceType = "recorded_test" then
    if authorizedTokens repr grounding = [] then
      .done (.fails "missing authorized_tokens for command source")
    else executeAuthorizedCommand repr (authorizedTokens repr grounding) root
      (textField repr validation "expected_result")
  else .done (.fails ("unsupported source_type: " ++ repr.text (.str sourceType)))

def evaluateValidation (readers : Readers) (root : String) (records : List Json) (validation : Dict) :
    VerifierProgram ValidationResult :=
  let validationId := textField repr validation "id"
  match groundingOf "validation_id" records validationId with
  | none => .done { validationId, passed := false, sourceType := "unknown", sourceReference := ""
                    exitCode := .null, stdout := .null, stderr := .null
                    reason := .str "missing grounding for validation" }
  | some grounding => do
    let result ← validationVerdict repr readers root validation grounding
    return { validationId, passed := result.passed
             sourceType := textField repr grounding "source_type"
             sourceReference := textField repr grounding "source_reference"
             exitCode := result.exitCode, stdout := result.stdout, stderr := result.stderr
             reason := result.reason }

/-- `_evaluate_validations(...)`. -/
def evaluateValidations (readers : Readers) (root : String) (contract grounding : Dict) :
    VerifierProgram (List ValidationResult) :=
  (objectsOf (entriesOf contract "validations")).mapM
    (evaluateValidation repr readers root (entriesOf grounding "validations"))

/-! ### The verification -/

/-- `SUPPORTED_SUCCESS_RULE`. -/
def supportedSuccessRule : String := "all_finding_checks_and_validations_pass"

/-- What `verify` is called with. -/
structure Verification where
  operationId : String
  repositoryRoot : String
  scannerContext : Dict
  originalFindings : List Json
  contract : Dict
  grounding : Dict
  codexResult : Dict

/-- `str(first or second or "")`. -/
def firstReference (codexResult : Dict) (first second : String) : String :=
  if (getD codexResult first .null).truthy then strOf repr (getD codexResult first .null)
  else if (getD codexResult second .null).truthy then strOf repr (getD codexResult second .null)
  else ""

def Verification.originalIds (verification : Verification) : List String :=
  (objectsOf verification.originalFindings).map fun finding => strOf repr (getD finding "id" .null)

def skippedResult (verification : Verification) : FixVerificationResult where
  operationId := verification.operationId
  repositoryRoot := verification.repositoryRoot
  codexResultReference := firstReference repr verification.codexResult "codex_result_reference" "reference"
  verificationPerformed := false
  successRule := ""
  originalFindingIds := []
  remainingFindingIds := []
  findingResults := []
  validationResults := []
  passed := false
  completionClaimed := false
  failureCode := .str "codex_exit_nonzero"
  failureMessage := .str ("Codex exited with code " ++
    strOf repr (getD verification.codexResult "exit_code" .null) ++ "; verification not run")

/-- The result under a success rule that is not supported. -/
def failedResult (verification : Verification) (remaining : List String)
    (findingResults : List FindingCheckResult) (validationResults : List ValidationResult) :
    FixVerificationResult where
  operationId := verification.operationId
  repositoryRoot := verification.repositoryRoot
  codexResultReference := firstReference repr verification.codexResult "codex_result_reference" "reference"
  verificationPerformed := true
  successRule := ""
  originalFindingIds := (verification.originalIds repr).map .str
  remainingFindingIds := remaining.map .str
  findingResults := findingResults
  validationResults := validationResults
  passed := false
  completionClaimed := false
  failureCode := .str "unsupported_success_rule"
  failureMessage := .str ("success_rule must be '" ++ supportedSuccessRule ++ "', got: " ++
    repr.text (getD verification.contract "success_rule" .null))

def verifiedResult (verification : Verification) (remaining : List String)
    (findingResults : List FindingCheckResult) (validationResults : List ValidationResult) :
    FixVerificationResult :=
  let passed := findingResults.all FindingCheckResult.passed &&
    validationResults.all ValidationResult.passed
  { operationId := verification.operationId
    repositoryRoot := verification.repositoryRoot
    codexResultReference :=
      firstReference repr verification.codexResult "reference" "codex_result_reference"
    verificationPerformed := true
    successRule := supportedSuccessRule
    originalFindingIds := (verification.originalIds repr).map .str
    remainingFindingIds := remaining.map .str
    findingResults, validationResults, passed
    completionClaimed := passed
    failureCode := if passed then .null else .str "verification_failed"
    failureMessage := if passed then .null else .str "One or more checks did not pass" }

def persisted (result : FixVerificationResult) : VerifierProgram FixVerificationResult := do
  let written ← inquire (.persistResult result.toMapping)
  match written with
  | .ok () => return result
  | .error failure => .raise failure

def verifyReport (readers : Readers) (verification : Verification) (report : List Finding) :
    VerifierProgram FixVerificationResult := do
  let remaining := (verification.originalIds repr).filter fun id => id ∈ scannerEvidence report
  let findingResults ← evaluateFindingChecks repr readers verification.repositoryRoot
    (scannerEvidence report) verification.contract verification.grounding
  let validationResults ← evaluateValidations repr readers verification.repositoryRoot
    verification.contract verification.grounding
  if getD verification.contract "success_rule" .null = .str supportedSuccessRule then
    persisted (verifiedResult repr verification remaining findingResults validationResults)
  else persisted (failedResult repr verification remaining findingResults validationResults)

def rescan (sha : Aflow.Sha256) (config : ScanConfig) (root : String) :
    VerifierProgram (List Finding) := do
  let detected ← inquire (.rescan config root)
  match detected with
  | .ok detections => return reportOf sha detections
  | .error failure => .raise failure

/-- **`FixPostExecutionVerifier.verify(...)`.** -/
def verify (sha : Aflow.Sha256) (readers : Readers) (verification : Verification) :
    VerifierProgram FixVerificationResult := do
  let document ← inquire .loadResult
  let existing ← .ofExcept (existingResult repr document)
  match existing with
  | some result => return result
  | none =>
    if Json.eq (getD verification.codexResult "exit_code" .null) (.int 0) then
      let config ← .ofExcept (reconstructScanConfig repr verification.scannerContext)
      let report ← rescan sha config verification.repositoryRoot
      verifyReport repr readers verification report
    else persisted (skippedResult repr verification)

end Audisor.Fix
