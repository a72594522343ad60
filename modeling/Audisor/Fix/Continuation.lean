/-
**What the continuation asks of a handoff.**

* `HandoffFile` — the file at the path of the handoff.
* `validateHandoff`, `validateVerificationContract`, `validateVerificationGrounding`,
  `validateScannerContextAndRoot`, `validatePlanTargets` — the five steps of `CodexFixContinuation.run`,
  each with its errors.
* `validateRun` — the steps in their order: the handoff and the root of the repository.
-/

import Audisor.Fix.LocalFix
import Audisor.Fix.PathSecurity

namespace Audisor.Fix

open Checked Json Text

variable (repr : PythonRepr)

/-! ### Python on values of any type -/

/-- `FixContinuationError(code, message)`. -/
def continuationError (code message : String) : Failure :=
  { code := some code, typeName := "FixContinuationError", message := code ++ ": " ++ message }

/-- `for item in value`, or the `TypeError`. -/
def iterate : Json → Except Failure (List Json)
  | .arr items => .ok items
  | .str text => .ok (text.toList.map fun c => .str (String.ofList [c]))
  | .obj fields => .ok ((fields.map Prod.fst).dedup.map .str)
  | _ => .error (pythonError "TypeError" "object is not iterable")

def isHashable : Json → Bool
  | .arr _ => false
  | .obj _ => false
  | _ => true

/-- `hash(value)`, or the `TypeError`. -/
def hash (value : Json) : Except Failure Unit :=
  refuse (isHashable value = false) (pythonError "TypeError" "unhashable type")

/-- `set(value)`, as a list. -/
def setOf (value : Json) : Except Failure (List Json) := do
  let items ← iterate value
  let _ ← items.mapM hash
  return items

/-- `value in items`, with Python's equality. -/
def isIn (value : Json) (items : List Json) : Bool := items.any fun item => Json.eq value item

/-- `value is False`. -/
def isFalse (value : Option Json) : Bool :=
  match value with
  | some (.bool false) => true
  | _ => false

/-! ### The handoff -/

/-- The file at the path of a handoff. -/
inductive HandoffFile where
  | absent
  | unreadable (message : String)
  | document (value : Json)

def authorityFields : List String :=
  ["mutation_authorized", "execution_authorized", "apply_authorized", "completion_claimed"]

/-- `_load_and_validate_handoff(handoff_path, expected_operation_id)`. -/
def validateHandoff (file : HandoffFile) (path expected : String) : Except Failure Dict :=
  match file with
  | .absent =>
    .error (continuationError "handoff_not_found" ("Qualified Fix handoff not found: " ++ path))
  | .unreadable message =>
    .error (continuationError "handoff_invalid"
      ("Qualified Fix handoff is not valid JSON: " ++ message))
  | .document (.obj handoff) => do
    let operationId := getD handoff "operation_id" .null
    refuse (operationId ≠ .str expected) (continuationError "handoff_operation_id_mismatch"
      ("Handoff operation_id '" ++ strOf repr operationId ++
        "' does not match canonical operation '" ++ expected ++ "'"))
    let operationType := getD handoff "operation_type" .null
    refuse (operationType ≠ .str "fix") (continuationError "handoff_operation_type_invalid"
      ("Handoff operation_type '" ++ strOf repr operationType ++ "' is not 'fix'"))
    match getD handoff "authority" (.obj []) with
    | .obj authority =>
      match authorityFields.find? fun field => !isFalse (get? authority field) with
      | some field =>
        .error (continuationError "handoff_authority_violation"
          ("Handoff authority field '" ++ field ++ "' must be false"))
      | none => return handoff
    | _ =>
      .error (continuationError "handoff_authority_invalid"
        "Handoff authority section is not a dict")
  | .document _ =>
    .error (continuationError "handoff_invalid" "Qualified Fix handoff is not a JSON object")

/-! ### The verification contract -/

def contractIncomplete (message : String) : Failure :=
  continuationError "verification_contract_incomplete" message

/-- The ids of the findings of a handoff that are objects. -/
def handoffFindingIds (handoff : Dict) : Except Failure (List Json) := do
  let findings ← iterate (getD handoff "findings" (.arr []))
  let ids := findings.filterMap fun finding =>
    match finding with
    | .obj fields => some (getD fields "id" .null)
    | _ => none
  let _ ← ids.mapM hash
  return ids

def validateFindingCheck (findingIds : List Json) (check : Json) : Except Failure Json :=
  match check with
  | .obj fields => do
    let findingId := getD fields "finding_id" .null
    hash findingId
    refuse (isIn findingId findingIds = false) (contractIncomplete
      ("finding_check references unknown finding_id: " ++ strOf repr findingId))
    refuse (isResolutionMethod (getD fields "resolution_method" .null) = none) (contractIncomplete
      ("finding_check.resolution_method is invalid: " ++
        repr.text (getD fields "resolution_method" .null)))
    refuse (concreteText fields "check" = none)
      (contractIncomplete "finding_check.check must be concrete and non-empty")
    refuse (concreteText fields "expected_result" = none)
      (contractIncomplete "finding_check.expected_result must be concrete and non-empty")
    return findingId
  | _ => .error (contractIncomplete "finding_check is not an object")

/-- One validation of a contract, with the ids of those before. -/
def validateValidation (seenIds : List String) (validation : Json) : Except Failure String :=
  match validation with
  | .obj fields =>
    match concreteText fields "id" with
    | none => .error (contractIncomplete "validation.id must be a stable non-empty string")
    | some id => do
      refuse (id ∈ seenIds) (contractIncomplete ("validation.id is not unique: " ++ id))
      refuse (concreteText fields "command_or_assertion" = none)
        (contractIncomplete "validation.command_or_assertion must be concrete and non-empty")
      refuse (concreteText fields "expected_result" = none)
        (contractIncomplete "validation.expected_result must be non-empty")
      return id
  | _ => .error (contractIncomplete "validation is not an object")

def validateValidations (seenIds : List String) : List Json → Except Failure Unit
  | [] => .ok ()
  | validation :: rest => do
    let id ← validateValidation seenIds validation
    validateValidations (id :: seenIds) rest

def uncoveredIds (findingIds covered : List Json) : List Json :=
  findingIds.filter fun id => !isIn id covered

/-- `_validate_verification_contract(handoff)`. -/
def validateVerificationContract (handoff : Dict) : Except Failure Unit :=
  match get? handoff "verification_contract" with
  | some (.obj contract) =>
    match get? contract "finding_checks" with
    | some (.arr findingChecks) => do
      let findingIds ← handoffFindingIds handoff
      let covered ← findingChecks.mapM (validateFindingCheck repr findingIds)
      refuse (findingChecks ≠ [] ∧ uncoveredIds findingIds covered ≠ []) (contractIncomplete
        ("finding_checks do not cover every finding; missing: \x7b" ++ String.intercalate ", "
          ((uncoveredIds findingIds covered).map repr.text) ++ "\x7d"))
      match get? contract "validations" with
      | some (.arr validations) =>
        validateValidations [] validations
        match get? contract "must_not_regress" with
        | some (.arr _) =>
          refuse (concreteText contract "success_rule" = none)
            (contractIncomplete "verification_contract.success_rule must be non-empty")
        | _ => .error (contractIncomplete "verification_contract.must_not_regress is not a list")
      | _ => .error (contractIncomplete "verification_contract.validations is not a list")
    | _ => .error (contractIncomplete "verification_contract.finding_checks must be a list")
  | _ => .error (contractIncomplete "Handoff does not contain a verification_contract")

/-! ### The verification grounding -/

def groundingIncomplete (message : String) : Failure :=
  continuationError "verification_grounding_incomplete" message

/-- A family of grounding records: what they are called, the field of their id, and the source types
that must and must not have tokens, with the two errors. -/
structure GroundingKind where
  record : String
  idField : String
  commandTypes : List String
  otherTypes : List String
  noTokens : String
  someTokens : String

def checkGroundings : GroundingKind where
  record := "finding_check grounding"
  idField := "finding_id"
  commandTypes := ["recorded_test"]
  otherTypes := ["scanner_check", "plan_acceptance", "deterministic_assertion"]
  noTokens := "finding_check grounding for command source has no authorized_tokens"
  someTokens := "finding_check grounding for non-command source has authorized_tokens"

def validationGroundings : GroundingKind where
  record := "validation grounding"
  idField := "validation_id"
  commandTypes := ["configured_test", "recorded_test"]
  otherTypes := ["deterministic_assertion"]
  noTokens := "validation grounding for command source has no authorized_tokens"
  someTokens := "validation grounding for assertion source has authorized_tokens"

/-- `value in (texts)`. -/
def isOneOf (value : Json) (texts : List String) : Bool :=
  match value with
  | .str text => texts.contains text
  | _ => false

/-- One grounding record: its fields, and tokens for commands only. -/
def validateGroundingRecord (kind : GroundingKind) (record : Json) : Except Failure Dict :=
  match record with
  | .obj fields =>
    match [kind.idField, "source_type", "source_reference", "scoped_paths"].find?
      fun field => !hasKey fields field with
    | some field =>
      .error (groundingIncomplete (kind.record ++ " missing field: " ++ field))
    | none => do
      let sourceType := getD fields "source_type" .null
      let tokens := getD fields "authorized_tokens" .null
      refuse (isOneOf sourceType kind.commandTypes = true ∧ tokens.truthy = false)
        (groundingIncomplete kind.noTokens)
      refuse (isOneOf sourceType kind.otherTypes = true ∧ tokens ≠ .null)
        (groundingIncomplete kind.someTokens)
      return fields
  | _ => .error (groundingIncomplete (kind.record ++ " is not an object"))

/-- The records of one kind, as many as the entries of the contract. -/
def groundingRecords (name : String) (grounding contract : Dict) : Except Failure (List Json) :=
  match getD grounding name (.arr []) with
  | .arr records => do
    -- the contract was validated before: its entry is a list
    let entries ← iterate (getD contract name (.arr []))
    refuse (records.length ≠ entries.length) (groundingIncomplete (name ++ " grounding count (" ++
      String.ofList (decimal records.length) ++ ") != contract count (" ++
      String.ofList (decimal entries.length) ++ ")"))
    return records
  | _ => .error (groundingIncomplete ("verification_grounding." ++ name ++ " is not a list"))

/-- Every scoped path of a record that is not empty is allowed. -/
def validateScopedPaths (allowed : List Json) (record : Dict) : Except Failure Unit := do
  let paths ← iterate (getD record "scoped_paths" (.arr []))
  let _ ← paths.mapM fun path => do
    if path.truthy then
      hash path
      refuse (isIn path allowed = false) (groundingIncomplete ("grounding scoped path '" ++
        strOf repr path ++ "' is not in scoped manifest or dependency closure"))
  return ()

/-- `_validate_verification_grounding(handoff)`. -/
def validateVerificationGrounding (handoff : Dict) : Except Failure Unit :=
  match get? handoff "verification_grounding" with
  | some (.obj grounding) =>
    match getD handoff "verification_contract" (.obj []) with
    | .obj contract => do
      let checks ← groundingRecords "finding_checks" grounding contract
      let validations ← groundingRecords "validations" grounding contract
      let checkRecords ← checks.mapM (validateGroundingRecord checkGroundings)
      let validationRecords ← validations.mapM (validateGroundingRecord validationGroundings)
      match getD handoff "scoped_manifest" (.obj []) with
      | .obj manifest =>
        let files ← setOf (getD manifest "files" (.arr []))
        let closure ← setOf (getD manifest "dependency_closure" (.arr []))
        let _ ← (checkRecords ++ validationRecords).mapM
          (validateScopedPaths repr (files ++ closure))
        return ()
      | _ => return ()
    | _ =>
      .error (groundingIncomplete "Cannot verify grounding without a verification_contract")
  | _ => .error (groundingIncomplete "Handoff does not contain verification_grounding")

/-! ### The scanner context and the root -/

def contextRequired (message : String) : Failure :=
  continuationError "scanner_context_required" message

def rootMismatch (message : String) : Failure :=
  continuationError "execution_root_mismatch" message

/-- A relative path without `..`; `absolute` and `traversal` are the texts of the two errors. -/
def validateInside (absolute traversal path : String) : Except Failure Unit := do
  refuse (isAbsolute path = true) (rootMismatch (absolute ++ path))
  refuse (".." ∈ pathParts path) (rootMismatch (traversal ++ path))

/-- The paths of one field of the manifest. What is no text is passed over. -/
def validateManifestPaths (manifest : Dict) (field : String) : Except Failure Unit :=
  match getD manifest field (.arr []) with
  | .arr paths => do
    let _ ← paths.mapM fun path =>
      match path with
      | .str text =>
        validateInside "Absolute scoped path not allowed: " "Path traversal not allowed: " text
      | _ => .ok ()
    return ()
  | _ => .ok ()

/-- The root of the workspace identity, where it states one, is the repository root. -/
def validateWorkspaceRoot (disk : Disk) (handoff : Dict) (root : String) (canonical : Path) :
    Except Failure Unit :=
  match getD handoff "workspace_identity" (.obj []) with
  | .obj identity =>
    match concreteText identity "root" with
    | some workspaceRoot => do
      refuse (isAbsolute workspaceRoot = false)
        (rootMismatch ("workspace_identity.root is not absolute: " ++ workspaceRoot))
      refuse (disk.resolve (pathParts workspaceRoot) ≠ canonical)
        (rootMismatch ("workspace_identity.root (" ++ workspaceRoot ++
          ") does not match repository_root (" ++ root ++ ")"))
    | none => .ok ()
  | _ => .ok ()

/-- `_validate_scanner_context_and_root(handoff, allowed_target_paths)`: the canonical root. -/
def validateScannerContextAndRoot (disk : Disk) (handoff : Dict) (allowedTargetPaths : List String) :
    Except Failure String :=
  match get? handoff "scanner_context" with
  | some (.obj context) =>
    match concreteText context "repository_root" with
    | none =>
      .error (contextRequired "scanner_context.repository_root is missing or empty")
    | some root => do
      refuse (isAbsolute root = false)
        (rootMismatch ("repository_root is not absolute: " ++ root))
      refuse (disk.isThere (pathParts root) = false)
        (rootMismatch ("repository_root does not exist: " ++ root))
      refuse (disk.isDir (pathParts root) = false)
        (rootMismatch ("repository_root is not a directory: " ++ root))
      let canonical := disk.resolve (pathParts root)
      validateWorkspaceRoot disk handoff root canonical
      match getD handoff "scoped_manifest" (.obj []) with
      | .obj manifest =>
        validateManifestPaths manifest "files"
        validateManifestPaths manifest "dependency_closure"
      | _ => pure ()
      let _ ← allowedTargetPaths.mapM fun target =>
        if target = "." then .ok ()
        else
          validateInside "Absolute target path not allowed: "
            "Path traversal not allowed in target: " target
      return Path.text canonical
  | _ => .error (contextRequired "Handoff does not contain scanner_context")

/-! ### The plan -/

def validatePlanTarget (disk : Disk) (allowedTargetPaths : List String) (manifestFiles : List Json)
    (target : Json) : Except Failure Unit :=
  match target with
  | .str path => do
    match checkPathAllowed disk path allowedTargetPaths disk.workingDirectory with
    | .error reason => .error (pythonError "PathSecurityError" reason)
    | .ok (some reason) =>
      .error (continuationError "plan_target_not_authorized"
        ("Plan target '" ++ path ++ "' is not inside authorized paths: " ++ reason))
    | .ok none =>
      refuse (isIn target manifestFiles = false) (continuationError "plan_target_outside_manifest"
        ("Plan target '" ++ path ++ "' is not in the scoped manifest"))
  | _ =>
    .error (continuationError "plan_target_invalid"
      ("Plan target is not a string: " ++ repr.text target))

/-- `_validate_plan_targets(handoff, allowed_target_paths)`. -/
def validatePlanTargets (disk : Disk) (handoff : Dict) (allowedTargetPaths : List String) :
    Except Failure Unit :=
  match getD handoff "qualified_plan" (.obj []) with
  | .obj plan =>
    match getD plan "target_files" (.arr []) with
    | .arr targets =>
      match getD handoff "scoped_manifest" (.obj []) with
      | .obj manifest => do
        let manifestFiles ← setOf (getD manifest "files" (.arr []))
        let _ ← targets.mapM (validatePlanTarget repr disk allowedTargetPaths manifestFiles)
        return ()
      | _ =>
        .error (continuationError "handoff_manifest_invalid"
          "Handoff scoped_manifest is not a dict")
    | _ =>
      .error (continuationError "handoff_plan_invalid" "Handoff plan target_files is not a list")
  | _ => .error (continuationError "handoff_plan_invalid" "Handoff qualified_plan is not a dict")

/-! ### The run -/

/-- **The validations of `CodexFixContinuation.run`**, in front of the launch: the handoff and the root
of the repository. -/
def validateRun (disk : Disk) (file : HandoffFile) (path operationId : String)
    (allowedTargetPaths : List String) : Except Failure (Dict × String) := do
  let handoff ← validateHandoff repr file path operationId
  validateVerificationContract repr handoff
  validateVerificationGrounding repr handoff
  let root ← validateScannerContextAndRoot disk handoff allowedTargetPaths
  validatePlanTargets repr disk handoff allowedTargetPaths
  return (handoff, root)

end Audisor.Fix
