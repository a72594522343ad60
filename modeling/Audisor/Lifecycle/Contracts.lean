/-
**Execution contracts and primary locks.**

* `canonicalText` — the text a lock hashes: sorted keys, compact separators, one newline.
* `verifyLock`, `acceptForPrimary` — the lock of a primary agent.
* `canonicalize` — the order of keys, and of the collections that are sets.
* `verifyContract` — a contract is in its canonical form and states the text and the hash of it.
* `validate`, **`assembleContract`** — the traceability a contract needs, and the contract itself.
-/

import Audisor.Aflow.Hashing
import Audisor.Fix.Records
import Audisor.Interaction.Checked
import Audisor.Json.Order
import Audisor.Text.Words

namespace Audisor.Lifecycle

open Checked Json Text
open Audisor.Aflow (Sha256 remove isHexChar)
open Audisor.Fix (sameSet)

/-! ### Errors -/

/-- The fields of an `AudisorRuntimeError`. -/
structure RuntimeError where
  category : String
  stage : String
  code : String
  message : String
  detail : String := ""
  deriving DecidableEq, Repr

/-- An exception: its type, its text, and its fields where it is an `AudisorRuntimeError`. -/
structure Raised where
  typeName : String
  message : String
  runtime : Option RuntimeError := none
  deriving DecidableEq, Repr

/-- `AudisorLifecycleError(message)`. -/
def lifecycleError (message : String) : Raised := { typeName := "AudisorLifecycleError", message }

def typeError (message : String) : Raised := { typeName := "TypeError", message }

def keyError (key : String) : Raised := { typeName := "KeyError", message := key }

/-- `value.get(..)` of a value that is no dict. -/
def attributeError : Raised :=
  { typeName := "AttributeError", message := "object has no attribute 'get'" }

/-- `AudisorRuntimeError(..)`. -/
def runtimeError (error : RuntimeError) : Raised :=
  { typeName := "AudisorRuntimeError"
    message := "[" ++ error.category ++ ":" ++ error.stage ++ ":" ++ error.code ++ "] " ++ error.message
    runtime := some error }

/-- `for item in value`. -/
def iterate : Json → Except Raised (List Json)
  | .arr items => .ok items
  | .str text => .ok (text.toList.map fun c => .str (String.ofList [c]))
  | .obj fields => .ok ((entries fields).map fun field => .str field.1)
  | _ => .error (typeError "object is not iterable")

/-- `value.get(key)`. -/
def attr (value : Json) (key : String) : Except Raised (Option Json) :=
  match value with
  | .obj fields => .ok (get? fields key)
  | _ => .error attributeError

/-- `fields.get(key) == text`. -/
def holdsText (fields : Dict) (key text : String) : Bool :=
  match get? fields key with
  | some (.str found) => found == text
  | _ => false

theorem holdsText_iff {fields : Dict} {key text : String} :
    holdsText fields key text = true ↔ get? fields key = some (.str text) := by
  unfold holdsText
  split
  · rename_i found stated
    rw [stated, beq_iff_eq, Option.some.injEq, Json.str.injEq]
  · rename_i other
    exact iff_of_false nofun (other text)

/-- `value.get(first, {}).get(second)`, where both are dicts. -/
def field? (value : Dict) (first second : String) : Option Json :=
  match get? value first with
  | some (.obj inner) => get? inner second
  | _ => none

/-! ### Canonical text -/

/-- `canonical_text(value)`. -/
def canonicalText (value : Json) : String :=
  (sortKeys (settled value)).dumps { ensureAscii := false, compact := true } ++ "\n"

/-- `PurePosixPath(text).root`. -/
def pathRoot (text : String) : String :=
  match text.toList with
  | '/' :: '/' :: '/' :: _ => "/"
  | '/' :: '/' :: _ => "//"
  | '/' :: _ => "/"
  | _ => ""

/-- `candidate == root or root in candidate.parents`, of two pure paths. -/
def isInside (child parent : String) : Bool :=
  pathRoot child == pathRoot parent && (pathParts parent).isPrefixOf (pathParts child)

/-- `_inside(child, parent)`: a parent that is no text is no path. -/
def inside (child : String) (parent : Json) : Bool :=
  match parent with
  | .str parent => isInside child parent
  | _ => false

/-! ### The canonical form of a contract -/

/-- `UNORDERED_ID_COLLECTIONS`. -/
def unorderedIdCollections : List String :=
  ["requirements", "validation_contract", "fixture_specifications", "evidence_items",
    "acceptance_rules"]

/-- The keys that a row of such a collection may be known by. -/
def idKeys : List String :=
  ["requirement_id", "validation_id", "fixture_id", "evidence_id", "rule_id"]

/-- The values of a key, where every row is a dict that has it. -/
def idsOf (rows : List Json) (key : String) : Option (List Json) :=
  rows.mapM fun
    | .obj fields => get? fields key
    | _ => none

def sortRows (rows : List Json) : Except Raised (List Json) :=
  match idKeys.findSome? (idsOf rows) with
  | none => .ok rows
  | some ids =>
    match sortedOn (ids.zip rows) with
    | some sorted => .ok sorted
    | none => .error (typeError "'<' not supported")

mutual

/-- `_canonicalize(value, parent_key)`, of a value whose objects are their entries. -/
def canonicalizeUnder (parentKey : Option String) : Json → Except Raised Json
  | .obj fields => do
    let fields ← canonicalizeFields fields
    return .obj (sortFields fields)
  | .arr items => do
    let items ← canonicalizeItems items
    if parentKey.any unorderedIdCollections.contains then return .arr (← sortRows items)
    return .arr items
  | value => .ok value

def canonicalizeItems : List Json → Except Raised (List Json)
  | [] => .ok []
  | item :: rest => do
    let item ← canonicalizeUnder none item
    return item :: (← canonicalizeItems rest)

def canonicalizeFields : Dict → Except Raised Dict
  | [] => .ok []
  | (key, value) :: rest => do
    let value ← canonicalizeUnder (some key) value
    return (key, value) :: (← canonicalizeFields rest)

end

/-- `_canonicalize(value)`. -/
def canonicalize (value : Json) : Except Raised Json := canonicalizeUnder none (settled value)

/-- `_body(contract)`: the contract without the text and the hash that its lock states. -/
def body (contract : Dict) : Except Raised Dict :=
  match get? contract "lock_payload" with
  | some (.obj lock) =>
    .ok (set contract "lock_payload" (.obj (remove (remove lock "canonical_text") "sha256")))
  | _ => .error (lifecycleError "missing lock_payload")

/-! ### Verification -/

section

variable (sha : Sha256)

/-- `verify_lock(lock)`. -/
def verifyLock (lock : Dict) : Except Raised Bool :=
  match get? lock "locked_by" with
  | some (.str lockedBy) =>
    if lockedBy = "" then .ok false
    else if holdsText lock "hash_algorithm" "sha256" = false then .ok false
    else
      match get? lock "canonical_payload" with
      | none => .error (keyError "canonical_payload")
      | some (.obj content) =>
        .ok (holdsText lock "lock_hash" (sha.hexdigest (canonicalText (.obj content))))
      | some _ => .ok false
  | _ => .ok false

/-- What `verify_contract` asks of a contract with this body and this lock. -/
def isSealed (body lock : Dict) : Bool :=
  match canonicalize (.obj body) with
  | .error _ => false
  | .ok normalized =>
    let text := canonicalText normalized
    Json.eq (.obj body) normalized && holdsText lock "canonical_text" text &&
      holdsText lock "sha256" (sha.hexdigest text) &&
      (loads text).any fun value => Json.eq value (.obj body)

/-- **`verify_contract(contract)`.** -/
def verifyContract (contract : Dict) : Bool :=
  match body contract, get? contract "lock_payload" with
  | .ok body, some (.obj lock) =>
    holdsText lock "hash_algorithm" "sha256" && isSealed sha body lock
  | _, _ => false

end

/-! ### Rows and references -/

/-- `_id_set(rows, key, section)`: the rows, which are dicts, and their ids. -/
def idSet (rows : Option Json) (key scope : String) : Except Raised (List Dict × List String) := do
  let some (.arr rows) := rows |
    .error (lifecycleError (scope ++ " must be a non-empty list"))
  refuse (rows = []) (lifecycleError (scope ++ " must be a non-empty list"))
  let some rows := rows.mapM fun row =>
      match row with
      | .obj fields =>
        match get? fields key with
        | some (.str id) => if id = "" then none else some (fields, id)
        | _ => none
      | _ => none
    | .error (lifecycleError (scope ++ " contains a missing " ++ key))
  refuse (¬ (rows.map Prod.snd).Nodup) (lifecycleError (scope ++ " contains a duplicate " ++ key))
  return (rows.map Prod.fst, rows.map Prod.snd)

/-- `_refs(value, known, label, required=required)`. -/
def refs (value : Option Json) (known : List String) (label : String) (required : Bool := true) :
    Except Raised (List String) := do
  let malformed := lifecycleError
    (label ++ " must be a " ++ (if required then "non-empty " else "") ++ "list of IDs")
  let some (.arr items) := value | .error malformed
  refuse (required ∧ items = []) malformed
  let some ids := items.mapM fun item =>
      match item with
      | .str id => some id
      | _ => none
    | .error malformed
  refuse (¬ ∀ id ∈ ids, id ∈ known)
    (lifecycleError (label ++ " contains an unresolved reference"))
  return ids

def unionOf (rows : List Dict) (read : Dict → Except Raised (List String)) :
    Except Raised (List String) := do
  return (← rows.mapM read).flatten

def needText (row : Dict) (field message : String) : Except Raised Unit :=
  match get? row field with
  | some (.str text) => refuse (text = "") (lifecycleError message)
  | _ => .error (lifecycleError message)

/-- `_error(message)` unless two sets of ids are the same. -/
def needSame (first second : List String) (message : String) : Except Raised Unit :=
  refuse (sameSet first second = false) (lifecycleError message)

/-! ### Validation -/

/-- `PLAN_SECTIONS`. -/
def planSections : List String :=
  ["success_definition", "execution_trajectory", "implementation_plan", "validation_contract",
    "fixture_specifications", "evidence_manifest", "post_build_acceptance"]

/-- What `_validate_authority` asks of one target path. -/
def validateTarget (allowed prohibited : List Json) (path : Json) : Except Raised Unit := do
  let outside := lifecycleError "action path is outside allowed authority"
  let .str path := path | .error outside
  refuse (allowed.any (inside path) = false) outside
  refuse (prohibited.any (inside path))
    (lifecycleError "action path conflicts with prohibited authority")

def isHashable : Json → Bool
  | .arr _ => false
  | .obj _ => false
  | _ => true

/-- `set(fields.get(key, []))`. -/
def toolsOf (fields : Dict) (key : String) : Except Raised (List Json) := do
  let tools ← iterate (getD fields key (.arr []))
  refuse (tools.all isHashable = false) (typeError "unhashable type")
  return tools

/-- `_validate_authority(contract)`. -/
def validateAuthority (contract authority : Dict) : Except Raised Unit := do
  let malformed := lifecycleError "authority paths are malformed"
  let some (.arr allowed) := get? authority "allowed_paths" | .error malformed
  let some (.arr prohibited) := get? authority "prohibited_paths" | .error malformed
  refuse (allowed = []) malformed
  for action in ← iterate (getD contract "implementation_plan" .null) do
    let some (.arr paths) ← attr action "target_paths"
      | .error (lifecycleError "action target_paths are missing")
    refuse (paths = []) (lifecycleError "action target_paths are missing")
    for path in paths do
      validateTarget allowed prohibited path
  let allowedTools ← toolsOf authority "allowed_tools"
  let prohibitedTools ← toolsOf authority "prohibited_tools"
  refuse (allowedTools.any fun tool => prohibitedTools.any (Json.eq tool))
    (lifecycleError "authority tool lists conflict")

/-- The ids that `_validate_traceability` has found so far. -/
structure Traced where
  requirements : List String
  stages : List Dict
  checkpoints : List String
  validations : List String

/-- The success definition, the actions and the trajectory. -/
def traceActions (contract : Dict) : Except Raised Traced := do
  let some (.obj success) := get? contract "success_definition"
    | .error (lifecycleError "success_definition is malformed")
  let (rows, requirements) ←
    idSet (get? success "requirements") "requirement_id" "success_definition.requirements"
  for row in rows do
    needText row "success_predicate" "requirement success_predicate is missing"
    needText row "source_reference" "requirement source_reference is missing"
  let (actions, actionIds) ←
    idSet (get? contract "implementation_plan") "action_id" "implementation_plan"
  let covered ← unionOf actions fun action =>
    refs (get? action "requirement_ids") requirements "action requirement_ids"
  needSame covered requirements "missing requirement-to-action traceability"
  let (stages, _) ← idSet (get? contract "execution_trajectory") "stage_id" "execution_trajectory"
  let staged ← stages.mapM fun stage => do
    let actions ← refs (get? stage "exact_actions") actionIds "stage exact_actions"
    match get? stage "checkpoint" with
    | some (.obj checkpoint) =>
      match get? checkpoint "checkpoint_id" with
      | some (.str id) => return (actions, id)
      | _ => .error (lifecycleError "trajectory checkpoint is missing")
    | _ => .error (lifecycleError "trajectory checkpoint is missing")
  let checkpoints := staged.map Prod.snd
  refuse (¬ checkpoints.Nodup)
    (lifecycleError "execution_trajectory contains a duplicate checkpoint_id")
  needSame (staged.flatMap Prod.fst) actionIds "action is absent from trajectory"
  return { requirements, stages, checkpoints, validations := [] }

def traceValidations (contract : Dict) (traced : Traced) : Except Raised Traced := do
  let (rows, validations) ←
    idSet (get? contract "validation_contract") "validation_id" "validation_contract"
  let validated ← rows.mapM fun row => do
    let requirements ←
      refs (get? row "requirement_ids") traced.requirements "validation requirement_ids"
    match get? row "fixture_id" with
    | some (.str fixture) => return (requirements, fixture)
    | _ => .error (lifecycleError "validation fixture_id is missing")
  needSame (validated.flatMap Prod.fst) traced.requirements
    "missing requirement-to-validation traceability"
  let (rows, fixtures) ←
    idSet (get? contract "fixture_specifications") "fixture_id" "fixture_specifications"
  refuse (¬ ∀ fixture ∈ validated.map Prod.snd, fixture ∈ fixtures)
    (lifecycleError "validation fixture reference is invalid")
  let fixed ← unionOf rows fun row =>
    refs (get? row "validation_ids") validations "fixture validation_ids"
  needSame fixed validations "missing validation-to-fixture traceability"
  return { traced with validations }

/-- The references of one kind that an evidence item states. -/
def evidenceRefs (item : Dict) (field : String) (known : List String) :
    Except Raised (List String) :=
  if hasKey item field then refs (get? item field) known ("evidence " ++ field) false else .ok []

def traceEvidence (manifest : Dict) (traced : Traced) : Except Raised (List String) := do
  let (rows, evidence) ←
    idSet (get? manifest "evidence_items") "evidence_id" "evidence_manifest.evidence_items"
  let found ← rows.mapM fun item => do
    let requirements ← evidenceRefs item "requirement_ids" traced.requirements
    let validations ← evidenceRefs item "validation_ids" traced.validations
    let checkpoints ← evidenceRefs item "checkpoint_ids" traced.checkpoints
    refuse (requirements ++ validations ++ checkpoints = [])
      (lifecycleError "evidence item has no traceability reference")
    return (requirements, checkpoints)
  needSame (found.flatMap Prod.fst) traced.requirements "every requirement needs evidence"
  needSame (found.flatMap Prod.snd) traced.checkpoints
    "every trajectory checkpoint needs evidence"
  return evidence

def traceRules (contract : Dict) (traced : Traced) (evidence : List String) :
    Except Raised Unit := do
  let rules :=
    match get? contract "post_build_acceptance" with
    | some (.obj acceptance) => get? acceptance "acceptance_rules"
    | _ => none
  let (rows, _) ← idSet rules "rule_id" "post_build_acceptance.acceptance_rules"
  let accepted ← unionOf rows fun rule => do
    let requirements ←
      refs (get? rule "requirement_ids") traced.requirements "acceptance rule requirement_ids"
    let _ ← refs (get? rule "evidence_ids") evidence "acceptance rule evidence_ids"
    needText rule "final_decision_rule" "acceptance rule final_decision_rule is missing"
    return requirements
  needSame accepted traced.requirements "every requirement needs a final acceptance rule"

def isChecked (condition : String) (evidence : List String) (check : Json) : Except Raised Bool :=
  match check with
  | .obj fields =>
    if holdsText fields "condition_id" condition then
      match getD fields "evidence_id" .null with
      | .str id => .ok (id ∈ evidence)
      | value =>
        if isHashable value then .ok false else .error (typeError "unhashable type")
    else .ok false
  | _ => .ok false

/-- `any(..)` over the state checks: the first that holds, or the error before it. -/
def anyChecked (condition : String) (evidence : List String) : List Json → Except Raised Bool
  | [] => .ok false
  | check :: rest => do
    if ← isChecked condition evidence check then return true
    anyChecked condition evidence rest

def traceConditions (authority manifest : Dict) (traced : Traced) (evidence : List String) :
    Except Raised Unit := do
  let malformed := lifecycleError "preserved condition is malformed"
  for condition in ← iterate (getD authority "preserved_conditions" (.arr [])) do
    let id :=
      match condition with
      | .obj fields => getD fields "condition_id" .null
      | other => other
    let .str id := id | .error malformed
    refuse (id = "") malformed
    let checks ← iterate (getD manifest "state_checks" (.arr []))
    let checked ← anyChecked id evidence checks
    refuse (checked = false)
      (lifecycleError "preserved condition lacks validation or state-check evidence")
  let order := getD authority "phase_order" .null
  refuse (order ≠ .null ∧
      Json.eq order (.arr (traced.stages.map fun stage => getD stage "stage_id" .null)) = false)
    (lifecycleError "authority phase_order does not match trajectory order")

/-- `_validate_traceability(contract)`. -/
def validateTraceability (contract authority : Dict) : Except Raised Unit := do
  let traced ← traceActions contract
  let traced ← traceValidations contract traced
  let some (.obj manifest) := get? contract "evidence_manifest"
    | .error (lifecycleError "evidence_manifest is malformed")
  let evidence ← traceEvidence manifest traced
  traceRules contract traced evidence
  traceConditions authority manifest traced evidence

/-- `_validate(contract)`. -/
def validate (contract authority : Dict) : Except Raised Unit := do
  for scope in planSections do
    refuse (getD contract scope .null = .null)
      (lifecycleError ("missing required contract content: " ++ scope))
  validateAuthority contract authority
  validateTraceability contract authority

/-! ### Readiness -/

/-- `FROZEN_TO_CONTRACT_READINESS`. -/
def frozenReadiness : List (String × String) :=
  [("no_material_gap", "no_material_gap"), ("material_gap_found", "revision_required"),
    ("missing_evidence", "uncertainty"), ("contradicted", "contradicted"),
    ("drift_revalidation_required", "drift_revalidation_required")]

/-- `normalize_frozen_readiness(decision)["contract_decision"]`. -/
def contractDecision (decision : String) : Except Raised String :=
  match frozenReadiness.lookup decision with
  | some contract => .ok contract
  | none => .error (lifecycleError "Frozen Audisor readiness decision is unknown")

/-- The `readiness` of a contract. -/
def readinessOf (decision contract : String) (unresolved : Json) : Dict :=
  let clean := decision == "no_material_gap"
  [("aflow_decision", .str decision), ("contract_decision", .str contract),
    ("decision_mapping", .obj (frozenReadiness.map fun row => (row.1, .str row.2))),
    ("unresolved_items", unresolved),
    ("execution_permitted_when", .obj
      [("aflow_decision_is_no_material_gap", .bool clean),
        ("contract_decision_is_no_material_gap", .bool (contract == "no_material_gap")),
        ("unresolved_items_empty", .bool (!unresolved.truthy)), ("schema_valid", .bool true),
        ("references_valid", .bool true), ("traceability_valid", .bool true),
        ("authority_valid", .bool true), ("canonicalization_valid", .bool true),
        ("lock_valid", .bool true), ("drift_absent", .bool (clean && !unresolved.truthy))])]

/-! ### Assembly -/

/-- `ASSEMBLY_INPUTS`. -/
structure AssemblyInput where
  frozenResult : Dict
  acceptedTaskInput : Dict
  candidatePlan : Dict
  authority : Dict
  baselineEvidence : Json
  acceptedConstraints : Json
  requiredOutputs : Json

/-- The `accepted_task_input` of a contract. -/
def AssemblyInput.taskInput (input : AssemblyInput) : Dict :=
  set (set (set input.acceptedTaskInput "baseline_evidence" input.baselineEvidence)
    "accepted_constraints" input.acceptedConstraints) "required_outputs" input.requiredOutputs

def AssemblyInput.sections (input : AssemblyInput) : Dict :=
  [("contract_version", .str "1.0.0"), ("accepted_task_input", .obj input.taskInput),
    ("authority", .obj input.authority)] ++
    planSections.map fun scope => (scope, getD input.candidatePlan scope .null)

section

variable (sha : Sha256)

/-- The contract in its canonical form, with the text and the hash of it. -/
def sealContract (contract : Dict) : Except Raised Dict := do
  let malformed := lifecycleError "missing lock_payload"
  let .obj contract ← canonicalize (.obj contract) | .error malformed
  let text := canonicalText (.obj (← body contract))
  let some (.obj lock) := get? contract "lock_payload" | .error malformed
  let sealed := set contract "lock_payload" (.obj
    (set (set lock "canonical_text" (.str text)) "sha256" (.str (sha.hexdigest text))))
  refuse (verifyContract sha sealed = false) (lifecycleError "contract lock verification failed")
  return sealed

/-- The contract that is sealed: its sections, its readiness and the start of its lock. -/
def AssemblyInput.unsealed (input : AssemblyInput) (decision contract : String) : Dict :=
  input.sections ++
    [("readiness", .obj (readinessOf decision contract
      (getD input.frozenResult "unresolved_items" (.arr [])))),
      ("lock_payload", .obj [("hash_algorithm", .str "sha256")])]

/-- What `decision not in FROZEN_TO_CONTRACT_READINESS` leads to: a list or a dict is no key. -/
def unknownDecision (decision : Option Json) : Raised :=
  if decision.all isHashable then lifecycleError "unknown frozen Audisor decision"
  else typeError "unhashable type"

/-- **`assemble_contract(value)["aflow_execution_contract"]`.** -/
def assembleContract (input : AssemblyInput) : Except Raised Dict := do
  let stated := get? input.frozenResult "decision"
  let some (.str decision) := stated | .error (unknownDecision stated)
  refuse ((frozenReadiness.lookup decision).isNone) (unknownDecision stated)
  validate input.sections input.authority
  sealContract sha (input.unsealed decision (← contractDecision decision))

/-! ### The primary lock -/

def lockFields : List String :=
  ["immutable_user_task_canonical_text", "accepted_plan_canonical_text",
    "success_definition_canonical_text", "required_trajectory_canonical_text",
    "validation_cases_canonical_text", "fixture_specifications_canonical_text", "hash_algorithm"]

/-- `_lock_content(analysis)`. -/
def lockContent (analysis : Dict) : Except Raised Dict := do
  let malformed := lifecycleError "Audisor lock payload is missing or malformed"
  let some (.obj payload) := get? analysis "lock_payload" | .error malformed
  refuse (sameSet (payload.map Prod.fst) lockFields = false) malformed
  refuse (holdsText payload "hash_algorithm" "sha256" = false)
    (lifecycleError "Audisor lock payload must use sha256")
  refuse (lockFields.any fun field =>
      match get? payload field with
      | some (.str _) => false
      | _ => true) (lifecycleError "Audisor canonical lock fields must be text")
  return payload

def hasNoGaps (analysis : Dict) : Bool :=
  match getD analysis "plan_gaps" .null with
  | .null => true
  | .arr [] => true
  | _ => false

/-- **`accept_for_primary(analysis, execution_contract_sha256=.., locked_by=..)`.** -/
def acceptForPrimary (analysis : Dict) (contractSha256 : Option String) (lockedBy : String) :
    Except Raised Dict := do
  let some (.obj decision) := get? analysis "decision"
    | .error (lifecycleError "Audisor readiness decision is missing")
  let unmapped := lifecycleError "Audisor readiness must retain frozen and contract decisions"
  let some (.str aflowDecision) := get? decision "aflow_decision" | .error unmapped
  let some (.str stated) := get? decision "contract_decision" | .error unmapped
  let expected ← contractDecision aflowDecision
  refuse (expected ≠ stated) (lifecycleError "Audisor readiness decision mapping is inconsistent")
  refuse (aflowDecision ≠ "no_material_gap")
    (lifecycleError "Audisor analysis is not ready for primary decision")
  refuse (get? decision "plan_ready_for_primary_decision" ≠ some (.bool true))
    (lifecycleError "Audisor did not provide a primary-ready analysis")
  refuse (hasNoGaps analysis = false)
    (lifecycleError "Audisor analysis retains unresolved plan gaps")
  let content ← lockContent analysis
  let content ←
    match contractSha256 with
    | none => pure content
    | some digest => do
      refuse (¬ (digest.toList.length = 64 ∧ digest.toList.all isHexChar))
        (lifecycleError "execution contract SHA-256 is malformed")
      pure (set content "execution_contract_sha256" (.str digest))
  return [("lock_version", .int 1), ("locked_by", .str lockedBy), ("hash_algorithm", .str "sha256"),
    ("canonical_payload", .obj content),
    ("lock_hash", .str (sha.hexdigest (canonicalText (.obj content))))]

end

end Audisor.Lifecycle
