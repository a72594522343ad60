/-
**Review, lock and state.**

* `ReviewArguments` — the arguments of `review_and_lock`.
* `ActiveFile` — `active-lock.json`, as the value in it. `writeActiveState` writes the envelope.
* `decideReview`, `reportBlocked`, `lockReviewed` — the review, and its two ends.
* `replayed` — the answer that is rebuilt from the record of an operation.
* **`reviewAndLock`** — the whole call.
-/

import Audisor.Aflow.DecisionEngine
import Audisor.Json.Order
import Audisor.Json.Str
import Audisor.Operations.Store

namespace Audisor.Lifecycle

open Checked Json
open Audisor.Aflow (Sha256 AnalysisRequest AnalysisDecision AflowError)
open Audisor.Operations

/-! ### Arguments and host -/

/-- The arguments of `review_and_lock`. `givenStore` says whether `operation_store` is given. -/
structure ReviewArguments where
  analysisRequest : Dict
  acceptedTaskInput : Dict
  candidatePlan : Dict
  authority : Dict
  baselineEvidence : Json
  acceptedConstraints : Json
  requiredOutputs : Json
  operationId : String
  lockedBy : String := "aflow-mcp"
  givenStore : Bool := true

/-- The content of `active-lock.json`. -/
inductive ActiveFile where
  | absent
  | malformed (error : Raised)
  | holds (value : Json)

/-- What the calls of `review_and_lock` work on. -/
structure World (isAlnum : Char → Bool) where
  operations : Store isAlnum := {}
  artifacts : Artifacts := ∅
  activeFile : ActiveFile := .absent

/-- What a call asks of its host. -/
structure ReviewHost (isAlnum : Char → Bool) where
  storeFails : WriteFails isAlnum
  artifactHost : ArtifactHost
  /-- The exception that the write of the active state raises. -/
  stateFails : ActiveFile → Json → Option Raised
  statePath : String
  repr : PythonRepr
  /-- The schema and the records of A-Flow: the request that a document is. -/
  readRequest : Dict → Except Raised AnalysisRequest
  /-- The time of the decision. -/
  now : String

variable {isAlnum : Char → Bool} (sha : Sha256) (host : ReviewHost isAlnum)

def operations : WorldPart (World isAlnum) (Store isAlnum) where
  get := World.operations
  put store world := { world with operations := store }

def artifacts : WorldPart (World isAlnum) Artifacts where
  get := World.artifacts
  put files world := { world with artifacts := files }

/-! ### The analysis -/

def aflowRaised : AflowError → Raised
  | .domainInvariant message => { typeName := "DomainInvariantError", message }
  | .schemaValidation schemaName => { typeName := "SchemaValidationError", message := schemaName }
  | .valueError message => { typeName := "ValueError", message }
  | .keyError => keyError ""
  | .typeError => typeError ""

/-- `analyze(dict(analysis_request))`. -/
def analyzeDocument (document : Dict) : Except Raised AnalysisDecision := do
  let request ← host.readRequest document
  match Aflow.analyze sha request none host.now with
  | .ok decision => return decision
  | .error error => .error (aflowRaised error)

/-- `blocking or aflow_decision != "no_material_gap"`. -/
def isBlocked (decision : AnalysisDecision) : Bool :=
  decision.blocking || decision.decision != .noMaterialGap

/-- `map_decision_to_frozen(decision)`. -/
def mapDecisionToFrozen (decision : AnalysisDecision) : Dict :=
  [("decision", .str decision.decision.value),
    ("unresolved_items", if decision.decision = .noMaterialGap then .arr []
      else Aflow.listOf decision.findings Aflow.Finding.toJson)]

/-- `build_analysis_for_lock(candidate_plan, accepted_task_input, ..)`. -/
def buildAnalysisForLock (plan task : Dict) : Dict :=
  let text (scope : String) : Json := .str (canonicalText (getD plan scope .null))
  [("decision", .obj
      [("aflow_decision", .str "no_material_gap"), ("contract_decision", .str "no_material_gap"),
        ("plan_ready_for_primary_decision", .bool true)]),
    ("plan_gaps", .arr []),
    ("lock_payload", .obj
      [("immutable_user_task_canonical_text", .str (canonicalText (.obj task))),
        ("accepted_plan_canonical_text", .str (canonicalText (.obj plan))),
        ("success_definition_canonical_text", text "success_definition"),
        ("required_trajectory_canonical_text", text "execution_trajectory"),
        ("validation_cases_canonical_text", text "validation_contract"),
        ("fixture_specifications_canonical_text", text "fixture_specifications"),
        ("hash_algorithm", .str "sha256")])]

/-! ### The active state -/

def malformedState : Raised := lifecycleError
  "Refusing to overwrite malformed active state; explicit clear_active_state() is required"

/-- What `write_active_state` has against the state that is there. -/
def stateConflict (operationId : String) : ActiveFile → Option Raised
  | .absent => none
  | .malformed error =>
    some (if error.typeName ∈ ["JSONDecodeError", "OSError"] then malformedState else error)
  | .holds (.obj existing) =>
    let owner := getD existing "operation_id" .null
    if owner.truthy ∧ Json.eq owner (.str operationId) = false then
      some (lifecycleError ("Active state belongs to operation '" ++ strOf host.repr owner ++
        "'; cannot replace with '" ++ operationId ++ "' without explicit clear"))
    else none
  | .holds _ => some malformedState

def envelope (operationId : String) (lock contract : Dict) : Json :=
  .obj [("operation_id", .str operationId), ("primary_lock", .obj lock),
    ("execution_contract", .obj contract), ("drift_state", .str "valid")]

/-- **`write_active_state(state_root, operation_id=.., primary_lock=.., execution_contract=..)`.** -/
def writeActiveState (operationId : String) (lock contract : Dict) :
    Run (World isAlnum) Raised Unit := do
  let verified ← Run.ofExcept (verifyLock sha lock)
  if verified = false then
    Run.raise (lifecycleError "Refusing to write state: lock verification failed")
  else if verifyContract sha contract = false then
    Run.raise (lifecycleError "Refusing to write state: contract verification failed")
  else
    let file ← Run.look World.activeFile
    match stateConflict host operationId file with
    | some error => Run.raise error
    | none =>
      match host.stateFails file (envelope operationId lock contract) with
      | some error => Run.raise error
      | none => Run.change fun world : World isAlnum =>
          { world with activeFile := .holds (envelope operationId lock contract) }

/-! ### The results -/

/-- What `review_and_lock` returns. -/
structure ReviewResult where
  status : String
  decision : String
  blocking : Bool
  executionReady : Bool
  findings : List Aflow.Finding
  rejectedFindings : List Aflow.RejectedFinding
  lockValid : Bool
  contractSha256 : Option String
  statePath : Option String
  operationId : String
  operationStatus : String
  artifacts : List Dict
  idempotentReplay : Bool := false

/-- The answer that is rebuilt from the record of an operation. -/
def replayed (operationId : String) (state : OperationState) : ReviewResult :=
  let done := state.status == .completed
  { status := if done then "ok" else "blocked"
    decision := if done then "no_material_gap" else "material_gap_found"
    blocking := !done, executionReady := done, findings := [], rejectedFindings := []
    lockValid := done, contractSha256 := state.resultHash, statePath := none, operationId
    operationStatus := state.status.value, artifacts := state.artifacts, idempotentReplay := true }

/-- `request_payload`. -/
def ReviewArguments.requestPayload (args : ReviewArguments) : Dict :=
  [("analysis_request", .obj args.analysisRequest),
    ("accepted_task_input", .obj args.acceptedTaskInput),
    ("candidate_implementation_plan", .obj args.candidatePlan), ("authority", .obj args.authority),
    ("operation_id", .str args.operationId)]

def ReviewArguments.assemblyInput (args : ReviewArguments) (decision : AnalysisDecision) :
    AssemblyInput :=
  { frozenResult := mapDecisionToFrozen decision, acceptedTaskInput := args.acceptedTaskInput
    candidatePlan := args.candidatePlan, authority := args.authority
    baselineEvidence := args.baselineEvidence, acceptedConstraints := args.acceptedConstraints
    requiredOutputs := args.requiredOutputs }

/-- `contract["lock_payload"]["sha256"]`. -/
def contractSha256 (contract : Dict) : String :=
  match field? contract "lock_payload" "sha256" with
  | some (.str digest) => digest
  | _ => ""

/-! ### The call -/

def keepArtifact (args : ReviewArguments) (artifactId artifactType : String) (value : Json) :
    Run (World isAlnum) Raised Dict := do
  let ref ← Run.zoom artifacts (persistArtifact sha isAlnum host.artifactHost args.operationId
    artifactId (dumpsIndented value ++ "\n") artifactType)
  return ref.toMapping

/-- `block_reason`. -/
def blockReason (decision : AnalysisDecision) : String :=
  "aflow_decision=" ++ decision.decision.value ++ "; findings=" ++
    String.ofList (decimal decision.findings.length)

/-- The start of the operation, the analysis, and the record of a blocking decision. -/
def decideReview (args : ReviewArguments) : Run (World isAlnum) Raised AnalysisDecision := do
  Run.zoom operations (start host.storeFails args.operationId)
  let decision ← Run.ofExcept (analyzeDocument sha host args.analysisRequest)
  if isBlocked decision then
    Run.zoom operations
      (block host.storeFails args.operationId (blockReason decision) none)
  return decision

def reportBlocked (args : ReviewArguments) (decision : AnalysisDecision) :
    Run (World isAlnum) Raised ReviewResult := do
  let ref ← keepArtifact sha host args "analysis-decision" "analysis" decision.toJson
  return { status := "blocked", decision := decision.decision.value, blocking := decision.blocking
           executionReady := decision.executionReady, findings := decision.findings
           rejectedFindings := decision.rejectedFindings, lockValid := false, contractSha256 := none
           statePath := none, operationId := args.operationId, operationStatus := "blocked"
           artifacts := [ref] }

def lockReviewed (args : ReviewArguments) (decision : AnalysisDecision) :
    Run (World isAlnum) Raised ReviewResult := do
  let contract ← Run.ofExcept (assembleContract sha (args.assemblyInput decision))
  let digest := contractSha256 contract
  let lock ← Run.ofExcept (acceptForPrimary sha
    (buildAnalysisForLock args.candidatePlan args.acceptedTaskInput) (some digest) args.lockedBy)
  writeActiveState sha host args.operationId lock contract
  let contractRef ← keepArtifact sha host args "execution-contract" "contract" (.obj contract)
  let lockRef ← keepArtifact sha host args "primary-lock" "lock" (.obj lock)
  let decisionRef ← keepArtifact sha host args "analysis-decision" "analysis" decision.toJson
  Run.zoom operations (complete sha host.storeFails args.operationId
    [("contract_sha256", .str digest), ("decision", .str decision.decision.value)]
    [contractRef, lockRef, decisionRef] none)
  return { status := "ok", decision := decision.decision.value, blocking := decision.blocking
           executionReady := decision.executionReady, findings := decision.findings
           rejectedFindings := decision.rejectedFindings, lockValid := true
           contractSha256 := some digest, statePath := some host.statePath
           operationId := args.operationId, operationStatus := "completed"
           artifacts := [contractRef, lockRef, decisionRef] }

def performReview (args : ReviewArguments) : Run (World isAlnum) Raised ReviewResult := do
  let decision ← decideReview sha host args
  if isBlocked decision then reportBlocked sha host args decision
  else lockReviewed sha host args decision

/-- The operation store of a call: the one that is given, or a new one over the directory. -/
def openStore (args : ReviewArguments) : Run (World isAlnum) Raised Unit :=
  if args.givenStore then pure ()
  else Run.change fun world : World isAlnum =>
    { world with operations := world.operations.reopened }

/-- The operation of a call: created, found, or bound to another request. -/
def openOperation (args : ReviewArguments) : Run (World isAlnum) Raised Created := do
  openStore args
  Run.zoom operations (create sha host.storeFails args.operationId args.requestPayload none)

/-- **`review_and_lock(..)`.** -/
def reviewAndLock (args : ReviewArguments) : Run (World isAlnum) Raised ReviewResult := do
  match ← openOperation sha host args with
  | .conflict => Run.raise (lifecycleError
      ("Operation '" ++ args.operationId ++ "' is already bound to a different request"))
  | .existing state => return replayed args.operationId state
  | .new => performReview sha host args

end Audisor.Lifecycle
