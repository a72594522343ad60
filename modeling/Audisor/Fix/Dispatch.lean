/-
**The dispatch of an accepted Fix operation.**

* `Host` — what a dispatch reads and calls: the store, the repository, the policy, the package builder
  and the boundary to the model.
* `Dispatched` — what one dispatch did: its answer, the artifact and the handoff it persisted.
* `checkSnapshot` … `checkCompleteness` — the stages, each with its own exit. `dispatch` runs them.
* `Dispatched.Stops` — no handoff was persisted and the implementation was not continued.
-/

import Audisor.Fix.Authority
import Audisor.Fix.Handoff

namespace Audisor.Fix

open Checked Json

/-! ### The policy and the context -/

structure FrozenAudisorPolicy where
  enabled : Bool
  provider : String
  modelId : String
  baseUrl : String
  timeoutSeconds : Json

/-- A sealed analysis package, as far as a context reads it. -/
structure FrozenAnalysisPackage where
  packageHash : String
  canonicalPayload : Dict

structure AudisorOperationContext where
  operationId : String
  operationType : String
  acceptedTask : Dict
  acceptedPlan : Json
  repositoryContext : Dict
  workspaceIdentity : Dict
  authorityContext : Dict
  contextSha256 : String
  analysisPackage : Option FrozenAnalysisPackage

/-- An error of the package builder: one of its contract, or any other. -/
structure PackageFailure where
  isPackageError : Bool
  failure : Failure

/-- Who evaluates the plan: the local boundary with what its worker replies, or a custom igniter. -/
inductive Boundary where
  | localWorker (reply : WorkerReply)
  | custom (igniter : AudisorOperationContext → FrozenAudisorPolicy → Except Failure IgnitionResult)

/-- What a dispatch reads and calls. -/
structure Host where
  repr : PythonRepr
  sha : Aflow.Sha256
  sanitize : String → String
  contractHash : Json → String
  storeRoot : String
  load : String → Option Json
  workingDirectory : String
  repositoryAt : String → Repository
  policy : FrozenAudisorPolicy
  packageFromContext :
    AudisorOperationContext → Json → FrozenAudisorPolicy → Except PackageFailure FrozenAnalysisPackage
  boundary : Boundary
  routing : Bool

/-- The task, the plan and the repository context of an operation, as its context states them. -/
def contextBody (operation : AcceptedFixOperation) : Dict :=
  [("operation_id", .str operation.operationId), ("operation_type", .str "fix"),
    ("accepted_task",
      .obj [("findings", .arr (operation.findings.map Finding.plain)),
        ("manifest", operation.manifest.plain),
        ("statements", .arr (operation.statements.toList.map Statement.plain))]),
    ("accepted_plan", operation.plan.plain),
    ("repository_context",
      .obj [("authority", .obj operation.authorityContext),
        ("baseline_evidence", .obj [("workspace", .obj operation.workspaceIdentity)]),
        ("accepted_constraints", .obj [("operation_type", .str "fix")]),
        ("required_outputs", textsJson operation.manifest.files)]),
    ("workspace_identity", .obj operation.workspaceIdentity),
    ("authority_context", .obj operation.authorityContext)]

/-- `make_operation_context(...)`. -/
def makeOperationContext (sha : Aflow.Sha256) (operation : AcceptedFixOperation)
    (analysisPackage : Option FrozenAnalysisPackage) : AudisorOperationContext :=
  let hash : Json :=
    match analysisPackage with
    | some package => .str package.packageHash
    | none => .null
  let digestBody := contextBody operation ++ [("analysis_package_hash", hash)]
  { operationId := operation.operationId
    operationType := "fix"
    acceptedTask :=
      [("findings", .arr (operation.findings.map Finding.plain)),
        ("manifest", operation.manifest.plain),
        ("statements", .arr (operation.statements.toList.map Statement.plain))]
    acceptedPlan := operation.plan.plain
    repositoryContext :=
      [("authority", .obj operation.authorityContext),
        ("baseline_evidence", .obj [("workspace", .obj operation.workspaceIdentity)]),
        ("accepted_constraints", .obj [("operation_type", .str "fix")]),
        ("required_outputs", textsJson operation.manifest.files)]
    workspaceIdentity := operation.workspaceIdentity
    authorityContext := operation.authorityContext
    contextSha256 := sha.hexdigest ((sortKeys (.obj digestBody)).dumps { compact := true })
    analysisPackage }

/-! ### Artifacts -/

/-- `FAILURE_CODE_BY_STATUS`. -/
def failureCodeByStatus : List (String × String) :=
  [("package_validation_failed", "package_persistence_failed"),
    ("provider_failed", "provider_failed"), ("validation_failed", "final_schema_failed"),
    ("rejected", "decision_inconsistent")]

/-- The code of an error: its own where it has one that is not empty, else that of the status. -/
def failureCode (status : String) (error : Failure) : String :=
  match error.code with
  | some code =>
    if code ≠ "" then code else (failureCodeByStatus.lookup status).getD error.typeName
  | none => (failureCodeByStatus.lookup status).getD error.typeName

def errorBody (sanitize : String → String) (status : String) (error : Failure) : Json :=
  .obj [("code", .str (failureCode status error)), ("message", .str (sanitize error.message)),
    ("detail", error.detail), ("missing_inputs", .arr error.missingInputs),
    ("gaps", .arr error.gaps), ("required_corrections", .arr error.requiredCorrections),
    ("retry_prompt", error.retryPrompt)]

/-- An attribute of a result, or the `AttributeError`. -/
def attributeOf {α : Type} (name : String) : Option α → Except Failure α
  | some value => .ok value
  | none => .error (pythonError "AttributeError" ("object has no attribute '" ++ name ++ "'"))

def contractDecision : Json → Json
  | .obj contract =>
    match get? contract "readiness" with
    | some (.obj readiness) => getD readiness "aflow_decision" .null
    | _ => .null
  | _ => .null

/-- What an artifact reads of a result: its analysis, its contract, and whether it is accepted. -/
def resultParts (result : Option IgnitionResult) : Except Failure (Json × Json × Bool) :=
  match result with
  | none => .ok (.null, .null, false)
  | some result => do
    let analysis ← attributeOf "build_analysis" result.buildAnalysis
    if analysis = .null then
      let contract ← attributeOf "execution_contract" result.executionContract
      let eligible ← attributeOf "implementation_eligible" result.implementationEligible
      return (analysis, contract, eligible)
    else return (analysis, .null, false)

/-- `audisor_operation_artifact(context, policy, ...)`. -/
def audisorOperationArtifact (host : Host) (context : AudisorOperationContext) (status : String)
    (result : Option IgnitionResult) (error : Option Failure) : Except Failure Dict := do
  let (analysis, contract, accepted) ← resultParts result
  return [("schema_version", .int 1), ("operation_id", .str context.operationId),
    ("operation_type", .str context.operationType), ("context_sha256", .str context.contextSha256),
    ("policy",
      .obj [("enabled", .bool host.policy.enabled), ("provider", .str host.policy.provider),
        ("model_id", .str host.policy.modelId), ("base_url", .str host.policy.baseUrl),
        ("timeout_seconds", host.policy.timeoutSeconds)]),
    ("status", .str status),
    ("failure_code",
      match error with
      | some failure => .str (failureCode status failure)
      | none => .null),
    ("decision", contractDecision contract), ("implementation_eligible", .bool accepted),
    ("analysis_only", .bool (analysis ≠ .null)), ("build_analysis", analysis),
    ("raw_response_sha256", .null),
    ("execution_contract_sha256",
      if contract = .null then .null else .str (host.contractHash contract)),
    ("error",
      match error with
      | some failure => errorBody host.sanitize status failure
      | none => .null),
    ("authority", noAuthority)]

/-! ### What a dispatch does -/

structure FixRoutingResult where
  operationId : String
  route : String
  artifact : Dict
  suspendReason : Option String
  resumeInputSchema : Option Json
  affectedFindingIds : List String
  independentFindingIds : List String

/-- What the implementation is continued with. -/
inductive Continuation where
  | skipped (artifact : Dict)
  | qualified (result : IgnitionResult)

inductive Answer where
  | recorded (existing : Json)
  | finalized (operation : AcceptedFixOperation) (artifact : Dict)
  | routed (result : FixRoutingResult)
  | continued (operation : AcceptedFixOperation) (continuation : Continuation)
  | raised (failure : Failure)

/-- What one dispatch did. -/
structure Dispatched where
  answer : Answer
  record : Option Dict
  handoff : Option Dict

def Dispatched.Continues (dispatched : Dispatched) : Prop :=
  ∃ operation continuation, dispatched.answer = .continued operation continuation

/-- No handoff was persisted, and the implementation was not continued. -/
def Dispatched.Stops (dispatched : Dispatched) : Prop :=
  dispatched.handoff = none ∧ ¬ dispatched.Continues

def raiseOut (failure : Failure) : Dispatched :=
  { answer := .raised failure, record := none, handoff := none }

/-- `_route_or_finalize(...)`. -/
def routeOrFinalize (host : Host) (operation : AcceptedFixOperation) (artifact : Dict) (route : String)
    (suspendReason : Option String) : Answer :=
  if host.routing then
    .routed {
      operationId := operation.operationId, route, artifact, suspendReason
      resumeInputSchema := suspendReason.map fun _ =>
        .obj [("type", .str "object"), ("properties", .obj [])]
      affectedFindingIds := operation.findings.map Finding.id
      independentFindingIds := [] }
  else .finalized operation artifact

/-- The artifact is persisted and the operation goes back to the caller. -/
def halt (host : Host) (operation : AcceptedFixOperation) (artifact : Dict) (route reason : String) :
    Dispatched :=
  { answer := routeOrFinalize host operation artifact route (some reason), record := some artifact
    handoff := none }

def haltWith (host : Host) (operation : AcceptedFixOperation) (artifact : Except Failure Dict)
    (route reason : String) : Dispatched :=
  match artifact with
  | .ok artifact => halt host operation artifact route reason
  | .error failure => raiseOut failure

/-! ### The stages -/

/-- The artifact of an operation whose manifest or plan is refused. -/
def validationArtifact (operation : AcceptedFixOperation) (code message : String) : Dict :=
  [("operation_id", .str operation.operationId), ("operation_type", .str "fix"),
    ("status", .str "validation_failed"), ("implementation_eligible", .bool false),
    ("error", .obj [("code", .str code), ("message", .str message)])]

/-- `existing = self.store.load(operation_id)`. -/
def checkRecorded (host : Host) (operation : AcceptedFixOperation) : Except Dispatched Unit :=
  match host.load operation.operationId with
  | none => .ok ()
  | some .null => .ok ()
  | some existing => .error { answer := .recorded existing, record := none, handoff := none }

def snapshotErrors (manifest : FixScopedManifest) : Except String Unit := do
  manifest.validate
  refuse (manifest.fileHashes.entries.isEmpty = true) "scoped_snapshot_required"
  refuse (manifest.inputHash.toList ≠ Text.strip manifest.inputHash.toList) "invalid_snapshot_hash"

def checkSnapshot (host : Host) (operation : AcceptedFixOperation) : Except Dispatched Unit :=
  match snapshotErrors operation.manifest with
  | .ok () => .ok ()
  | .error message =>
    .error (halt host operation (validationArtifact operation "scoped_snapshot_required" message)
      "suspend_repair" "needs_package_repair")

def checkPlan (host : Host) (operation : AcceptedFixOperation) : Except Dispatched Unit :=
  match operation.plan.validate operation.manifest with
  | .ok () => .ok ()
  | .error message =>
    .error (halt host operation (validationArtifact operation "invalid_fix_plan" message)
      "suspend_repair" "needs_package_repair")

/-- The root of the repository: that of the workspace, or the working directory. `Path` takes a text
only. -/
def repositoryRoot (host : Host) (operation : AcceptedFixOperation) : Except Dispatched String :=
  match getD operation.workspaceIdentity "root" (.str host.workingDirectory) with
  | .str root => .ok root
  | _ =>
    .error (raiseOut (pythonError "TypeError" "expected str, bytes or os.PathLike object"))

def requestJson : Option Dict → Json
  | some request => .obj request
  | none => .null

/-- The package for a custom igniter, where the operation supplies a request. -/
def buildPackage (host : Host) (operation : AcceptedFixOperation) :
    Except Dispatched (Option FrozenAnalysisPackage) :=
  match host.boundary with
  | .localWorker _ => .ok none
  | .custom _ =>
    if host.policy.enabled = true ∧ operation.aflowAnalysisRequestPresent = true then
      let context := makeOperationContext host.sha operation none
      match host.packageFromContext context (requestJson operation.aflowAnalysisRequest)
        host.policy with
      | .ok package => .ok (some package)
      | .error error =>
        let status := if error.isPackageError then "package_validation_failed" else "internal_error"
        .error (haltWith host operation
          (audisorOperationArtifact host context status none (some error.failure))
          "suspend_repair" "needs_package_repair")
    else .ok none

/-- A disabled policy continues the implementation at once. -/
def checkEnabled (host : Host) (operation : AcceptedFixOperation) (context : AudisorOperationContext) :
    Except Dispatched Unit :=
  if host.policy.enabled then .ok ()
  else
    match audisorOperationArtifact host context "skipped_disabled" none none with
    | .ok artifact =>
      .error { answer := .continued operation (.skipped artifact), record := some artifact
               handoff := none }
    | .error failure => .error (raiseOut failure)

def operationDecisions (repr : PythonRepr) (operation : AcceptedFixOperation) :
    Except String (List (String × AuthorityDecision)) :=
  match operation.authorityDecisions with
  | some decisions => readDecisions repr decisions.entries
  | none => .ok []

def checkAuthority (host : Host) (operation : AcceptedFixOperation) : Except Dispatched Unit :=
  match operationDecisions host.repr operation with
  | .error message => .error (raiseOut (pythonError "KeyError" message))
  | .ok decisions =>
    let evaluation := evaluateAuthority operation.findings decisions
    if evaluation.status = .decisionRequired then
      .error (halt host operation
        [("operation_id", .str operation.operationId), ("operation_type", .str "fix"),
          ("status", .str "blocked"), ("implementation_eligible", .bool false),
          ("unresolved_reason", .str "decision_required"),
          ("authority_evaluation", evaluation.toMapping)]
        "suspend_decision" "needs_decision")
    else .ok ()

/-- The status of an error of the model: those of the provider are told by their code. -/
def failureStatus (failure : Failure) : String :=
  if "provider".toList.isPrefixOf (failure.code.getD "").toList then "provider_failed"
  else "validation_failed"

def ignition (host : Host) (operation : AcceptedFixOperation) (context : AudisorOperationContext) :
    Except Failure IgnitionResult :=
  match host.boundary with
  | .localWorker reply =>
    match invokeLocalFix host.repr reply operation.plan operation.findings operation.manifest [] with
    | .ok result => .ok result.ignited
    | .error failure => .error failure
  | .custom igniter => igniter context host.policy

def evaluateModel (host : Host) (operation : AcceptedFixOperation)
    (context : AudisorOperationContext) : Except Dispatched IgnitionResult :=
  match ignition host operation context with
  | .ok result => .ok result
  | .error failure =>
    .error (haltWith host operation
      (audisorOperationArtifact host context (failureStatus failure) none (some failure))
      "suspend_evidence" "needs_provider_recovery")

/-- One entry of the dependency resolution of a blocked artifact. -/
def resolutionJson (result : DependencyResolutionResult) : Json :=
  .obj [("finding_id", .str result.findingId), ("resolved", .bool result.resolved),
    ("resolved_paths", textsJson result.resolvedPaths),
    ("failure_reason",
      match result.failureReason with
      | some reason => .str reason
      | none => .null)]

/-- The artifact of an operation that the completeness gate blocks. -/
def blockedArtifact (operation : AcceptedFixOperation) (completeness : CompletenessResult)
    (results : List DependencyResolutionResult) : Dict :=
  [("operation_id", .str operation.operationId), ("operation_type", .str "fix"),
    ("status", .str "blocked"), ("implementation_eligible", .bool false),
    ("unresolved_reason", .str "information_gap"),
    ("completeness_status", .str completeness.status.value),
    ("missing_info", textsJson completeness.missingInfo),
    ("dependency_resolution", .arr (results.map resolutionJson)),
    ("attempted_resolution_count", .int 1)]

def checkCompleteness (host : Host) (operation : AcceptedFixOperation)
    (results : List DependencyResolutionResult) (result : IgnitionResult) :
    Except Dispatched Unit :=
  let completeness :=
    evaluateFixCompleteness (result.plan operation) operation.findings results
  if completeness.status = .pass then .ok ()
  else
    .error (halt host operation (blockedArtifact operation completeness results)
      "suspend_evidence" "needs_evidence")

/-- The artifact of a result, and whether the result is eligible. -/
def resultArtifact (host : Host) (context : AudisorOperationContext) (result : IgnitionResult) :
    Except Failure (Bool × Dict) := do
  let eligible ← attributeOf "implementation_eligible" result.implementationEligible
  let artifact ← audisorOperationArtifact host context
    (if eligible then "accepted" else "rejected") (some result) none
  return (eligible, artifact)

/-- The last stage: the handoff of an eligible result is persisted and the implementation continued. -/
def conclude (host : Host) (operation : AcceptedFixOperation) (context : AudisorOperationContext)
    (result : IgnitionResult) : Dispatched :=
  match resultArtifact host context result with
  | .error failure => raiseOut failure
  | .ok (true, artifact) =>
    { answer := .continued operation (.qualified result)
      record := some (Json.set artifact "handoff_path"
        (.str (handoffPath host.storeRoot operation.operationId)))
      handoff := some (persistHandoff host.sha operation result) }
  | .ok (false, artifact) =>
    { answer := routeOrFinalize host operation artifact "rejected" none, record := some artifact
      handoff := none }

/-! ### The dispatch -/

/-- What the stages before the model leave: the operation with its evidence, the results of the
resolution, and the context. -/
structure Prepared where
  operation : AcceptedFixOperation
  results : List DependencyResolutionResult
  context : AudisorOperationContext

def prepare (host : Host) (operation : AcceptedFixOperation) : Except Dispatched Prepared := do
  checkRecorded host operation
  checkSnapshot host operation
  checkPlan host operation
  let root ← repositoryRoot host operation
  let (enriched, results) :=
    prepareDependencyEvidence host.repr (host.repositoryAt root) operation
  let package ← buildPackage host enriched
  let context := makeOperationContext host.sha enriched package
  checkEnabled host enriched context
  checkAuthority host enriched
  return { operation := enriched, results, context }

def evaluate (host : Host) (operation : AcceptedFixOperation) :
    Except Dispatched (Prepared × IgnitionResult) := do
  let prepared ← prepare host operation
  let result ← evaluateModel host prepared.operation prepared.context
  checkCompleteness host prepared.operation prepared.results result
  return (prepared, result)

/-- `AcceptedFixDispatcher._dispatch_unlocked(...)`. -/
def dispatch (host : Host) (operation : AcceptedFixOperation) : Dispatched :=
  match evaluate host operation with
  | .error left => left
  | .ok (prepared, result) => conclude host prepared.operation prepared.context result

end Audisor.Fix
