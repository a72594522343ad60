/-
**The operation controller's methods.**

Each method of `OperationController` is a controller program: it loads a record, moves and saves it,
calls adapters, and returns a result. A record is passed on where Python mutates it.

* The phase handlers: `doPlanning`, `doReview`, `doExecution`, `doFulfilment`, `doChat`.
* What an adapter's result leads to: `handleAdapterResult` and the two suspensions it opens.
* The resumptions: `handleApprovalDecision`, `handleToolResult`, `resumeTarget`, `resume`.
* The other entry points: `register`, `start`, `accept`, `cancel`, `claimToolExecution`, `retryAflow`.

`doReview` and `doFulfilment` call each other as long as fulfilment resolves every finding; the depth
of these calls is bounded by the recursion limit, past which Python raises `RecursionError`.
-/

import Audisor.Controller.States

namespace Audisor.Controller

open Interaction Json

/-- Result from a controller operation. -/
structure OperationControllerResult where
  operationId : String
  state : OperationState
  detail : Dict := []
  deriving DecidableEq, Repr

def OperationRecord.result (record : OperationRecord) (detail : Dict) : OperationControllerResult :=
  ⟨record.operationId, record.state, detail⟩

/-- The detail `{"error": text}`. -/
def errorDetail (text : String) : Dict := [("error", .str text)]

def operationNotFound (operationId : String) : OperationControllerResult :=
  ⟨operationId, .received, errorDetail "operation_not_found"⟩

/-- A transition outside a `try`: an invalid one leaves the method. -/
def moveTo (record : OperationRecord) (target : OperationState) (reason : String) :
    Ctl OperationRecord :=
  match record.transition target reason with
  | .ok record => .done record
  | .error message => .raise (.invalidTransition message)

/-- `record.slices` and `record.artifacts` updates. -/
def OperationRecord.withSlices (record : OperationRecord) (update : Slices → Slices) :
    OperationRecord :=
  { record with slices := update record.slices }

def OperationRecord.withArtifacts (record : OperationRecord) (update : Artifacts → Artifacts) :
    OperationRecord :=
  { record with artifacts := update record.artifacts }

/-- `record.artifacts["candidate_plan"] = json.dumps(plan)`. -/
def OperationRecord.withPlan (record : OperationRecord) (plan : Json) : OperationRecord :=
  record.withArtifacts fun artifacts => { artifacts with candidatePlan := some (plan.dumps {}) }

variable (c : OperationController)

/-- An event, and its companion `state_transition` event. -/
def emit (record : OperationRecord) (eventType : String) (payload : Dict) : Ctl Unit :=
  if !c.hasEvents then .done ()
  else do
    append record.operationId record.state eventType payload
    if eventType ≠ "state_transition" then
      append record.operationId record.state "state_transition"
        [("to_state", .str record.state.value)]
    else .done ()

/-! ### Approval authority -/

/-- A SHA-256 digest binding approval to exact tool call arguments. -/
def computeArgumentDigest (callId toolName arguments : Json) : String :=
  c.sha256 ((sortKeys (.obj [("call_id", callId), ("tool_name", toolName),
    ("arguments", arguments)])).dumps { compact := true })

def verifyArgumentDigest (callId toolName arguments : Json) (expectedDigest : String) : Bool :=
  computeArgumentDigest c callId toolName arguments == expectedDigest

/-- The arguments of a call, read from their text where they are one. -/
def parsedArguments : Json → Json
  | .str text => (loads text).getD (.obj [])
  | arguments => arguments

/-! ### Adapter results -/

/-- `if "continuation" in result: record.artifacts["continuation"] = result["continuation"]`. -/
def OperationRecord.withContinuation (record : OperationRecord) (result : Dict) : OperationRecord :=
  match get? result "continuation" with
  | some continuation =>
    record.withArtifacts fun artifacts => { artifacts with continuation := some continuation }
  | none => record

def handleApprovalSuspension (record : OperationRecord) (result : Dict) (phase : String)
    (suspensionId : Json) : Ctl OperationControllerResult := do
  let toolCall ← Program.ofExcept (asDict (getD result "tool_call" (.obj [])))
  let callId := getD toolCall "call_id" (.str "")
  let toolName := getD toolCall "tool_name" (.str "")
  let arguments := parsedArguments (getD toolCall "arguments" (.obj []))
  let digest := computeArgumentDigest c callId toolName arguments
  let record := (record.withSlices fun slices =>
    { slices with
      suspensionId := some suspensionId
      argumentDigest := some digest
      approvalToolCall := some toolCall
      resumePhase := some phase }).withContinuation result
  let record ← moveTo record .suspendedForApproval "approval_required"
  let record :=
    { record with suspendReason := some (getD result "reason" (.str "approval_required")) }
  save record
  emit c record "tool_approval_requested"
    [("tool_call", .obj toolCall), ("call_id", callId), ("tool_name", toolName),
      ("argument_digest", .str digest), ("suspension_id", suspensionId),
      ("reason", getD result "reason" (.str "")),
      ("risk_level", getD result "risk_level" (.str "medium"))]
  return record.result
    [("suspended", .bool true), ("suspend_state", .str "suspended_for_approval"),
      ("suspension_id", suspensionId), ("argument_digest", .str digest),
      ("tool_call", .obj toolCall), ("reason", getD result "reason" (.str "")),
      ("risk_level", getD result "risk_level" (.str "medium"))]

def handleToolResultSuspension (record : OperationRecord) (result : Dict) (phase : String)
    (suspensionId : Json) : Ctl OperationControllerResult := do
  let pendingCalls := getD result "pending_calls" (.arr [])
  let record := (record.withSlices fun slices =>
    { slices with
      suspensionId := some suspensionId
      pendingCalls := some pendingCalls
      resumePhase := some phase }).withContinuation result
  let record ← moveTo record .suspendedForToolResult "frontend_tool_execution"
  let record := { record with suspendReason := some (.str "frontend_tool_execution") }
  save record
  emit c record "tool_execution_requested"
    [("pending_calls", pendingCalls), ("suspension_id", suspensionId), ("phase", .str phase)]
  return record.result
    [("suspended", .bool true), ("suspend_state", .str "suspended_for_tool_result"),
      ("suspension_id", suspensionId), ("pending_calls", pendingCalls)]

/-- A suspension of any other type: the record keeps its state. -/
def handleOtherSuspension (record : OperationRecord) (result : Dict) (phase : String) :
    Ctl OperationControllerResult := do
  let record := ({ record with suspendReason := some (getD result "reason" (.str phase)) }
    |>.withContinuation result).withSlices fun slices =>
      { slices with
        suspensionId := (get? result "suspension_id").or slices.suspensionId
        pendingCalls := (get? result "pending_calls").or slices.pendingCalls
        resumePhase := some phase }
  save record
  return record.result [("suspended", .bool true), ("reason", getD result "reason" .null)]

/-- Process adapter result and handle suspensions appropriately. -/
def handleAdapterResult (record : OperationRecord) (result : Dict) (phase : String) :
    Ctl OperationControllerResult :=
  let status := getD result "status" (.str "")
  if status = .str "completed" then do
    let record ← moveTo record .completed "adapter_completed"
    save record
    emit c record "operation_completed" [("output", getD result "output" (.str ""))]
    return record.result
      [("output", getD result "output" (.str "")), ("usage", getD result "usage" (.arr []))]
  else if status = .str "failed" then do
    let record ← moveTo record .cancelledByUser "adapter_failed"
    save record
    emit c record "operation_failed" [("error", getD result "error" (.str ""))]
    return record.result [("error", getD result "error" (.str ""))]
  else if status = .str "suspended" then
    let suspendState := getD result "suspend_state" (.str "")
    let suspensionId := getD result "suspension_id" (.str "")
    if suspendState = .str "suspended_for_approval" then
      handleApprovalSuspension c record result phase suspensionId
    else if suspendState = .str "suspended_for_tool_result" then
      handleToolResultSuspension c record result phase suspensionId
    else handleOtherSuspension record result phase
  else return record.result (errorDetail ("unknown adapter status: " ++ shown status))

/-! ### Phases -/

/-- The plan that `_do_execution` reads back: `{}` where none is stored. -/
def Artifacts.storedPlan (artifacts : Artifacts) : Except PyError Json :=
  match artifacts.candidatePlan.getD "{}" with
  | "" => .ok (.obj [])
  | text => match loads text with
    | some plan => .ok plan
    | none => .error .jsonDecodeError

def doExecution (record : OperationRecord) (context : Dict) : Ctl OperationControllerResult :=
  if !c.hasExecution then return record.result [("awaiting", .str "execution_adapter")]
  else do
    let plan ← Program.ofExcept record.artifacts.storedPlan
    let record ← moveTo record .sandboxRunning "execution_started"
    save record
    let result ← execute record.operationId plan context
    handleAdapterResult c record result "execution"

/-- `any(f.get("needs_decision") for f in unresolved)`. -/
def anyNeedsDecision : List Json → Except PyError Bool
  | [] => .ok false
  | finding :: rest => do
    let fields ← asDict finding
    if (getD fields "needs_decision" .null).truthy then .ok true else anyNeedsDecision rest

/-- Execute fulfilment phase via adapter; `again` reviews the revised plan. -/
def doFulfilment (again : OperationRecord → Json → Dict → Ctl OperationControllerResult)
    (record : OperationRecord) (findings plan : Json) (context : Dict) :
    Ctl OperationControllerResult :=
  if !c.hasFulfilment then do
    let count ← Program.ofExcept (lenOf findings)
    return record.result
      [("awaiting", .str "fulfilment_adapter"), ("findings_count", .int count)]
  else do
    let result ← fulfil findings plan context
    if (getD result "all_resolved" .null).truthy then
      let revisedPlan := getD result "revised_plan" plan
      let record ← moveTo record .reviewing "fulfilment_complete"
      save record
      again record revisedPlan context
    else
      let unresolved := getD result "unresolved" (.arr [])
      let items ← Program.ofExcept (iterate unresolved)
      let decision ← Program.ofExcept (anyNeedsDecision items)
      let record ← if decision then moveTo record .awaitingDecision "decision_required"
        else moveTo record .collectingEvidence "evidence_required"
      save record
      let count ← Program.ofExcept (lenOf unresolved)
      return record.result [("unresolved_count", .int count)]

/-- `result.get("improved_plan")` where it is a dictionary. -/
def improvedPlan (result : Dict) : Option Json :=
  match get? result "improved_plan" with
  | some (.obj plan) => some (.obj plan)
  | _ => none

/-- The record that a clean review leaves, before its transition: an improved plan is stored. -/
def OperationRecord.withImprovedPlan (record : OperationRecord) (result : Dict) : OperationRecord :=
  match improvedPlan result with
  | some plan =>
    let reviewId := getD result "review_id" .null
    (record.withPlan plan).withArtifacts fun artifacts =>
      { artifacts with
        aflowLifecycleRunId := some (if reviewId.truthy then reviewId else .str "") }
  | none => record

/-- A clean review: advance to the sandbox, and execute where there is an adapter. -/
def reviewClean (record : OperationRecord) (result : Dict) (context : Dict) :
    Ctl OperationControllerResult := do
  let record ← moveTo (record.withImprovedPlan result) .sandboxReady "review_clean"
  save record
  emit c record "aflow_review_completed" [("lifecycle_run_id", getD result "review_id" .null)]
  if c.hasExecution then doExecution c record context
  else return record.result [("review_decision", .str "no_material_gap")]

/-- The review provider failed: the issue it raised is kept for a retry. -/
def reviewProviderError (record : OperationRecord) (result : Dict) :
    Ctl OperationControllerResult := do
  let record ← moveTo record .suspendedProviderRecovery "aflow_provider_error"
  let issueId := getD result "issue_id" .null
  let record := { record with suspendReason := some (.str "aflow_provider_error") }
  let record := if issueId.truthy then
      record.withArtifacts fun artifacts => { artifacts with aflowIssueId := some issueId }
    else record
  save record
  emit c record "aflow_issue_created"
    [("issue_id", issueId), ("lifecycle_run_id", getD result "review_id" .null)]
  return record.result
    [("review_decision", .str "provider_error"), ("issue_id", issueId),
      ("error", getD result "error" .null)]

def reviewSuspended (record : OperationRecord) (result : Dict) (decision : Json) :
    Ctl OperationControllerResult := do
  let record ← moveTo record .suspendedEvidence ("review_decision=" ++ shown decision)
  let record := { record with suspendReason := some decision }
  save record
  return record.result
    [("review_decision", decision), ("findings", getD result "findings" (.arr []))]

/-- Execute review phase via adapter, with this many calls left on the stack. -/
def doReview : Nat → OperationRecord → Json → Dict → Option String → Ctl OperationControllerResult
  | 0, _, _, _, _ => .raise .recursionError
  | depth + 1, record, plan, context, providerOverride =>
    if !c.hasReview then return record.result [("awaiting", .str "review_adapter")]
    else do
      let result ← review plan record.operationId providerOverride
      let decision := getD result "decision" (.str "")
      if decision = .str "no_material_gap" then reviewClean c record result context
      else if decision = .str "material_gap_found" then
        let record ← moveTo record .fulfilling "material_gap_found"
        save record
        doFulfilment c (fun record plan context => doReview depth record plan context none) record
          (getD result "findings" (.arr [])) plan context
      else if decision = .str "provider_error" then reviewProviderError c record result
      else reviewSuspended record result decision

/-- `result.get("plan", result)`. -/
def planOf (result : Dict) : Json := getD result "plan" (.obj result)

def advancePlan (record : OperationRecord) (plan : Json) (reason : String) : Ctl OperationRecord := do
  let record ← moveTo record .planReady reason
  let record := record.withPlan plan
  save record
  let record ← moveTo record .reviewing "auto_review"
  save record
  return record

def doPlanning (record : OperationRecord) (prompt : String) (context : Dict) :
    Ctl OperationControllerResult :=
  if !c.hasPlanning then return record.result [("awaiting", .str "planning_adapter")]
  else do
    let result ← createPlan prompt context
    if getD result "status" .null = .str "suspended" then
      handleAdapterResult c record result "planning"
    else
      let record ← advancePlan record (planOf result) "plan_created"
      doReview c c.recursionLimit record (planOf result) context none

def doChat (record : OperationRecord) (context : Dict) : Ctl OperationControllerResult :=
  if !c.hasChat then return record.result [("awaiting", .str "chat_adapter")]
  else do
    let record ← moveTo record .sandboxRunning "chat_turn_started"
    save record
    emit c record "chat_turn_started" []
    let result ← chatTurn record.prompt (getD context "history" (.arr [])) context
    let error := getD result "error" .null
    if error.truthy then
      let record ← moveTo record .cancelledByUser "chat_error"
      save record
      return record.result [("error", error)]
    else
      let record ← moveTo record .completed "chat_turn_completed"
      save record
      emit c record "chat_turn_completed" [("usage", getD result "usage" (.obj []))]
      return record.result
        [("response", getD result "response" (.str "")), ("usage", getD result "usage" (.obj []))]

end Audisor.Controller
