/-
**The controller's entry points.**

* `handleApprovalDecision`, `handleToolResult`, `resumeTarget`, `resume` — resuming a suspension.
  The checks that decide what a resumption may do are named: `approvalSuspensionMatches`,
  `approvalDigestMatches`, `resultsVerified`.
* `register`, `start`, `accept`, `cancel`, `claimToolExecution`, `retryAflow`.
* `Request` and `OperationController.handle` — one call of any of them.

The untyped route of `resume` reviews a resumed plan with a variable that is not defined there
(`context`), so it leaves with a `NameError` once the plan is stored.
-/

import Audisor.Controller.Operations

namespace Audisor.Controller

open Interaction Json

variable (c : OperationController)

/-! ### Approval decisions -/

/-- The incoming suspension id, where there is one, names this suspension or the one approved last. -/
def approvalSuspensionMatches (slices : Slices) (incoming : Json) : Bool :=
  let persisted := slices.suspensionId.getD (.str "")
  let approval := slices.approvalSuspensionId.getD (.str "")
  !(incoming.truthy && (persisted.truthy || approval.truthy)) ||
    (incoming == persisted || incoming == approval)

/-- The stored digest, where there is one, is that of the stored call. -/
def approvalDigestMatches (slices : Slices) (callId : Json) : Bool :=
  let toolCall := slices.approvalToolCall.getD []
  let expectedDigest := slices.argumentDigest.getD ""
  expectedDigest == "" || toolCall.isEmpty ||
    verifyArgumentDigest c (getD toolCall "call_id" callId) (getD toolCall "tool_name" (.str ""))
      (parsedArguments (getD toolCall "arguments" (.obj []))) expectedDigest

/-- `slices.get("approval_decision")`. -/
def previousDecision (slices : Slices) : Json :=
  match slices.approvalDecision with
  | some decision => .bool decision
  | none => .null

def approvedCall (toolCall : Dict) (callId : Json) : Dict :=
  [("call_id", getD toolCall "call_id" callId), ("tool_name", getD toolCall "tool_name" (.str "")),
    ("arguments", getD toolCall "arguments" (.obj []))]

def approvedCallMessage (pendingCall : Dict) : Json :=
  .obj [("role", .str "assistant"), ("content", .null),
    ("tool_calls", .arr [.obj [("id", getD pendingCall "call_id" .null), ("type", .str "function"),
      ("function", .obj [("name", getD pendingCall "tool_name" .null),
        ("arguments", .str ((getD pendingCall "arguments" .null).dumps {}))])]])]

/-- The synthetic tool result: approval granted, awaiting frontend execution. -/
def approvedResultMessage (pendingCall : Dict) : Json :=
  .obj [("role", .str "tool"), ("tool_call_id", getD pendingCall "call_id" .null),
    ("content", .str "approved")]

/-- The approved call joins the messages of the continuation, and no raw call stays pending. -/
def integrateApproval (continuation : Json) (pendingCall : Dict) : Except PyError Json :=
  match continuation with
  | .obj fields =>
    match get? fields "messages" with
    | some (.arr messages) =>
      .ok (.obj (set (set fields "messages"
        (.arr (messages ++ [approvedCallMessage pendingCall, approvedResultMessage pendingCall])))
        "pending_raw_calls" (.arr [])))
    | some _ => .error .attributeError
    | none => .error .keyError
  | _ => .error .typeError

/-- `json.loads` on a value that should be a text. -/
def loadsValue : Json → Except PyError Json
  | .str text =>
    match loads text with
    | some value => .ok value
    | none => .error .jsonDecodeError
  | _ => .error .typeError

/-- The stored continuation after an approval; none is stored where there was none. -/
def approvedContinuation (artifacts : Artifacts) (pendingCall : Dict) :
    Except PyError (Option Json) :=
  match artifacts.continuation with
  | none => .ok none
  | some stored =>
    if stored.truthy then do
      let continuation ← loadsValue stored
      let integrated ← integrateApproval continuation pendingCall
      .ok (some (.str (integrated.dumps {})))
    else .ok (some stored)

def OperationRecord.denied (record : OperationRecord) : OperationRecord :=
  record.withSlices fun slices =>
    { slices with approvalDecided := some true, approvalDecision := some false }

/-- The record that an approval leaves, before it is moved. -/
def OperationRecord.approved (record : OperationRecord) (continuation : Option Json) (token : String)
    (pendingCall : Dict) : OperationRecord :=
  (record.withSlices fun slices =>
    { slices with
      approvalDecided := some true
      approvalDecision := some true
      approvalSuspensionId := some (slices.suspensionId.getD (.str ""))
      suspensionId := some (.str ("susp-exec-" ++ token))
      pendingCalls := some (.arr [.obj pendingCall]) }).withArtifacts fun artifacts =>
        { artifacts with continuation := continuation }

def denyApproval (record : OperationRecord) (callId : Json) : Ctl OperationControllerResult :=
  let toolCall := record.slices.approvalToolCall.getD []
  match record.transition .cancelledByUser "approval_denied" with
  | .error message => return record.result (errorDetail message)
  | .ok moved => do
    let record := moved.denied
    save record
    emit c record "tool_approval_denied"
      [("tool_call", .obj toolCall), ("call_id", getD toolCall "call_id" callId),
        ("tool_name", getD toolCall "tool_name" (.str ""))]
    return record.result
      [("approved", .bool false), ("reason", .str "approval_denied"),
        ("tool_name", getD toolCall "tool_name" (.str ""))]

/-- Approval: the call suspends again, for the frontend to execute it. -/
def grantApproval (record : OperationRecord) (callId : Json) : Ctl OperationControllerResult := do
  let toolCall := record.slices.approvalToolCall.getD []
  emit c record "tool_approval_resolved"
    [("tool_call", .obj toolCall), ("call_id", getD toolCall "call_id" callId),
      ("approved", .bool true)]
  let pendingCall := approvedCall toolCall callId
  let continuation ← Program.ofExcept (approvedContinuation record.artifacts pendingCall)
  let token ← tokenHex 4
  match (record.approved continuation token pendingCall).transition .suspendedForToolResult
      "approval_granted" with
  | .error message => return record.result (errorDetail message)
  | .ok record => do
    save record
    emit c record "tool_execution_requested"
      [("pending_calls", .arr [.obj pendingCall]), ("suspension_id", .str ("susp-exec-" ++ token)),
        ("phase", .str (record.slices.resumePhase.getD "execution")),
        ("argument_digest", .str (record.slices.argumentDigest.getD ""))]
    return record.result
      [("approved", .bool true), ("suspended", .bool true),
        ("suspend_state", .str "suspended_for_tool_result"),
        ("pending_calls", .arr [.obj pendingCall]), ("suspension_id", .str ("susp-exec-" ++ token)),
        ("argument_digest", .str (record.slices.argumentDigest.getD ""))]

def handleApprovalDecision (record : OperationRecord) (resumeInput : Dict) :
    Ctl OperationControllerResult :=
  let approved := getD resumeInput "approved" (.bool false)
  let callId := getD resumeInput "call_id" (.str "")
  if !approvalSuspensionMatches record.slices (getD resumeInput "suspension_id" (.str "")) then
    return record.result (errorDetail "suspension_id_mismatch" ++
      [("detail", .str "approval for different suspension")])
  else if record.slices.approvalDecided.getD false then
    if previousDecision record.slices == approved then
      return record.result [("idempotent", .bool true), ("approved", approved)]
    else
      return record.result (errorDetail "conflicting_approval_decision" ++
        [("detail", .str ("already decided approved=" ++ shown (previousDecision record.slices)))])
  else if !approvalDigestMatches c record.slices callId then
    return record.result (errorDetail "argument_digest_mismatch" ++
      [("detail", .str "approved arguments differ from original request")])
  else if !approved.truthy then denyApproval c record callId
  else grantApproval c record callId

/-! ### Tool results -/

/-- Determine the target state when resuming from suspension. -/
def resumeTarget (record : OperationRecord) : OperationState :=
  match record.state with
  | .suspendedForToolResult =>
    if record.slices.resumePhase.getD "" = "execution" then .sandboxRunning else .planning
  | .suspendedForApproval =>
    if record.slices.resumePhase.getD "" = "execution" then .sandboxRunning
    else if record.slices.resumePhase.getD "" = "planning" then .planning
    else .sandboxRunning
  | .suspendedPlanRevision => .reviewing
  | .suspendedProviderRecovery => .sandboxReady
  | .suspendedEvidence => .reviewing
  | .suspendedPackageRepair => .sandboxReady
  | .suspendedDecision => .reviewing
  | _ => .received

/-- The first result whose call id is not the claimed one. -/
def mismatchedResult (claimedCallId : String) : List Json → Except PyError (Option Json)
  | [] => .ok none
  | result :: rest => do
    let fields ← asDict result
    let resultCallId := getD fields "call_id" (.str "")
    if resultCallId.truthy && !(resultCallId == .str claimedCallId) then .ok (some resultCallId)
    else mismatchedResult claimedCallId rest

/-- The detail with which a claimed suspension refuses the results; `none` where it takes them. -/
def refusedResults (slices : Slices) (toolResults : Json) : Except PyError (Option Dict) :=
  match slices.executionClaim with
  | none => .ok none
  | some claim =>
    if slices.suspensionConsumed.getD false then
      if slices.consumedToolResults.getD (.arr []) == toolResults then
        .ok (some [("idempotent", .bool true), ("resumed", .bool true)])
      else
        .ok (some (errorDetail "conflicting_result_replay" ++
          [("detail", .str "suspension already consumed with different results")]))
    else do
      let items ← iterate toolResults
      match ← mismatchedResult claim.callId items with
      | some resultCallId =>
        .ok (some (errorDetail "result_call_id_mismatch" ++
          [("detail", .str ("result call_id " ++ shown resultCallId ++ " != claimed " ++
            claim.callId))]))
      | none => .ok none

/-- A claimed suspension is consumed by the results it takes. -/
def OperationRecord.consumed (record : OperationRecord) (toolResults : Json) : OperationRecord :=
  if record.slices.executionClaim.isSome then
    record.withSlices fun slices =>
      { slices with suspensionConsumed := some true, consumedToolResults := some toolResults }
  else record

/-- Planning after a resumption, up to the review of its plan. -/
def resumePlanning (record : OperationRecord) (resumeInput : Dict)
    (reviewed : OperationRecord → Json → Ctl OperationControllerResult) :
    Ctl OperationControllerResult := do
  let result ← resumePlan record resumeInput
  if getD result "status" .null = .str "suspended" then
    handleAdapterResult c record result "planning"
  else
    let record ← advancePlan record (planOf result) "plan_resumed"
    reviewed record (planOf result)

def resumeRunning (record : OperationRecord) (resumeInput : Dict) :
    Ctl OperationControllerResult := do
  let result ← resumeExecution record resumeInput
  handleAdapterResult c record result "execution"

def handleToolResult (record : OperationRecord) (resumeInput : Dict) :
    Ctl OperationControllerResult := do
  let toolResults := getD resumeInput "tool_results" (.arr [])
  match ← Program.ofExcept (refusedResults record.slices toolResults) with
  | some detail => return record.result detail
  | none =>
    match record.transition (resumeTarget record) "tool_result_submitted" with
    | .error message => return record.result (errorDetail message)
    | .ok moved => do
      let record := moved.consumed toolResults
      save record
      if record.state = .planning ∧ c.hasPlanning = true then
        resumePlanning c record resumeInput fun record plan =>
          doReview c c.recursionLimit record plan [] none
      else if record.state = .sandboxRunning ∧ c.hasExecution = true then
        resumeRunning c record resumeInput
      else return record.result [("resumed", .bool true), ("tool_results", toolResults)]

/-! ### Resume -/

/-- The untyped route of `resume`. -/
def resumeUntyped (record : OperationRecord) (resumeInput : Dict) :
    Ctl OperationControllerResult :=
  match record.transition (resumeTarget record) "resumed with input" with
  | .error message => return record.result (errorDetail message)
  | .ok record => do
    save record
    if record.state = .planning ∧ c.hasPlanning = true then
      resumePlanning c record resumeInput fun _ _ => .raise .nameError
    else if record.state = .sandboxRunning ∧ c.hasExecution = true then
      resumeRunning c record resumeInput
    else return record.result [("resumed", .bool true)]

/-- `resume_input.get("resume_type", "")`. -/
def resumeType (resumeInput : Dict) : Json := getD resumeInput "resume_type" (.str "")

/-- What `resume` does with a suspended record. -/
def resumeRecord (record : OperationRecord) (resumeInput : Dict) : Ctl OperationControllerResult :=
  if resumeType resumeInput = .str "approval_decision" then
    handleApprovalDecision c record resumeInput
  else if resumeType resumeInput = .str "tool_result" then handleToolResult c record resumeInput
  else resumeUntyped c record resumeInput

def resume (operationId : String) (resumeInput : Option Dict) : Ctl OperationControllerResult := do
  match ← load operationId with
  | none => return operationNotFound operationId
  | some record =>
    if record.state ∉ suspendedStates then
      return ⟨operationId, record.state,
        errorDetail ("operation is not suspended (state=" ++ record.state.value ++ ")")⟩
    else resumeRecord c record (resumeInput.getD [])

/-! ### Register and start -/

/-- The names of the adapters required but unavailable, sorted. -/
def missingAdapters (sourceKind : String) : List String :=
  (if sourceKind = "chat" ∧ c.hasChat = false then ["chat"] else []) ++
  (if sourceKind ∈ ["task", "prepared_plan"] ∧ c.hasExecution = false then ["execution"] else []) ++
  (if sourceKind = "task" ∧ c.hasPlanning = false then ["planning"] else []) ++
  (if sourceKind ∈ ["task", "prepared_plan", "fix"] ∧ c.hasReview = false then ["review"] else [])

/-- `operation_id or f"op-{uuid}"`. -/
def operationIdOr : Option String → Ctl String
  | some "" | none => do return "op-" ++ String.ofList ((← uuid4Hex).toList.take 12)
  | some operationId => .done operationId

def registeredRecord (operationId sourceKind prompt : String) : OperationRecord :=
  { operationId, state := .received, sourceKind, prompt }

def register (sourceKind prompt : String) (operationId : Option String) :
    Ctl OperationControllerResult :=
  if missingAdapters c sourceKind ≠ [] then
    return ⟨operationId.getD "", .received,
      errorDetail "required_adapters_unavailable" ++
        [("missing_adapters", .arr ((missingAdapters c sourceKind).map .str)),
          ("source_kind", .str sourceKind)]⟩
  else do
    let operationId ← operationIdOr operationId
    let record := registeredRecord operationId sourceKind prompt
    save record
    emit c record "operation_created" [("source_kind", .str sourceKind)]
    return ⟨operationId, .received, [("registered", .bool true)]⟩

/-- What `start` does with a registered record. -/
def startRecord (record : OperationRecord) (plan : Option Dict) (context : Dict) :
    Ctl OperationControllerResult :=
  match record.sourceKind, plan with
  | "prepared_plan", some plan => do
    let record ← moveTo record .reviewing "prepared_plan_submitted"
    let record := record.withPlan (.obj plan)
    save record
    doReview c c.recursionLimit record (.obj plan) context none
  | "task", _ => do
    let record ← moveTo record .planning "task_accepted"
    save record
    emit c record "state_transition" [("to_state", .str "planning")]
    doPlanning c record record.prompt context
  | "fix", plan => do
    let record ← moveTo record .reviewing "fix_accepted"
    save record
    match plan with
    | some (field :: fields) =>
      doReview c c.recursionLimit record (.obj (field :: fields)) context none
    | _ => return record.result [("awaiting", .str "plan")]
  | "chat", _ => doChat c record context
  | sourceKind, _ => return record.result (errorDetail ("unknown source_kind: " ++ sourceKind))

def start (operationId : String) (plan : Option Dict) (context : Option Dict) :
    Ctl OperationControllerResult := do
  match ← load operationId with
  | none => return operationNotFound operationId
  | some record =>
    if record.state ≠ .received then
      return ⟨operationId, record.state,
        errorDetail ("operation already started (state=" ++ record.state.value ++ ")")⟩
    else startRecord c record plan (context.getD [])

/-- Accept a new operation: register then immediately start execution. -/
def accept (sourceKind prompt : String) (plan : Option Dict) (operationId : Option String)
    (context : Option Dict) : Ctl OperationControllerResult := do
  let registered ← register c sourceKind prompt operationId
  if (getD registered.detail "error" .null).truthy then return registered
  else start c registered.operationId plan context

/-! ### Cancel, claim and retry -/

def cancel (operationId reason : String) : Ctl OperationControllerResult := do
  match ← load operationId with
  | none => return operationNotFound operationId
  | some record =>
    if record.state ∈ terminalStates then
      return ⟨operationId, record.state, errorDetail "operation already terminal"⟩
    else
      match record.transition .cancelledByUser reason with
      | .error message => return ⟨operationId, record.state, errorDetail message⟩
      | .ok record => do
        save record
        return ⟨operationId, record.state, []⟩

def matchingCall (callId : String) : List Json → Except PyError (Option Dict)
  | [] => .ok none
  | call :: rest => do
    let fields ← asDict call
    if getD fields "call_id" .null == .str callId then .ok (some fields)
    else matchingCall callId rest

def claimDetail (claimantId callId suspensionId persistedDigest : String) (call : Dict)
    (replayed : Dict) : Dict :=
  [("claimed", .bool true)] ++ replayed ++
    [("claimant_id", .str claimantId), ("call_id", .str callId),
      ("tool_name", getD call "tool_name" (.str "")),
      ("arguments", getD call "arguments" (.obj [])), ("argument_digest", .str persistedDigest),
      ("suspension_id", .str suspensionId)]

/-- What a claim does with a record that waits for a tool result. -/
def claimRecord (record : OperationRecord) (claimantId suspensionId callId argumentDigest : String) :
    Ctl OperationControllerResult := do
  if !(Json.str suspensionId == record.slices.suspensionId.getD (.str "")) then
    return record.result (errorDetail "suspension_id_mismatch")
  else
    let calls ← Program.ofExcept (iterate (record.slices.pendingCalls.getD (.arr [])))
    match ← Program.ofExcept (matchingCall callId calls) with
    | none => return record.result (errorDetail "tool_call_not_found")
    | some call =>
      let persistedDigest := record.slices.argumentDigest.getD ""
      if persistedDigest ≠ "" ∧ argumentDigest ≠ persistedDigest then
        return record.result (errorDetail "argument_digest_mismatch")
      else
        match record.slices.executionClaim with
        | some claim =>
          if claim.claimantId = claimantId then
            return record.result (claimDetail claimantId callId suspensionId persistedDigest call
              [("idempotent", .bool true)])
          else
            return record.result (errorDetail "competing_claim" ++
              [("detail", .str ("already claimed by " ++ claim.claimantId))])
        | none => do
          let record := record.withSlices fun slices =>
            { slices with
              executionClaim := some ⟨claimantId, callId, suspensionId, argumentDigest⟩ }
          save record
          emit c record "tool_execution_claimed"
            [("claimant_id", .str claimantId), ("call_id", .str callId),
              ("suspension_id", .str suspensionId), ("argument_digest", .str argumentDigest)]
          return record.result (claimDetail claimantId callId suspensionId persistedDigest call [])

/-- Atomically claim a pending tool execution for a specific claimant. -/
def claimToolExecution (operationId claimantId suspensionId callId argumentDigest : String) :
    Ctl OperationControllerResult := do
  match ← load operationId with
  | none => return operationNotFound operationId
  | some record =>
    if record.state ≠ .suspendedForToolResult then
      return ⟨operationId, record.state, errorDetail "operation_not_suspended_for_tool_result"⟩
    else claimRecord c record claimantId suspensionId callId argumentDigest

/-- `artifacts["aflow_retry:<key>"]`. -/
def Artifacts.retry? (artifacts : Artifacts) (idempotencyKey : String) : Option String :=
  artifacts.aflowRetry.lookup idempotencyKey

def OperationRecord.retried (record : OperationRecord) (idempotencyKey provider : String)
    (result : OperationControllerResult) : OperationRecord :=
  let outcome := result.detail.foldl (fun fields field => set fields field.1 field.2)
    [("provider", .str provider), ("state", .str result.state.value)]
  record.withArtifacts fun artifacts =>
    { artifacts with
      aflowRetry := (idempotencyKey, (Json.obj outcome).dumps {}) :: artifacts.aflowRetry }

def retryRecord (record : OperationRecord) (operationVersion : Int) (idempotencyKey provider : String) :
    Ctl OperationControllerResult := do
  let currentVersion : Int := record.history.length
  if operationVersion ≠ currentVersion then
    return record.result (errorDetail "stale_operation_version" ++
      [("current_version", .int currentVersion)])
  else
    match record.artifacts.candidatePlan with
    | none | some "" => return record.result (errorDetail "candidate_plan_missing")
    | some rawPlan =>
      let plan ← Program.ofExcept (loadsValue (.str rawPlan))
      let record ← moveTo record .reviewing ("aflow_retry:" ++ provider)
      save record
      let retried ← doReview c c.recursionLimit record plan [("retry", .bool true)] (some provider)
      -- a record is never deleted, so the fallback to the one in memory is not taken
      let latest := (← load record.operationId).getD record
      save (latest.retried idempotencyKey provider retried)
      return retried

/-- Retry a provider-recovery review through the owning controller. -/
def retryAflow (operationId : String) (operationVersion : Int) (idempotencyKey provider : String) :
    Ctl OperationControllerResult := do
  match ← load operationId with
  | none => return operationNotFound operationId
  | some record =>
    match record.artifacts.retry? idempotencyKey with
    | some stored =>
      let retry ← Program.ofExcept (loadsValue (.str stored))
      return ⟨operationId, record.state, [("replayed", .bool true), ("retry", retry)]⟩
    | none =>
      if record.state ≠ .suspendedProviderRecovery then
        return ⟨operationId, record.state, errorDetail "operation_not_in_provider_recovery"⟩
      else retryRecord c record operationVersion idempotencyKey provider

/-! ### One call -/

/-- A call of the controller. -/
inductive Request where
  | register (sourceKind prompt : String) (operationId : Option String)
  | accept (sourceKind prompt : String) (plan : Option Dict) (operationId : Option String)
      (context : Option Dict)
  | start (operationId : String) (plan context : Option Dict)
  | resume (operationId : String) (resumeInput : Option Dict)
  | cancel (operationId reason : String)
  | claimToolExecution (operationId claimantId suspensionId callId argumentDigest : String)
  | retryAflow (operationId : String) (operationVersion : Int) (idempotencyKey provider : String)

def OperationController.handle (c : OperationController) : Request → Ctl OperationControllerResult
  | .register sourceKind prompt operationId => Controller.register c sourceKind prompt operationId
  | .accept sourceKind prompt plan operationId context =>
    Controller.accept c sourceKind prompt plan operationId context
  | .start operationId plan context => Controller.start c operationId plan context
  | .resume operationId resumeInput => Controller.resume c operationId resumeInput
  | .cancel operationId reason => Controller.cancel operationId reason
  | .claimToolExecution operationId claimantId suspensionId callId argumentDigest =>
    Controller.claimToolExecution c operationId claimantId suspensionId callId argumentDigest
  | .retryAflow operationId operationVersion idempotencyKey provider =>
    Controller.retryAflow c operationId operationVersion idempotencyKey provider

end Audisor.Controller
