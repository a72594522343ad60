/-
**The protocol of one controller call.**

An abstract machine says, once, what a call can do; every invariant of the controller is derived from
it.

* `CallState` — how far a call has come: the record it holds, as last loaded or saved, and the answer
  of the adapter it asked last.
* `Saves c k record k'` — in the state `k` the call may save exactly this record, and goes on in `k'`.
  One constructor for each place where the source saves.
* `Moves`, `protocol` — the saves, and the questions to the store and the adapters. A call may not
  end, not even by an exception, between an answer of the planning adapter other than a suspension
  and the save that stores it as a plan (`Rests`).
* **`Saves.advances`** — every save registers an operation, or moves the held record as the state
  machine allows.
-/

import Audisor.Controller.EntryPoints

namespace Audisor.Controller

open Interaction Json

/-! ### States of a call -/

/-- How far a call has come. -/
inductive CallState where
  /-- A registration, before it saves. -/
  | fresh
  /-- Any other call, before it loads. -/
  | idle
  /-- The call holds the record it loaded or saved last. -/
  | holding (record : OperationRecord)
  /-- The planning adapter returned `result`. -/
  | planned (record : OperationRecord) (result : Dict)
  /-- The review adapter returned `result` for `plan`. -/
  | reviewed (record : OperationRecord) (plan : Json) (result : Dict)
  /-- The clean review is saved. -/
  | cleared (record : OperationRecord) (plan : Json) (result : Dict)
  /-- The start of the execution is saved. -/
  | started (record : OperationRecord) (plan : Json) (result : Dict)
  /-- The fulfilment adapter returned. -/
  | fulfilled (record : OperationRecord)
  /-- The execution adapter returned `result`. -/
  | executed (record : OperationRecord) (result : Dict)
  /-- A record the call had held was not there when it was loaded again. -/
  | vanished

def CallState.record? : CallState → Option OperationRecord
  | fresh | idle | vanished => none
  | holding record => some record
  | planned record _ => some record
  | reviewed record _ _ => some record
  | cleared record _ _ => some record
  | started record _ _ => some record
  | fulfilled record => some record
  | executed record _ => some record

def IsSuspended (result : Dict) : Prop := getD result "status" .null = .str "suspended"

/-- An adapter result that `_handle_adapter_result` gets, and its phase. -/
inductive Returned : CallState → OperationRecord → Dict → String → Prop
  | planning {record result} (state : record.state = .planning) (suspended : IsSuspended result) :
      Returned (.planned record result) record result "planning"
  | execution {record result} (state : record.state = .sandboxRunning) :
      Returned (.executed record result) record result "execution"

variable (c : OperationController)

/-! ### The records that handlers save -/

def approvalSuspended (record : OperationRecord) (result toolCall : Dict) (phase : String)
    (suspensionId : Json) : OperationRecord :=
  { ((record.withSlices fun slices =>
      { slices with
        suspensionId := some suspensionId
        argumentDigest := some (computeArgumentDigest c (getD toolCall "call_id" (.str ""))
          (getD toolCall "tool_name" (.str ""))
          (parsedArguments (getD toolCall "arguments" (.obj []))))
        approvalToolCall := some toolCall
        resumePhase := some phase }).withContinuation result).moved .suspendedForApproval
          "approval_required" with
    suspendReason := some (getD result "reason" (.str "approval_required")) }

def toolResultSuspended (record : OperationRecord) (result : Dict) (phase : String)
    (suspensionId : Json) : OperationRecord :=
  { ((record.withSlices fun slices =>
      { slices with
        suspensionId := some suspensionId
        pendingCalls := some (getD result "pending_calls" (.arr []))
        resumePhase := some phase }).withContinuation result).moved .suspendedForToolResult
          "frontend_tool_execution" with
    suspendReason := some (.str "frontend_tool_execution") }

def otherSuspended (record : OperationRecord) (result : Dict) (phase : String) : OperationRecord :=
  ({ record with suspendReason := some (getD result "reason" (.str phase)) }
    |>.withContinuation result).withSlices fun slices =>
      { slices with
        suspensionId := (get? result "suspension_id").or slices.suspensionId
        pendingCalls := (get? result "pending_calls").or slices.pendingCalls
        resumePhase := some phase }

def providerErrorSuspended (record : OperationRecord) (result : Dict) : OperationRecord :=
  let moved := { record.moved .suspendedProviderRecovery "aflow_provider_error" with
    suspendReason := some (.str "aflow_provider_error") }
  if (getD result "issue_id" .null).truthy then
    moved.withArtifacts fun artifacts =>
      { artifacts with aflowIssueId := some (getD result "issue_id" .null) }
  else moved

def OperationRecord.claimed (record : OperationRecord) (claim : ExecutionClaim) : OperationRecord :=
  record.withSlices fun slices => { slices with executionClaim := some claim }

/-- An adapter result that suspends the operation, and how. -/
def Suspends (result : Dict) : Prop := getD result "status" (.str "") = .str "suspended"

def suspendState (result : Dict) : Json := getD result "suspend_state" (.str "")

def decisionOf (result : Dict) : Json := getD result "decision" (.str "")

/-! ### Saves -/

/-- In this state the call may save the record, and goes on in the second state. -/
inductive Saves : CallState → OperationRecord → CallState → Prop
  | registered (operationId sourceKind prompt : String) :
      Saves .fresh (registeredRecord operationId sourceKind prompt)
        (.holding (registeredRecord operationId sourceKind prompt))
  | preparedPlan {record} (plan : Dict) (state : record.state = .received)
      (kind : record.sourceKind = "prepared_plan") :
      Saves (.holding record)
        ((record.moved .reviewing "prepared_plan_submitted").withPlan (.obj plan))
        (.holding ((record.moved .reviewing "prepared_plan_submitted").withPlan (.obj plan)))
  | taskAccepted {record} (state : record.state = .received) (kind : record.sourceKind = "task") :
      Saves (.holding record) (record.moved .planning "task_accepted")
        (.holding (record.moved .planning "task_accepted"))
  | fixAccepted {record} (state : record.state = .received) (kind : record.sourceKind = "fix") :
      Saves (.holding record) (record.moved .reviewing "fix_accepted")
        (.holding (record.moved .reviewing "fix_accepted"))
  | planReady {record result} (reason : String) (state : record.state = .planning)
      (complete : ¬ IsSuspended result) :
      Saves (.planned record result) ((record.moved .planReady reason).withPlan (planOf result))
        (.holding ((record.moved .planReady reason).withPlan (planOf result)))
  | autoReview {record} (state : record.state = .planReady) :
      Saves (.holding record) (record.moved .reviewing "auto_review")
        (.holding (record.moved .reviewing "auto_review"))
  | reviewClean {record plan result} (state : record.state = .reviewing)
      (decision : decisionOf result = .str "no_material_gap") :
      Saves (.reviewed record plan result)
        ((record.withImprovedPlan result).moved .sandboxReady "review_clean")
        (.cleared ((record.withImprovedPlan result).moved .sandboxReady "review_clean") plan result)
  | materialGap {record plan result} (state : record.state = .reviewing) :
      Saves (.reviewed record plan result) (record.moved .fulfilling "material_gap_found")
        (.holding (record.moved .fulfilling "material_gap_found"))
  | providerError {record plan result} (state : record.state = .reviewing) :
      Saves (.reviewed record plan result) (providerErrorSuspended record result)
        (.holding (providerErrorSuspended record result))
  | evidence {record plan result} (reason : String) (decision : Json)
      (state : record.state = .reviewing) (decided : decision = decisionOf result) :
      Saves (.reviewed record plan result)
        { record.moved .suspendedEvidence reason with suspendReason := some decision }
        (.holding { record.moved .suspendedEvidence reason with suspendReason := some decision })
  | executionStarted {record plan result} (state : record.state = .sandboxReady) :
      Saves (.cleared record plan result) (record.moved .sandboxRunning "execution_started")
        (.started (record.moved .sandboxRunning "execution_started") plan result)
  | fulfilmentDone {record} (target : OperationState) (reason : String)
      (state : record.state = .fulfilling)
      (outcome : target ∈ [OperationState.reviewing, .awaitingDecision, .collectingEvidence]) :
      Saves (.fulfilled record) (record.moved target reason) (.holding (record.moved target reason))
  | completed {record result} (state : record.state = .sandboxRunning) :
      Saves (.executed record result) (record.moved .completed "adapter_completed")
        (.holding (record.moved .completed "adapter_completed"))
  | failed {record result} (state : record.state = .sandboxRunning) :
      Saves (.executed record result) (record.moved .cancelledByUser "adapter_failed")
        (.holding (record.moved .cancelledByUser "adapter_failed"))
  | approvalSuspension {k record result phase} (toolCall : Dict) (suspensionId : Json)
      (returned : Returned k record result phase) (suspends : Suspends result)
      (kind : suspendState result = .str "suspended_for_approval") :
      Saves k (approvalSuspended c record result toolCall phase suspensionId)
        (.holding (approvalSuspended c record result toolCall phase suspensionId))
  | toolResultSuspension {k record result phase} (suspensionId : Json)
      (returned : Returned k record result phase) (suspends : Suspends result)
      (kind : suspendState result = .str "suspended_for_tool_result") :
      Saves k (toolResultSuspended record result phase suspensionId)
        (.holding (toolResultSuspended record result phase suspensionId))
  | otherSuspension {k record result phase} (returned : Returned k record result phase)
      (suspends : Suspends result)
      (kind : suspendState result ≠ .str "suspended_for_approval" ∧
        suspendState result ≠ .str "suspended_for_tool_result") :
      Saves k (otherSuspended record result phase) (.holding (otherSuspended record result phase))
  | approvalDenied {record} (state : record.state ∈ suspendedStates) :
      Saves (.holding record) (record.moved .cancelledByUser "approval_denied").denied
        (.holding (record.moved .cancelledByUser "approval_denied").denied)
  | approvalGranted {record} (continuation : Option Json) (token : String) (pendingCall : Dict)
      (state : record.state = .suspendedForApproval)
      (undecided : record.slices.approvalDecided.getD false = false) :
      Saves (.holding record)
        ((record.approved continuation token pendingCall).moved .suspendedForToolResult
          "approval_granted")
        (.holding ((record.approved continuation token pendingCall).moved .suspendedForToolResult
          "approval_granted"))
  | toolResults {record} (toolResults : Json) (state : record.state ∈ suspendedStates)
      (taken : refusedResults record.slices toolResults = .ok none) :
      Saves (.holding record)
        ((record.moved (resumeTarget record) "tool_result_submitted").consumed toolResults)
        (.holding ((record.moved (resumeTarget record) "tool_result_submitted").consumed toolResults))
  | resumed {record} (state : record.state ∈ suspendedStates) :
      Saves (.holding record) (record.moved (resumeTarget record) "resumed with input")
        (.holding (record.moved (resumeTarget record) "resumed with input"))
  | cancelled {record} (reason : String) (allowed : record.Allows .cancelledByUser) :
      Saves (.holding record) (record.moved .cancelledByUser reason)
        (.holding (record.moved .cancelledByUser reason))
  | claimed {record} (claim : ExecutionClaim) (calls : List Json) (call : Dict)
      (state : record.state = .suspendedForToolResult)
      (unclaimed : record.slices.executionClaim = none)
      (suspension : (Json.str claim.suspensionId ==
        record.slices.suspensionId.getD (.str "")) = true)
      (pending : iterate (record.slices.pendingCalls.getD (.arr [])) = .ok calls)
      (found : matchingCall claim.callId calls = .ok (some call)) :
      Saves (.holding record) (record.claimed claim) (.holding (record.claimed claim))
  | retryStarted {record} (reason : String) (state : record.state = .suspendedProviderRecovery) :
      Saves (.holding record) (record.moved .reviewing reason)
        (.holding (record.moved .reviewing reason))
  | retryRecorded {record} (idempotencyKey provider : String) (result : OperationControllerResult) :
      Saves (.holding record) (record.retried idempotencyKey provider result)
        (.holding (record.retried idempotencyKey provider result))

/-! ### The fields of the saved records -/

section Fields

variable (record : OperationRecord) (result toolCall : Dict) (phase : String) (suspensionId : Json)

section Continuation

@[simp] theorem withContinuation_operationId :
    (record.withContinuation result).operationId = record.operationId := by
  unfold OperationRecord.withContinuation
  split <;> rfl

@[simp] theorem withContinuation_state :
    (record.withContinuation result).state = record.state := by
  unfold OperationRecord.withContinuation
  split <;> rfl

@[simp] theorem withContinuation_history :
    (record.withContinuation result).history = record.history := by
  unfold OperationRecord.withContinuation
  split <;> rfl

@[simp] theorem withContinuation_slices :
    (record.withContinuation result).slices = record.slices := by
  unfold OperationRecord.withContinuation
  split <;> rfl

@[simp] theorem withContinuation_candidatePlan :
    (record.withContinuation result).artifacts.candidatePlan = record.artifacts.candidatePlan := by
  unfold OperationRecord.withContinuation
  split <;> rfl

end Continuation

section ImprovedPlan

@[simp] theorem withImprovedPlan_operationId :
    (record.withImprovedPlan result).operationId = record.operationId := by
  unfold OperationRecord.withImprovedPlan
  split <;> rfl

@[simp] theorem withImprovedPlan_state :
    (record.withImprovedPlan result).state = record.state := by
  unfold OperationRecord.withImprovedPlan
  split <;> rfl

@[simp] theorem withImprovedPlan_history :
    (record.withImprovedPlan result).history = record.history := by
  unfold OperationRecord.withImprovedPlan
  split <;> rfl

@[simp] theorem withImprovedPlan_slices :
    (record.withImprovedPlan result).slices = record.slices := by
  unfold OperationRecord.withImprovedPlan
  split <;> rfl

end ImprovedPlan

section Suspensions

@[simp] theorem approvalSuspended_operationId :
    (approvalSuspended c record result toolCall phase suspensionId).operationId =
      record.operationId := by
  simp [approvalSuspended, OperationRecord.withSlices]

@[simp] theorem approvalSuspended_state :
    (approvalSuspended c record result toolCall phase suspensionId).state =
      .suspendedForApproval := rfl

@[simp] theorem approvalSuspended_history :
    (approvalSuspended c record result toolCall phase suspensionId).history =
      record.history ++ [⟨record.state, .suspendedForApproval, "approval_required"⟩] := by
  simp [approvalSuspended, OperationRecord.withSlices]

@[simp] theorem approvalSuspended_slices :
    (approvalSuspended c record result toolCall phase suspensionId).slices =
      { record.slices with
        suspensionId := some suspensionId
        argumentDigest := some (computeArgumentDigest c (getD toolCall "call_id" (.str ""))
          (getD toolCall "tool_name" (.str ""))
          (parsedArguments (getD toolCall "arguments" (.obj []))))
        approvalToolCall := some toolCall
        resumePhase := some phase } := by
  simp [approvalSuspended, OperationRecord.withSlices]

@[simp] theorem approvalSuspended_candidatePlan :
    (approvalSuspended c record result toolCall phase suspensionId).artifacts.candidatePlan =
      record.artifacts.candidatePlan := by
  simp [approvalSuspended, OperationRecord.withSlices]

@[simp] theorem toolResultSuspended_operationId :
    (toolResultSuspended record result phase suspensionId).operationId = record.operationId := by
  simp [toolResultSuspended, OperationRecord.withSlices]

@[simp] theorem toolResultSuspended_state :
    (toolResultSuspended record result phase suspensionId).state = .suspendedForToolResult := rfl

@[simp] theorem toolResultSuspended_history :
    (toolResultSuspended record result phase suspensionId).history =
      record.history ++ [⟨record.state, .suspendedForToolResult, "frontend_tool_execution"⟩] := by
  simp [toolResultSuspended, OperationRecord.withSlices]

@[simp] theorem toolResultSuspended_slices :
    (toolResultSuspended record result phase suspensionId).slices =
      { record.slices with
        suspensionId := some suspensionId
        pendingCalls := some (getD result "pending_calls" (.arr []))
        resumePhase := some phase } := by
  simp [toolResultSuspended, OperationRecord.withSlices]

@[simp] theorem toolResultSuspended_candidatePlan :
    (toolResultSuspended record result phase suspensionId).artifacts.candidatePlan =
      record.artifacts.candidatePlan := by
  simp [toolResultSuspended, OperationRecord.withSlices]

@[simp] theorem otherSuspended_operationId :
    (otherSuspended record result phase).operationId = record.operationId := by
  simp [otherSuspended, OperationRecord.withSlices]

@[simp] theorem otherSuspended_state :
    (otherSuspended record result phase).state = record.state := by
  simp [otherSuspended, OperationRecord.withSlices]

@[simp] theorem otherSuspended_history :
    (otherSuspended record result phase).history = record.history := by
  simp [otherSuspended, OperationRecord.withSlices]

@[simp] theorem otherSuspended_slices :
    (otherSuspended record result phase).slices =
      { record.slices with
        suspensionId := (get? result "suspension_id").or record.slices.suspensionId
        pendingCalls := (get? result "pending_calls").or record.slices.pendingCalls
        resumePhase := some phase } := by
  simp [otherSuspended, OperationRecord.withSlices]

@[simp] theorem otherSuspended_candidatePlan :
    (otherSuspended record result phase).artifacts.candidatePlan =
      record.artifacts.candidatePlan := by
  simp [otherSuspended, OperationRecord.withSlices]

end Suspensions

section ProviderError

@[simp] theorem providerErrorSuspended_operationId :
    (providerErrorSuspended record result).operationId = record.operationId := by
  unfold providerErrorSuspended
  dsimp only
  split <;> rfl

@[simp] theorem providerErrorSuspended_state :
    (providerErrorSuspended record result).state = .suspendedProviderRecovery := by
  unfold providerErrorSuspended
  dsimp only
  split <;> rfl

@[simp] theorem providerErrorSuspended_history :
    (providerErrorSuspended record result).history =
      record.history ++ [⟨record.state, .suspendedProviderRecovery, "aflow_provider_error"⟩] := by
  unfold providerErrorSuspended
  dsimp only
  split <;> rfl

@[simp] theorem providerErrorSuspended_slices :
    (providerErrorSuspended record result).slices = record.slices := by
  unfold providerErrorSuspended
  dsimp only
  split <;> rfl

@[simp] theorem providerErrorSuspended_candidatePlan :
    (providerErrorSuspended record result).artifacts.candidatePlan =
      record.artifacts.candidatePlan := by
  unfold providerErrorSuspended
  dsimp only
  split <;> rfl

end ProviderError

section Consumed

variable (toolResults : Json)

@[simp] theorem consumed_operationId :
    (record.consumed toolResults).operationId = record.operationId := by
  unfold OperationRecord.consumed
  split <;> rfl

@[simp] theorem consumed_state : (record.consumed toolResults).state = record.state := by
  unfold OperationRecord.consumed
  split <;> rfl

@[simp] theorem consumed_history : (record.consumed toolResults).history = record.history := by
  unfold OperationRecord.consumed
  split <;> rfl

@[simp] theorem consumed_artifacts : (record.consumed toolResults).artifacts = record.artifacts := by
  unfold OperationRecord.consumed
  split <;> rfl

@[simp] theorem consumed_resumePhase :
    (record.consumed toolResults).slices.resumePhase = record.slices.resumePhase := by
  unfold OperationRecord.consumed
  split <;> rfl

@[simp] theorem consumed_approvalDecided :
    (record.consumed toolResults).slices.approvalDecided = record.slices.approvalDecided := by
  unfold OperationRecord.consumed
  split <;> rfl

@[simp] theorem consumed_executionClaim :
    (record.consumed toolResults).slices.executionClaim = record.slices.executionClaim := by
  unfold OperationRecord.consumed
  split <;> rfl

end Consumed

end Fields

/-! ### Saves and the state machine -/

/-- The second record is the first, moved once as the state machine allows, or left in its state. -/
def Advances (record next : OperationRecord) : Prop :=
  next.operationId = record.operationId ∧
    ((next.state = record.state ∧ next.history = record.history) ∨
      (record.Allows next.state ∧
        ∃ reason, next.history = record.history ++ [⟨record.state, next.state, reason⟩]))

theorem advances_moved {record : OperationRecord} {target : OperationState} {reason : String}
    (allowed : record.Allows target) : Advances record (record.moved target reason) :=
  ⟨rfl, Or.inr ⟨allowed, reason, rfl⟩⟩

theorem Advances.of_same {record next next' : OperationRecord} (advances : Advances record next)
    (operationId : next'.operationId = next.operationId) (state : next'.state = next.state)
    (history : next'.history = next.history) : Advances record next' := by
  unfold Advances at *
  rw [operationId, state, history]
  exact advances

theorem advances_self (record : OperationRecord) : Advances record record :=
  ⟨rfl, Or.inl ⟨rfl, rfl⟩⟩

theorem resumeTarget_not_suspended (record : OperationRecord) :
    resumeTarget record ∉ suspendedStates := by
  unfold resumeTarget
  (repeat' split) <;> decide

theorem resumeTarget_allowed {record : OperationRecord} (state : record.state ∈ suspendedStates) :
    record.Allows (resumeTarget record) := by
  unfold OperationRecord.Allows resumeTarget
  cases same : record.state <;> rw [same] at state <;>
    first
      | exact absurd state (by decide)
      | (dsimp only; (repeat' split) <;> decide)

theorem Returned.holds {k : CallState} {record : OperationRecord} {result : Dict} {phase : String}
    (returned : Returned k record result phase) : k.record? = some record := by
  cases returned <;> rfl

theorem Returned.allows {k : CallState} {record : OperationRecord} {result : Dict} {phase : String}
    (returned : Returned k record result phase) :
    record.Allows .suspendedForApproval ∧ record.Allows .suspendedForToolResult := by
  cases returned with
  | planning state _ =>
    exact ⟨OperationRecord.allows_of_state state (by decide),
      OperationRecord.allows_of_state state (by decide)⟩
  | execution state =>
    exact ⟨OperationRecord.allows_of_state state (by decide),
      OperationRecord.allows_of_state state (by decide)⟩

/-- **Every save registers an operation, or advances the record that the call holds.** -/
theorem Saves.advances {k k' : CallState} {next : OperationRecord} (saves : Saves c k next k') :
    (k = .fresh ∧ ∃ operationId sourceKind prompt,
        next = registeredRecord operationId sourceKind prompt) ∨
      ∃ record, k.record? = some record ∧ Advances record next := by
  have step : ∀ {record : OperationRecord} {source : OperationState} (target : OperationState)
      (reason : String), record.state = source →
      source ∉ terminalStates ∧ target ∈ transitions source →
      Advances record (record.moved target reason) :=
    fun _ _ state valid => advances_moved (OperationRecord.allows_of_state state valid)
  cases saves with
  | registered operationId sourceKind prompt => exact Or.inl ⟨rfl, _, _, _, rfl⟩
  | preparedPlan plan state kind =>
    exact Or.inr ⟨_, rfl, (step .reviewing _ state (by decide)).of_same rfl rfl rfl⟩
  | taskAccepted state kind => exact Or.inr ⟨_, rfl, step .planning _ state (by decide)⟩
  | fixAccepted state kind => exact Or.inr ⟨_, rfl, step .reviewing _ state (by decide)⟩
  | planReady reason state complete =>
    exact Or.inr ⟨_, rfl, (step .planReady reason state (by decide)).of_same rfl rfl rfl⟩
  | autoReview state => exact Or.inr ⟨_, rfl, step .reviewing _ state (by decide)⟩
  | @reviewClean record plan result state decision =>
    have allowed : record.Allows .sandboxReady := OperationRecord.allows_of_state state (by decide)
    exact Or.inr ⟨_, rfl, by simp, Or.inr ⟨allowed, "review_clean", by simp⟩⟩
  | materialGap state => exact Or.inr ⟨_, rfl, step .fulfilling _ state (by decide)⟩
  | @providerError record plan result state =>
    have allowed : record.Allows .suspendedProviderRecovery :=
      OperationRecord.allows_of_state state (by decide)
    exact Or.inr ⟨_, rfl, by simp, Or.inr ⟨by simpa using allowed, "aflow_provider_error", by simp⟩⟩
  | evidence reason decision state decided =>
    exact Or.inr ⟨_, rfl, (step .suspendedEvidence reason state (by decide)).of_same rfl rfl rfl⟩
  | executionStarted state => exact Or.inr ⟨_, rfl, step .sandboxRunning _ state (by decide)⟩
  | fulfilmentDone target reason state outcome =>
    refine Or.inr ⟨_, rfl, step target reason state ⟨by decide, ?_⟩⟩
    rw [transitions]
    simp only [List.mem_cons, List.not_mem_nil, or_false] at outcome ⊢
    tauto
  | completed state => exact Or.inr ⟨_, rfl, step .completed _ state (by decide)⟩
  | failed state => exact Or.inr ⟨_, rfl, step .cancelledByUser _ state (by decide)⟩
  | approvalSuspension toolCall suspensionId returned suspends kind =>
    exact Or.inr ⟨_, returned.holds, by simp, Or.inr ⟨returned.allows.1, "approval_required", by simp⟩⟩
  | toolResultSuspension suspensionId returned suspends kind =>
    exact Or.inr ⟨_, returned.holds, by simp,
      Or.inr ⟨returned.allows.2, "frontend_tool_execution", by simp⟩⟩
  | otherSuspension returned suspends kind => exact Or.inr ⟨_, returned.holds, by simp, Or.inl ⟨by simp, by simp⟩⟩
  | @approvalDenied record state =>
    have allowed : record.Allows .cancelledByUser := by
      unfold OperationRecord.Allows
      cases same : record.state <;> rw [same] at state <;>
        first | exact absurd state (by decide) | decide
    exact Or.inr ⟨_, rfl, (advances_moved allowed).of_same rfl rfl rfl⟩
  | @approvalGranted record continuation token pendingCall state undecided =>
    have allowed : record.Allows .suspendedForToolResult :=
      OperationRecord.allows_of_state state (by decide)
    exact Or.inr ⟨_, rfl, rfl, Or.inr ⟨allowed, _, rfl⟩⟩
  | @toolResults record results state taken =>
    have advances : Advances record (record.moved (resumeTarget record) "tool_result_submitted") :=
      advances_moved (resumeTarget_allowed state)
    exact Or.inr ⟨_, rfl, advances.of_same (by simp) (by simp) (by simp)⟩
  | resumed state => exact Or.inr ⟨_, rfl, advances_moved (resumeTarget_allowed state)⟩
  | cancelled reason allowed => exact Or.inr ⟨_, rfl, advances_moved allowed⟩
  | claimed claim calls call state unclaimed suspension pending found =>
    exact Or.inr ⟨_, rfl, (advances_self _).of_same rfl rfl rfl⟩
  | retryStarted reason state => exact Or.inr ⟨_, rfl, step .reviewing reason state (by decide)⟩
  | retryRecorded idempotencyKey provider result =>
    exact Or.inr ⟨_, rfl, (advances_self _).of_same rfl rfl rfl⟩

/-! ### Moves -/

/-- Where a call may end: not with a planning result that is still to be stored. -/
def Rests : CallState → Prop
  | .planned _ result => IsSuspended result
  | _ => True

/-- The state after an adapter's answer: the result, or the record still held where it raised. -/
def answeredState (record : OperationRecord) (returned : Dict → CallState) :
    AdapterAnswer → CallState
  | .ok result => returned result
  | .error _ => .holding record

/-- One answered question of a call. -/
inductive Moves : CallState → (op : ControllerOp) → op.Answer → CallState → Prop
  | save {k record k'} (saves : Saves c k record k') : Moves k (.save record) () k'
  | append (k : CallState) (operationId state eventType payload) :
      Moves k (.append operationId state eventType payload) () k
  | token (k : CallState) (bytes : Nat) (answer : String) : Moves k (.tokenHex bytes) answer k
  | uuid (k : CallState) (answer : String) : Moves k .uuid4Hex answer k
  | loaded {k} (operationId : String) (record : OperationRecord) (rests : Rests k) :
      Moves k (.load operationId) (some record) (.holding record)
  | missing (operationId : String) : Moves .idle (.load operationId) none .idle
  | vanished {k record} (held : k.record? = some record) (rests : Rests k) :
      Moves k (.load record.operationId) none .vanished
  | anything (op : ControllerOp) (answer : op.Answer) : Moves .vanished op answer .vanished
  | createPlan {record} (prompt : String) (context : Dict) (answer : AdapterAnswer)
      (state : record.state = .planning) :
      Moves (.holding record) (.createPlan prompt context) answer
        (answeredState record (.planned record) answer)
  | resumePlan {record} (resumeInput : Dict) (answer : AdapterAnswer)
      (state : record.state = .planning) :
      Moves (.holding record) (.resumePlan record resumeInput) answer
        (answeredState record (.planned record) answer)
  | review {record} (plan : Json) (providerOverride : Option String) (answer : AdapterAnswer)
      (state : record.state = .reviewing) :
      Moves (.holding record) (.review plan record.operationId providerOverride) answer
        (answeredState record (.reviewed record plan) answer)
  | fulfil {record} (findings plan : Json) (context : Dict) (answer : AdapterAnswer)
      (state : record.state = .fulfilling) :
      Moves (.holding record) (.fulfil findings plan context) answer
        (answeredState record (fun _ => .fulfilled record) answer)
  | execute {record reviewedPlan result} (plan : Json) (context : Dict) (answer : AdapterAnswer)
      (state : record.state = .sandboxRunning) (stored : record.artifacts.storedPlan = .ok plan) :
      Moves (.started record reviewedPlan result) (.execute record.operationId plan context) answer
        (answeredState record (.executed record) answer)
  | resumeExecution {record} (resumeInput : Dict) (answer : AdapterAnswer)
      (state : record.state = .sandboxRunning) :
      Moves (.holding record) (.resumeExecution record resumeInput) answer
        (answeredState record (.executed record) answer)

def protocol : Protocol controllerSignature CallState := ⟨Moves c, Rests⟩

end Audisor.Controller
