/-
**Operation lifecycle states, the persisted record, and the surroundings of the controller.**

* `OperationState`, `terminalStates`, `suspendedStates`, `transitions` — the canonical state machine.
* `OperationRecord` — what the store keeps of an operation. Its `slices` and `artifacts` are the keys
  the controller writes, each absent or set.
* `OperationRecord.transition` — a validated change of state; `OperationRecord.moved` is the record
  it leaves (`transition_of_allows`).
* `ControllerOp` — the questions: the store (`load`, `save`), the event log (`append`), the adapters,
  and the random identifiers (`secrets.token_hex`, `uuid.uuid4`).
* `OperationController` — what the constructor stored: which adapters are there, whether there is an
  event store, the interpreter's recursion limit, and SHA-256.
* `Ctl` — a controller program. An adapter answers with any dictionary or raises any exception.
* Helpers for what Python does with values of an unexpected type.

Timestamps are left out: nothing the controller decides depends on them.
-/

import Audisor.Json.Text
import Audisor.Interaction.Program

namespace Audisor.Controller

/-- All possible states an operation can be in. -/
inductive OperationState where
  | received
  | planning
  | planReady
  | reviewing
  | fulfilling
  | collectingEvidence
  | awaitingDecision
  | sandboxReady
  | sandboxRunning
  | verifying
  | readyToApply
  | completed
  | cancelledByUser
  | superseded
  | suspendedPlanRevision
  | suspendedProviderRecovery
  | suspendedEvidence
  | suspendedPackageRepair
  | suspendedDecision
  | suspendedForApproval
  | suspendedForToolResult
  deriving DecidableEq, Repr

namespace OperationState

def value : OperationState → String
  | received => "received"
  | planning => "planning"
  | planReady => "plan_ready"
  | reviewing => "reviewing"
  | fulfilling => "fulfilling"
  | collectingEvidence => "collecting_evidence"
  | awaitingDecision => "awaiting_decision"
  | sandboxReady => "sandbox_ready"
  | sandboxRunning => "sandbox_running"
  | verifying => "verifying"
  | readyToApply => "ready_to_apply"
  | completed => "completed"
  | cancelledByUser => "cancelled_by_user"
  | superseded => "superseded"
  | suspendedPlanRevision => "suspended_plan_revision"
  | suspendedProviderRecovery => "suspended_provider_recovery"
  | suspendedEvidence => "suspended_evidence"
  | suspendedPackageRepair => "suspended_package_repair"
  | suspendedDecision => "suspended_decision"
  | suspendedForApproval => "suspended_for_approval"
  | suspendedForToolResult => "suspended_for_tool_result"

end OperationState

def terminalStates : List OperationState := [.completed, .cancelledByUser, .superseded]

def suspendedStates : List OperationState :=
  [.suspendedPlanRevision, .suspendedProviderRecovery, .suspendedEvidence, .suspendedPackageRepair,
    .suspendedDecision, .suspendedForApproval, .suspendedForToolResult]

def transitions : OperationState → List OperationState
  | .received => [.planning, .reviewing]
  | .planning =>
    [.planReady, .suspendedPlanRevision, .suspendedForToolResult, .suspendedForApproval,
      .cancelledByUser]
  | .planReady => [.reviewing, .cancelledByUser]
  | .reviewing =>
    [.fulfilling, .sandboxReady, .suspendedEvidence, .suspendedPlanRevision,
      .suspendedProviderRecovery, .cancelledByUser]
  | .fulfilling => [.collectingEvidence, .awaitingDecision, .reviewing, .cancelledByUser]
  | .collectingEvidence => [.reviewing, .suspendedEvidence, .cancelledByUser]
  | .awaitingDecision => [.reviewing, .suspendedDecision, .cancelledByUser]
  | .sandboxReady => [.sandboxRunning, .suspendedProviderRecovery, .cancelledByUser]
  | .sandboxRunning =>
    [.verifying, .completed, .suspendedProviderRecovery, .suspendedPackageRepair,
      .suspendedForApproval, .suspendedForToolResult, .cancelledByUser]
  | .verifying => [.readyToApply, .sandboxReady, .cancelledByUser]
  | .readyToApply => [.completed, .cancelledByUser]
  | .suspendedPlanRevision => [.planning, .reviewing, .cancelledByUser, .superseded]
  | .suspendedProviderRecovery =>
    [.reviewing, .sandboxReady, .sandboxRunning, .cancelledByUser, .superseded]
  | .suspendedEvidence => [.collectingEvidence, .reviewing, .cancelledByUser, .superseded]
  | .suspendedPackageRepair => [.sandboxReady, .cancelledByUser, .superseded]
  | .suspendedDecision => [.awaitingDecision, .reviewing, .cancelledByUser, .superseded]
  | .suspendedForApproval =>
    [.sandboxRunning, .planning, .suspendedForToolResult, .cancelledByUser, .superseded]
  | .suspendedForToolResult => [.sandboxRunning, .planning, .cancelledByUser, .superseded]
  | .completed | .cancelledByUser | .superseded => []

/-! ### The record -/

/-- One entry of `history`. -/
structure HistoryEntry where
  source : OperationState
  target : OperationState
  reason : String
  deriving DecidableEq, Repr

/-- `slices["execution_claim"]`. -/
structure ExecutionClaim where
  claimantId : String
  callId : String
  suspensionId : String
  argumentDigest : String
  deriving DecidableEq, Repr

/-- The keys of `record.slices`: `none` where a key is absent. -/
structure Slices where
  suspensionId : Option Json := none
  pendingCalls : Option Json := none
  resumePhase : Option String := none
  argumentDigest : Option String := none
  approvalToolCall : Option Dict := none
  approvalSuspensionId : Option Json := none
  approvalDecided : Option Bool := none
  approvalDecision : Option Bool := none
  executionClaim : Option ExecutionClaim := none
  suspensionConsumed : Option Bool := none
  consumedToolResults : Option Json := none
  deriving DecidableEq, Repr

/-- The keys of `record.artifacts`: `aflowRetry` holds the keys `aflow_retry:<idempotency key>`. -/
structure Artifacts where
  candidatePlan : Option String := none
  continuation : Option Json := none
  aflowLifecycleRunId : Option Json := none
  aflowIssueId : Option Json := none
  aflowRetry : List (String × String) := []
  deriving DecidableEq, Repr

/-- Persistent record of an operation's current state and history. -/
structure OperationRecord where
  operationId : String
  state : OperationState
  sourceKind : String
  prompt : String := ""
  history : List HistoryEntry := []
  suspendReason : Option Json := none
  resumeInputSchema : Option Json := none
  artifacts : Artifacts := {}
  slices : Slices := {}
  deriving DecidableEq, Repr

/-! ### Transitions -/

/-- Python's `repr` of a list of state texts, which hold no quote. -/
def listRepr (texts : List String) : String :=
  "[" ++ ", ".intercalate (texts.map fun text => "'" ++ text ++ "'") ++ "]"

namespace OperationRecord

def Allows (record : OperationRecord) (target : OperationState) : Prop :=
  record.state ∉ terminalStates ∧ target ∈ transitions record.state

instance (record : OperationRecord) (target : OperationState) : Decidable (record.Allows target) :=
  inferInstanceAs (Decidable (_ ∧ _))

theorem allows_of_state {record : OperationRecord} {source target : OperationState}
    (state : record.state = source) (valid : source ∉ terminalStates ∧ target ∈ transitions source) :
    record.Allows target := by
  subst state
  exact valid

/-- The record after a valid transition: leaving the suspended states clears the suspension. -/
def moved (record : OperationRecord) (target : OperationState) (reason : String) :
    OperationRecord :=
  { record with
    state := target
    history := record.history ++ [⟨record.state, target, reason⟩]
    suspendReason := if target ∈ suspendedStates then record.suspendReason else none
    resumeInputSchema := if target ∈ suspendedStates then record.resumeInputSchema else none }

/-- Transition to a new state with validation; the error is the text of `InvalidTransition`. -/
def transition (record : OperationRecord) (target : OperationState) (reason : String) :
    Except String OperationRecord :=
  if record.state ∈ terminalStates then
    .error ("Cannot transition from terminal state " ++ record.state.value)
  else if target ∉ transitions record.state then
    .error ("Invalid transition: " ++ record.state.value ++ " → " ++ target.value ++
      ". Allowed: " ++ listRepr
        (((transitions record.state).map OperationState.value).insertionSort (· ≤ ·)))
  else .ok (record.moved target reason)

theorem transition_of_allows {record : OperationRecord} {target : OperationState}
    (allowed : record.Allows target) (reason : String) :
    record.transition target reason = .ok (record.moved target reason) := by
  rw [transition, if_neg allowed.1, if_neg (not_not.mpr allowed.2)]

/-- **What a transition does**: it is valid and moves the record, or it raises. -/
theorem transition_cases (record : OperationRecord) (target : OperationState) (reason : String) :
    (record.Allows target ∧ record.transition target reason = .ok (record.moved target reason)) ∨
      (¬ record.Allows target ∧ ∃ text, record.transition target reason = .error text) := by
  by_cases allowed : record.Allows target
  · exact Or.inl ⟨allowed, transition_of_allows allowed reason⟩
  · refine Or.inr ⟨allowed, ?_⟩
    unfold transition
    split
    · exact ⟨_, rfl⟩
    · rename_i live
      rw [if_pos fun member => allowed ⟨live, member⟩]
      exact ⟨_, rfl⟩

section Moved

variable (record : OperationRecord) (target : OperationState) (reason : String)

@[simp] theorem moved_state : (record.moved target reason).state = target := rfl

@[simp] theorem moved_operationId :
    (record.moved target reason).operationId = record.operationId := rfl

@[simp] theorem moved_sourceKind : (record.moved target reason).sourceKind = record.sourceKind := rfl

@[simp] theorem moved_history : (record.moved target reason).history =
    record.history ++ [⟨record.state, target, reason⟩] := rfl

@[simp] theorem moved_artifacts : (record.moved target reason).artifacts = record.artifacts := rfl

@[simp] theorem moved_slices : (record.moved target reason).slices = record.slices := rfl

end Moved

end OperationRecord

open Interaction

/-- The exceptions that leave a controller method. -/
inductive PyError where
  | invalidTransition (message : String)
  | attributeError
  | typeError
  | keyError
  | nameError
  | jsonDecodeError
  | recursionError
  | adapterError (message : String)
  deriving DecidableEq, Repr

/-- Central lifecycle coordinator for all operation types. -/
structure OperationController where
  hasPlanning : Bool
  hasReview : Bool
  hasFulfilment : Bool
  hasExecution : Bool
  hasChat : Bool
  hasEvents : Bool
  recursionLimit : Nat
  sha256 : String → String

/-- One question of the controller. -/
inductive ControllerOp where
  | load (operationId : String)
  | save (record : OperationRecord)
  | append (operationId : String) (state : OperationState) (eventType : String) (payload : Dict)
  | createPlan (prompt : String) (context : Dict)
  | resumePlan (record : OperationRecord) (resumeInput : Dict)
  | review (plan : Json) (operationId : String) (providerOverride : Option String)
  | fulfil (findings : Json) (plan : Json) (context : Dict)
  | execute (operationId : String) (plan : Json) (context : Dict)
  | resumeExecution (record : OperationRecord) (resumeInput : Dict)
  | chatTurn (message : String) (history : Json) (context : Dict)
  | tokenHex (bytes : Nat)
  | uuid4Hex
  deriving DecidableEq, Repr

/-- What an adapter returns or raises. -/
abbrev AdapterAnswer := Except PyError Dict

@[reducible] def ControllerOp.Answer : ControllerOp → Type
  | load _ => Option OperationRecord
  | save _ => Unit
  | append _ _ _ _ => Unit
  | createPlan _ _ => AdapterAnswer
  | resumePlan _ _ => AdapterAnswer
  | review _ _ _ => AdapterAnswer
  | fulfil _ _ _ => AdapterAnswer
  | execute _ _ _ => AdapterAnswer
  | resumeExecution _ _ => AdapterAnswer
  | chatTurn _ _ _ => AdapterAnswer
  | tokenHex _ => String
  | uuid4Hex => String

instance : (op : ControllerOp) → DecidableEq op.Answer
  | .load _ => inferInstanceAs (DecidableEq (Option OperationRecord))
  | .save _ | .append _ _ _ _ => inferInstanceAs (DecidableEq Unit)
  | .createPlan _ _ | .resumePlan _ _ | .review _ _ _ | .fulfil _ _ _ | .execute _ _ _
  | .resumeExecution _ _ | .chatTurn _ _ _ => inferInstanceAs (DecidableEq (Except PyError Dict))
  | .tokenHex _ | .uuid4Hex => inferInstanceAs (DecidableEq String)

/-- The controller's questions and their answers. -/
abbrev controllerSignature : Signature := ⟨ControllerOp, ControllerOp.Answer⟩

/-- A controller program. -/
abbrev Ctl := Program controllerSignature PyError

/-! ### The questions as programs -/

def load (operationId : String) : Ctl (Option OperationRecord) :=
  .ask (S := controllerSignature) (.load operationId) fun answer => .done answer

def save (record : OperationRecord) : Ctl Unit :=
  .ask (S := controllerSignature) (.save record) fun _ => .done ()

def append (operationId : String) (state : OperationState) (eventType : String) (payload : Dict) :
    Ctl Unit :=
  .ask (S := controllerSignature) (.append operationId state eventType payload) fun _ => .done ()

def createPlan (prompt : String) (context : Dict) : Ctl Dict :=
  .ask (S := controllerSignature) (.createPlan prompt context) Program.ofExcept

def resumePlan (record : OperationRecord) (resumeInput : Dict) : Ctl Dict :=
  .ask (S := controllerSignature) (.resumePlan record resumeInput) Program.ofExcept

def review (plan : Json) (operationId : String) (providerOverride : Option String) : Ctl Dict :=
  .ask (S := controllerSignature) (.review plan operationId providerOverride) Program.ofExcept

def fulfil (findings : Json) (plan : Json) (context : Dict) : Ctl Dict :=
  .ask (S := controllerSignature) (.fulfil findings plan context) Program.ofExcept

def execute (operationId : String) (plan : Json) (context : Dict) : Ctl Dict :=
  .ask (S := controllerSignature) (.execute operationId plan context) Program.ofExcept

def resumeExecution (record : OperationRecord) (resumeInput : Dict) : Ctl Dict :=
  .ask (S := controllerSignature) (.resumeExecution record resumeInput) Program.ofExcept

def chatTurn (message : String) (history : Json) (context : Dict) : Ctl Dict :=
  .ask (S := controllerSignature) (.chatTurn message history context) Program.ofExcept

def tokenHex (bytes : Nat) : Ctl String :=
  .ask (S := controllerSignature) (.tokenHex bytes) fun answer => .done answer

def uuid4Hex : Ctl String := .ask (S := controllerSignature) .uuid4Hex fun answer => .done answer

/-! ### Values of an unexpected type -/

/-- What `value.get` needs: a dictionary. -/
def asDict : Json → Except PyError Dict
  | .obj fields => .ok fields
  | _ => .error .attributeError

/-- `for item in value`. -/
def iterate : Json → Except PyError (List Json)
  | .arr items => .ok items
  | .str text => .ok (text.toList.map fun c => .str (String.ofList [c]))
  | .obj fields => .ok ((fields.map Prod.fst).dedup.map .str)
  | _ => .error .typeError

/-- `len(value)`. -/
def lenOf : Json → Except PyError Nat
  | .arr items => .ok items.length
  | .str text => .ok text.length
  | .obj fields => .ok (fields.map Prod.fst).dedup.length
  | _ => .error .typeError

/-- A value in an f-string; a list or a dictionary is shown by its JSON. -/
def shown : Json → String
  | .str text => text
  | .null => "None"
  | .bool true => "True"
  | .bool false => "False"
  | value => value.dumps {}

end Audisor.Controller
