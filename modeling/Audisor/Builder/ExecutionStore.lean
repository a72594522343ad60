/-
**The store of executions, after a crash.**

* `Execution` — the files of an execution: its state, its prepared plan, its authority.
* `loadState`, `loadPreparedPlan`, `persistState` — what the store reads and writes.
* `reconcileStale`, `loadAndReconcile` — a state whose process is gone becomes an interrupted one.
* `claimExisting` — what `claim` makes of the executions that exist, before it adds one.

A directory holds what the store has written, or files that cannot be read.
-/

import Audisor.Builder.Scheduler
import Audisor.Interaction.Stateful

namespace Audisor.Builder

open Checked DeterministicScheduler

/-- What an execution may change. -/
structure TargetAuthorityRecord where
  executionId : SafeIdentifier
  idempotencyKey : SafeIdentifier
  requestDigest : String
  resolvedTargetRoot : String
  allowedWritePaths : List String

/-- The directory of an execution; `none` is a file that cannot be read. -/
structure Execution where
  name : String
  state : Option BuildExecutionState
  preparedPlan : Option BuildPlan
  authority : Option TargetAuthorityRecord

/-- What a request to execute a build is recognised by. -/
structure BuildExecutionRequest where
  executionId : SafeIdentifier
  idempotencyKey : SafeIdentifier

/-- A claim on an execution; `locked` when it comes with the lock. -/
structure ExecutionClaim where
  path : String
  state : BuildExecutionState
  isNew : Bool
  locked : Bool

/-- **What the store depends on**: locks that others hold, writes that fail, `str.casefold`, and
`final_state`. -/
structure ExecutionHost where
  held : String → Bool
  unwritable : String → Bool
  foldCase : String → String
  finalState : Execution → Except Fault BuildExecutionState

/-- The executions of a build, in the order of their names. -/
abbrev Executions := List Execution

/-! ### Files -/

/-- `load_state`. -/
def loadState (execution : Execution) : Except Fault BuildExecutionState :=
  match execution.state with
  | none => .error (.executionStoreError "Execution storage is unreadable")
  | some state =>
    match state.modelValidate with
    | .ok state => .ok state
    | .error _ => .error (.executionStoreError "Execution state is invalid")

/-- `load_prepared_plan`. -/
def loadPreparedPlan (execution : Execution) : Except Fault BuildPlan :=
  match execution.preparedPlan with
  | none => .error (.executionStoreError "Execution storage is unreadable")
  | some plan =>
    if plan.tasks.length ≤ 256 then .ok plan
    else .error (.executionStoreError "Prepared execution plan is invalid")

/-- `_scheduler_for`: the state is validated against the plan. -/
def schedulerFor (plan : BuildPlan) (state : BuildExecutionState) : Except Fault Unit :=
  validateState ⟨plan, state.executionId⟩ state

/-- `_not_valid_state`, of a state that was read. -/
def notValidState (raw : BuildExecutionState) : BuildExecutionState :=
  let kept := raw.tasks.filter fun record => record.status.isTerminal
  let invalid : TaskStateRecord := ⟨⟨"invalid-state", by decide⟩, .interrupted⟩
  let found : BuildExecutionState :=
    { buildId := raw.buildId, executionId := raw.executionId, status := .notValid
      tasks := if kept = [] then [invalid] else kept }
  match found.modelValidate with
  | .ok state => state
  | .error _ =>
    { buildId := ⟨"invalid-build", by decide⟩, executionId := ⟨"invalid-execution", by decide⟩
      status := .notValid, tasks := [invalid] }

variable (host : ExecutionHost)

/-- `persist_state`. -/
def persistState (path : String) (state : BuildExecutionState) : Run Executions Fault Unit :=
  if host.unwritable path then
    .raise (.executionStoreError "Execution state persistence failed")
  else
    .change fun executions => executions.map fun execution =>
      if execution.name = path then { execution with state := some state } else execution

/-! ### Reconciliation -/

/-- `_reconcile_stale`. -/
def reconcileStale (path : String) (state : BuildExecutionState) (preparedPlan : BuildPlan) :
    Run Executions Fault BuildExecutionState := do
  Run.ofExcept (schedulerFor preparedPlan state)
  let reconciled := interruptRunning state
  if reconciled ≠ state then
    Run.ofExcept (schedulerFor preparedPlan reconciled)
    persistState host path reconciled
  return reconciled

/-- What `load_and_reconcile` reads and validates first. -/
def loadValidated (execution : Execution) : Except Fault (BuildExecutionState × BuildPlan) := do
  let state ← loadState execution
  let plan ← loadPreparedPlan execution
  schedulerFor plan state
  return (state, plan)

/-- `load_and_reconcile`. -/
def loadAndReconcile (execution : Execution) : Run Executions Fault BuildExecutionState :=
  match loadValidated execution with
  | .error (.executionStoreError _) | .error (.schedulerError _) =>
    match execution.state with
    | none => .raise (.executionStoreError "Execution storage is unreadable")
    | some raw => pure (notValidState raw)
  | .error fault => .raise fault
  | .ok (state, plan) =>
    if state.status ∈ [ExecutionStatus.completed, .failed, .notValid] then
      .ofExcept (host.finalState execution)
    else if host.held execution.name then pure state
    else reconcileStale host execution.name state plan

/-! ### Claims -/

/-- `_same_authority`. -/
def sameAuthority (existing requested : TargetAuthorityRecord) : Bool :=
  existing.resolvedTargetRoot = requested.resolvedTargetRoot ∧
    existing.allowedWritePaths.map host.foldCase = requested.allowedWritePaths.map host.foldCase

/-- An execution that exists, as `_existing_records` reads it. -/
structure ExistingRecord where
  execution : Execution
  authority : TargetAuthorityRecord
  state : BuildExecutionState

/-- The plan of a record, once its state is validated against it. -/
def existingPlan (record : ExistingRecord) : Except Fault BuildPlan :=
  match (do
    let plan ← loadPreparedPlan record.execution
    schedulerFor plan record.state
    return plan : Except Fault BuildPlan) with
  | .error (.executionStoreError _) | .error (.schedulerError _) =>
    .error (.executionStoreError "Existing execution graph is invalid")
  | result => result

/-- One record in the loop of `claim`: a claim is the answer, `none` goes on. -/
def visitRecord (request : BuildExecutionRequest) (authority : TargetAuthorityRecord)
    (record : ExistingRecord) : Run Executions Fault (Option ExecutionClaim) := do
  let plan ← Run.ofExcept (existingPlan record)
  let path := record.execution.name
  if record.authority.idempotencyKey = request.idempotencyKey then
    if record.authority.requestDigest ≠ authority.requestDigest then
      Run.raise (.executionConflictError "Idempotency key is already bound to different input")
    else if host.held path then return some ⟨path, record.state, false, false⟩
    else
      let state ← reconcileStale host path record.state plan
      return some ⟨path, state, false, true⟩
  else if record.authority.executionId = request.executionId then
    Run.raise (.executionConflictError "Execution ID already exists")
  else if record.state.status = .running ∧ sameAuthority host record.authority authority then
    if host.held path then
      Run.raise (.executionConflictError "An execution is already running under this authority")
    else
      let _ ← reconcileStale host path record.state plan
      return none
  else return none

end Audisor.Builder
