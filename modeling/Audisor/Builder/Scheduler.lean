/-
**The scheduler of a prepared build.**

* `SafeIdentifier`, `BuildTask`, `BuildPlan` — a plan as the schemas read it.
* `BuildExecutionState` — the durable state of an execution, with `modelValidate` for its checks.
* `DeterministicScheduler` — `initialState`, `validateState`, `nextReady`, `markRunning`,
  `markCompleted`, `markFailed`, `terminalStatus`, `interruptRunning`.
* `runTasks` — the loop of the executor over the tasks that become ready.
-/

import Audisor.Fix.Records
import Audisor.Graph.Dependencies
import Audisor.Interaction.Checked

namespace Audisor.Builder

open Checked Graph

/-! ### Plans -/

/-- `value.casefold()` of a safe identifier: its characters are ASCII. -/
def casefold (value : String) : List Char := value.toList.map Char.toLower

/-- `WINDOWS_RESERVED_NAMES`. -/
def windowsReservedNames : List (List Char) :=
  ["con", "prn", "aux", "nul",
    "com1", "com2", "com3", "com4", "com5", "com6", "com7", "com8", "com9",
    "lpt1", "lpt2", "lpt3", "lpt4", "lpt5", "lpt6", "lpt7", "lpt8", "lpt9"].map String.toList

/-- `[A-Za-z0-9._-]`. -/
def isIdentifierChar (c : Char) : Bool := c.isAlphanum || c == '.' || c == '_' || c == '-'

/-- `SAFE_IDENTIFIER_RE`. -/
def matchesSafeIdentifier (value : List Char) : Bool :=
  match value.head?, value.getLast? with
  | some first, some last =>
    first.isAlphanum && last.isAlphanum && value.all isIdentifierChar && value.length ≤ 64
  | _, _ => false

/-- `validate_safe_identifier`. -/
def isSafeIdentifier (value : String) : Bool :=
  matchesSafeIdentifier value.toList &&
    !windowsReservedNames.contains ((casefold value).takeWhile (· ≠ '.'))

/-- **A safe identifier.** -/
structure SafeIdentifier where
  value : String
  safe : isSafeIdentifier value = true := by decide
  deriving DecidableEq

/-- `self.casefold()`, the key under which identifiers are compared on Windows. -/
def SafeIdentifier.folded (identifier : SafeIdentifier) : List Char := casefold identifier.value

/-- A task of a plan. -/
structure BuildTask where
  taskId : SafeIdentifier
  dependsOn : List SafeIdentifier

/-- A plan. -/
structure BuildPlan where
  buildId : SafeIdentifier
  tasks : List BuildTask

/-- `[task.task_id for task in self.plan.tasks]`. -/
def BuildPlan.taskIds (plan : BuildPlan) : List SafeIdentifier := plan.tasks.map BuildTask.taskId

/-- The dependency graph: each task with what it depends on. -/
def BuildPlan.graph (plan : BuildPlan) : List (SafeIdentifier × List SafeIdentifier) :=
  plan.tasks.map fun task => (task.taskId, task.dependsOn)

/-- A task depends directly on another. -/
abbrev BuildPlan.Needs (plan : BuildPlan) : SafeIdentifier → SafeIdentifier → Prop := Edge plan.graph

/-! ### States -/

/-- The status of a task. -/
inductive TaskStatus where
  | pending | ready | running | completed | failed | blocked | interrupted
  deriving DecidableEq, Repr

/-- The status of an execution. -/
inductive ExecutionStatus where
  | running | suspended | completed | failed | interrupted | notValid
  deriving DecidableEq, Repr

/-- The status of one task. -/
structure TaskStateRecord where
  taskId : SafeIdentifier
  status : TaskStatus
  deriving DecidableEq

/-- The state of an execution, in the order of the plan. -/
structure BuildExecutionState where
  buildId : SafeIdentifier
  executionId : SafeIdentifier
  status : ExecutionStatus
  tasks : List TaskStateRecord
  terminalManifestSha256 : Option String := none
  deriving DecidableEq

/-- What the scheduler, the schemas and the store of executions raise. -/
inductive Fault where
  | schedulerError (message : String)
  | validationError (message : String)
  | keyError (key : SafeIdentifier)
  | executionStoreError (message : String)
  | executionConflictError (message : String)
  deriving DecidableEq

/-- `{"completed", "failed", "blocked", "interrupted"}`. -/
def TaskStatus.isTerminal : TaskStatus → Bool
  | .completed | .failed | .blocked | .interrupted => true
  | .pending | .ready | .running => false

/-- `validate_state_invariants`, after the checks of the fields. -/
def BuildExecutionState.modelValidate (state : BuildExecutionState) :
    Except Fault BuildExecutionState :=
  let statuses := state.tasks.map TaskStateRecord.status
  if state.tasks = [] then
    .error (.validationError "List should have at least 1 item after validation, not 0")
  else if 256 < state.tasks.length then
    .error (.validationError
      s!"List should have at most 256 items after validation, not {state.tasks.length}")
  else if state.terminalManifestSha256.any fun digest => !Fix.isHexDigest digest then
    .error (.validationError "String should match pattern '^[0-9a-f]\x7b64\x7d$'")
  else if ¬ (state.tasks.map fun record => record.taskId.folded).Nodup then
    .error (.validationError "execution task IDs must be unique")
  else if state.status = .completed ∧ statuses.any (· ≠ .completed) then
    .error (.validationError "completed execution requires every task completed")
  else if state.status = .failed ∧
      (.failed ∉ statuses ∨ statuses.any fun status => !status.isTerminal) then
    .error (.validationError "failed execution requires a failed task and all tasks terminal")
  else if state.status = .interrupted ∧
      (.interrupted ∉ statuses ∨ statuses.any fun status => !status.isTerminal) then
    .error (.validationError "interrupted execution requires all tasks terminal")
  else if (state.status = .completed ∨ state.status = .failed) ∧
      state.terminalManifestSha256 = none then
    .error (.validationError "trusted terminal state requires a terminal manifest")
  else .ok state

/-- `_status_map`, looked up: of two records of one task the later counts. -/
def BuildExecutionState.statusOf (state : BuildExecutionState) (taskId : SafeIdentifier) :
    Except Fault TaskStatus :=
  match state.tasks.reverse.find? fun record => record.taskId = taskId with
  | some record => .ok record.status
  | none => .error (.keyError taskId)

/-- `item.model_copy(update={"status": …})` for the records of one task. -/
def BuildExecutionState.withStatus (state : BuildExecutionState) (taskId : SafeIdentifier)
    (status : TaskStatus) : BuildExecutionState :=
  { state with
    tasks := state.tasks.map fun item =>
      if item.taskId = taskId then { item with status := status } else item }

/-! ### The scheduler -/

/-- A scheduler. -/
structure DeterministicScheduler where
  plan : BuildPlan
  executionId : SafeIdentifier

namespace DeterministicScheduler

variable (scheduler : DeterministicScheduler)

/-- `self.tasks`, looked up: of two tasks with one id the later counts. -/
def taskOf (taskId : SafeIdentifier) : Except Fault BuildTask :=
  match scheduler.plan.tasks.reverse.find? fun task => task.taskId = taskId with
  | some task => .ok task
  | none => .error (.keyError taskId)

/-- `initial_state`. -/
def initialState : Except Fault BuildExecutionState :=
  BuildExecutionState.modelValidate
    { buildId := scheduler.plan.buildId
      executionId := scheduler.executionId
      status := .running
      tasks := scheduler.plan.tasks.map fun task =>
        { taskId := task.taskId, status := if task.dependsOn = [] then .ready else .pending } }

/-- `terminal_status`. -/
def terminalStatus (state : BuildExecutionState) : Except Fault ExecutionStatus :=
  let statuses := state.tasks.map TaskStateRecord.status
  if statuses.any fun status => !status.isTerminal then
    .error (.schedulerError "Execution still contains non-terminal tasks")
  else if .failed ∈ statuses then .ok .failed
  else if .interrupted ∈ statuses then .ok .interrupted
  else if statuses ≠ [] ∧ statuses.all (· = .completed) then .ok .completed
  else .error (.schedulerError "Execution cannot be terminalized")

/-- The checks of one task of the plan against its status and those of what it depends on. -/
def validateTask (status : TaskStatus) (dependencyStatuses : List TaskStatus) :
    Except Fault Unit := do
  refuse (status ∈ [TaskStatus.ready, .running, .completed, .failed] ∧
      dependencyStatuses.any (· ≠ .completed))
    (.schedulerError "Runnable or completed task has an incomplete dependency")
  refuse (status = .pending ∧
      (dependencyStatuses = [] ∨ dependencyStatuses.all (· = .completed)))
    (.schedulerError "Pending task should be dependency-ready")
  refuse (status = .blocked ∧
      ¬ dependencyStatuses.any fun dependency => dependency = .failed ∨ dependency = .blocked)
    (.schedulerError "Blocked task is not downstream of a failure")

/-- The checks of the status of an execution against those of its tasks. -/
def validateStatus (state : BuildExecutionState) : Except Fault Unit :=
  if state.status = .completed ∨ state.status = .failed ∨ state.status = .interrupted then do
    let terminal ← terminalStatus state
    refuse (terminal ≠ state.status)
      (.schedulerError "Execution terminal status contradicts task state")
  else
    refuse (state.status = .running ∧ state.terminalManifestSha256 ≠ none)
      (.schedulerError "Running execution cannot reference a terminal manifest")

/-- `validate_state`. -/
def validateState (state : BuildExecutionState) : Except Fault Unit := do
  refuse (state.buildId ≠ scheduler.plan.buildId ∨ state.executionId ≠ scheduler.executionId)
    (.schedulerError "Execution identity does not match the prepared plan")
  refuse (¬ (state.tasks.map fun record => record.taskId.folded).Nodup)
    (.schedulerError "Execution state contains duplicate task IDs")
  refuse (state.tasks.map TaskStateRecord.taskId ≠ scheduler.plan.taskIds)
    (.schedulerError "Execution tasks do not match the prepared plan")
  refuse (1 < (state.tasks.map TaskStateRecord.status).count .running)
    (.schedulerError "Sequential execution cannot have multiple running tasks")
  scheduler.plan.tasks.forM fun task => do
    let status ← state.statusOf task.taskId
    let dependencyStatuses ← task.dependsOn.mapM state.statusOf
    validateTask status dependencyStatuses
  validateStatus state

/-- `next_ready`. -/
def nextReady (state : BuildExecutionState) : Except Fault (Option BuildTask) :=
  match state.tasks.find? fun item => item.status = .ready with
  | some item => some <$> scheduler.taskOf item.taskId
  | none => .ok none

/-- `mark_running`. -/
def markRunning (state : BuildExecutionState) (taskId : SafeIdentifier) :
    Except Fault BuildExecutionState := do
  refuse ((← state.statusOf taskId) ≠ .ready) (.schedulerError "Only a ready task can start")
  return state.withStatus taskId .running

/-- `all(…)` of what a task depends on, up to the first that is not completed. -/
def allCompleted (state : BuildExecutionState) : List SafeIdentifier → Except Fault Bool
  | [] => .ok true
  | dependency :: rest => do
    if (← state.statusOf dependency) = .completed then allCompleted state rest else return false

/-- The release of a task that waited for what is completed now. -/
def release (updated : BuildExecutionState) (item : TaskStateRecord) :
    Except Fault TaskStateRecord := do
  let task ← scheduler.taskOf item.taskId
  let released ←
    if item.status = .pending then allCompleted updated task.dependsOn else pure false
  return if released then { item with status := .ready } else item

/-- `mark_completed`. -/
def markCompleted (state : BuildExecutionState) (taskId : SafeIdentifier) :
    Except Fault BuildExecutionState := do
  refuse ((← state.statusOf taskId) ≠ .running)
    (.schedulerError "Only a running task can complete")
  let updated := state.withStatus taskId .completed
  let released ← updated.tasks.mapM (scheduler.release updated)
  return { state with tasks := released, status := .running }

/-- The tasks downstream of one task, and that task: the passes of the loop of `mark_failed`. -/
def downstream (taskId : SafeIdentifier) : List SafeIdentifier :=
  close scheduler.plan.graph (scheduler.plan.tasks.length + 1) [taskId]

/-- `mark_failed`. -/
def markFailed (state : BuildExecutionState) (taskId : SafeIdentifier) :
    Except Fault BuildExecutionState := do
  refuse ((← state.statusOf taskId) ≠ .running) (.schedulerError "Only a running task can fail")
  let blocked := scheduler.downstream taskId
  let tasks := state.tasks.map fun item =>
    if item.taskId = taskId then { item with status := .failed }
    else if item.taskId ∈ blocked ∧ (item.status = .pending ∨ item.status = .ready) then
      { item with status := .blocked }
    else item
  return { state with tasks := tasks, status := .running }

/-- `interrupt_running`. -/
def interruptRunning (state : BuildExecutionState) : BuildExecutionState :=
  if state.status ≠ .running ∧ ¬ state.tasks.any (·.status = .running) then state
  else
    { state with
      status := .interrupted
      tasks := state.tasks.map fun item =>
        if item.status = .pending ∨ item.status = .ready ∨ item.status = .running then
          { item with status := .interrupted }
        else item }

/-! ### The loop of the executor -/

/-- One round of the loop: the task, the state while it runs and the state after it. -/
structure Round where
  task : BuildTask
  started : BuildExecutionState
  settled : BuildExecutionState

def runTask (succeeds : SafeIdentifier → Bool) (state : BuildExecutionState) (task : BuildTask) :
    Except Fault Round := do
  let started ← markRunning state task.taskId
  let settled ←
    if succeeds task.taskId then scheduler.markCompleted started task.taskId
    else scheduler.markFailed started task.taskId
  return ⟨task, started, settled⟩

/-- The loop of `_run_to_terminal`, round by round; `none` when the fuel runs out. -/
def runTasks (succeeds : SafeIdentifier → Bool) :
    Nat → BuildExecutionState → Except Fault (Option (List Round))
  | 0, _ => .ok none
  | fuel + 1, state => do
    if state.status ≠ .running then return some []
    match ← scheduler.nextReady state with
    | none => return some []
    | some task =>
      let round ← scheduler.runTask succeeds state task
      return (← runTasks succeeds fuel round.settled).map (round :: ·)

def lastState (initial : BuildExecutionState) (rounds : List Round) : BuildExecutionState :=
  (rounds.getLast?.map Round.settled).getD initial

end DeterministicScheduler

end Audisor.Builder
