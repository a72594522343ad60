/-
**The task store of the chat: its state, and what each of its calls makes of it.**

* `Stage`, `EventType`, `AgentEvent` — the events of a task; `Workspace`, `TaskState`, `ChatMessage`.
* `validateRecordEntry` — why a payload is no entry of the task record.
* `handleEvent` — the reducer of events. `sendMessage`, `cancelTask`, `reset` — the calls of the user.
* `Action`, `step` — a call with what the outside adds to it: the time, and the events that the event source
  hands over before it returns.

What a message of the user is sent with, and the trees of the files of a workspace, are not part of the
state.
-/

import Audisor.Json.Value

namespace Audisor.Chat

open Json

/-! ### Events -/

inductive Stage where
  | idle | queued | reading | planning | reviewing | editing | testing | waiting | blocked | completed
  | cancelled
  deriving DecidableEq, Repr

def Stage.value : Stage → String
  | .idle => "idle"
  | .queued => "queued"
  | .reading => "reading"
  | .planning => "planning"
  | .reviewing => "reviewing"
  | .editing => "editing"
  | .testing => "testing"
  | .waiting => "waiting"
  | .blocked => "blocked"
  | .completed => "completed"
  | .cancelled => "cancelled"

inductive EventType where
  | taskCreated | messageReceived | stageChanged | workspaceEntered | workspaceTouched | fileRead
  | fileChanged | validationStarted | validationCompleted | taskCancelled | taskFailed | taskCompleted
  | participantActivated | participantActivityUpdate | participantOutcomeRecorded
  | toolCallRequested | toolExecuting | toolOutputStream | toolCompleted | toolFailed
  | toolApprovalRequested | toolApprovalResolved
  | operationCreated | operationStateTransition | operationToolExecutionRequested
  | operationToolApprovalRequested | operationSuspended | operationResumed
  deriving DecidableEq, Repr

structure AgentEvent where
  eventId : String
  sequence : Nat
  taskId : String
  eventType : EventType
  stage : Stage
  workspaceId : Option String := none
  filePath : Option String := none
  message : String
  timestamp : Option String
  metadata : Option Dict := none

/-- `event.metadata?.[key]`. -/
def AgentEvent.detail (event : AgentEvent) (key : String) : Option Json :=
  event.metadata.bind fun metadata => get? metadata key

/-- `isTerminal`. -/
def AgentEvent.isTerminal (event : AgentEvent) : Bool :=
  event.eventType = .taskCompleted || event.eventType = .taskFailed || event.eventType = .taskCancelled

/-- What the clock says during a call. -/
structure Clock where
  messageStamp : Nat
  activityStamp : Nat
  iso : String

/-! ### State -/

structure Workspace where
  id : String
  name : String
  stage : Stage
  taskParticipant : Bool
  isActive : Bool
  deriving DecidableEq

inductive TaskStatus where
  | idle | queued | running | completed | failed | cancelled
  deriving DecidableEq, Repr

structure ActivityUpdate where
  id : String
  text : String
  timestamp : Option String

/-- An activity of a participant. It is always working. -/
structure TaskActivity where
  activityId : Json
  participantId : Json
  summary : String
  messages : List ActivityUpdate

structure TaskState where
  taskId : Option String
  status : TaskStatus
  objective : String
  currentWorkspace : String
  currentStage : Stage
  currentFile : String
  currentAction : String
  validationStatus : String
  filesTouched : List String
  participatingWorkspaceIds : List String
  activeParticipantId : Option Json
  activeActivityId : Option Json
  activeActivity : Option TaskActivity
  taskRecord : List Json

inductive Role where
  | user | agent
  deriving DecidableEq, Repr

structure MessageTokenUsage where
  inputTokens : Json
  outputTokens : Option Json
  totalTokens : Option Json
  cost : Json
  provider : Json

/-- A message; one of the agent has one completed activity, with this detail. -/
structure ChatMessage where
  id : String
  role : Role
  content : String
  timestamp : String
  activity : Option (String × String) := none
  tokens : Option MessageTokenUsage := none

structure AppState where
  workspaces : List Workspace
  participatingWorkspaceIds : List String
  task : TaskState
  drawerOpen : Bool
  messages : List ChatMessage
  loading : Bool
  draft : String
  selectedModel : Option String
  overLimit : Bool
  turn : Role
  currentOperationId : Option Json
  lastValidationFailure : Option String
  eventSource : Bool

/-- `initialWorkspaces`. -/
def initialWorkspaces : List Workspace :=
  [⟨"ws-theoneshot", "Theoneshot", .idle, false, false⟩,
    ⟨"ws-audisor", "Audisor Toolkit", .idle, false, false⟩,
    ⟨"ws-aflow", "A-Flow", .idle, false, false⟩]

/-- `initialTask`. -/
def initialTask : TaskState where
  taskId := none
  status := .idle
  objective := ""
  currentWorkspace := ""
  currentStage := .idle
  currentFile := ""
  currentAction := ""
  validationStatus := ""
  filesTouched := []
  participatingWorkspaceIds := []
  activeParticipantId := none
  activeActivityId := none
  activeActivity := none
  taskRecord := []

def initialState : AppState where
  workspaces := initialWorkspaces
  participatingWorkspaceIds := []
  task := initialTask
  drawerOpen := false
  messages := []
  loading := false
  draft := ""
  selectedModel := none
  overLimit := false
  turn := .user
  currentOperationId := none
  lastValidationFailure := none
  eventSource := false

/-! ### Values of JavaScript -/

def truthy : Json → Bool
  | .null => false
  | .bool value => value
  | .int value => value != 0
  | .float literal => literal.scaled.1 != 0
  | .str text => text != ""
  | .arr _ => true
  | .obj _ => true

/-- `value && typeof value === 'object'`. -/
def isObject : Option Json → Bool
  | some (.arr _) => true
  | some (.obj _) => true
  | _ => false

/-- `value && typeof value === 'string'`. -/
def isText : Option Json → Bool
  | some (.str text) => text != ""
  | _ => false

def isArray : Option Json → Bool
  | some (.arr _) => true
  | _ => false

/-- `typeof value === 'number'`. -/
def isNumber : Json → Bool
  | .int _ => true
  | .float _ => true
  | _ => false

/-- `value[key]`. -/
def member (value : Option Json) (key : String) : Option Json :=
  match value with
  | some (.obj fields) => get? fields key
  | _ => none

/-- `value === undefined || value === null`. -/
def isMissing : Option Json → Bool
  | none => true
  | some .null => true
  | _ => false

/-- A blank of `trim`. -/
def isBlankChar (c : Char) : Bool :=
  ('\t' ≤ c && c ≤ '\r') || ('\u2000' ≤ c && c ≤ '\u200a') ||
    [' ', '\u00a0', '\u1680', '\u2028', '\u2029', '\u202f', '\u205f', '\u3000', '\ufeff'].contains c

/-- `text.trim()`. -/
def trim (text : String) : String :=
  String.ofList ((text.toList.dropWhile isBlankChar).reverse.dropWhile isBlankChar).reverse

/-! ### The task record -/

def requiredBase : List String :=
  ["entryId", "activityId", "participantId", "title", "outcome", "status", "timestamp"]

variable (display : Json → String)

/-- What an entry of some status lacks, in the order of the checks. -/
def statusFailures (payload : Option Json) (status : Json) : List (Bool × String) :=
  let rootCause := member payload "rootCause"
  let resolution := member payload "resolution"
  let settled := member resolution "status"
  let evidence := member resolution "evidence"
  let named (text : String) : String := display status ++ text
  (if status == .str "correction_required" || status == .str "failed" then
    [(!isObject rootCause, named " entry requires rootCause"),
      (!isText (member rootCause "summary"), named " entry requires rootCause.summary"),
      (!isArray (member rootCause "evidence"), named " entry requires rootCause.evidence array"),
      (!isObject resolution, named " entry requires resolution"),
      (!isText (member resolution "summary"), named " entry requires resolution.summary"),
      (!isText (member resolution "action"), named " entry requires resolution.action"),
      (!(settled == some (.str "proposed") || settled == some (.str "applied") ||
          settled == some (.str "verified")),
        named " entry requires resolution.status (proposed|applied|verified)"),
      (!isArray evidence, named " entry requires resolution.evidence array"),
      (settled == some (.str "applied") && evidence == some (.arr []),
        "resolution.status=applied requires supporting evidence"),
      (settled == some (.str "verified") && evidence == some (.arr []),
        "resolution.status=verified requires verification evidence")]
  else []) ++
  (if status == .str "blocked" then
    [(!isText (member payload "blockingReason"), "blocked entry requires blockingReason")] else []) ++
  (if status == .str "cancelled" then
    [(!isText (member payload "cancellationReason"), "cancelled entry requires cancellationReason")]
  else []) ++
  [(!([Json.str "completed", .str "correction_required", .str "failed", .str "blocked",
      .str "cancelled"].contains status), "Unknown entry status: " ++ display status)]

/-- `validateRecordEntry(payload)`: the entry, or the reason of the failure. -/
def validateRecordEntry (payload : Option Json) : Except String Json :=
  let missing := requiredBase.map fun field =>
    (isMissing (member payload field), "Missing required field: " ++ field)
  let failures := (!isObject payload, "Record entry payload is not an object") :: missing ++
    statusFailures display payload ((member payload "status").getD .null)
  match failures.find? Prod.fst with
  | some failure => .error failure.2
  | none => .ok (payload.getD .null)

/-! ### The reducer -/

/-- `participant.activated`. -/
def activated (clock : Clock) (event : AgentEvent) (s : AppState) : AppState :=
  let participantId := (event.detail "participantId").filter (· != .null) |>.getD (.str "audisor")
  let activityId := (event.detail "activityId").filter (· != .null) |>.getD
    (.str ("act-" ++ toString clock.activityStamp))
  { s with
    task := { s.task with
      status := .running
      activeParticipantId := some participantId
      activeActivityId := some activityId
      activeActivity := some ⟨activityId, participantId, event.message, []⟩
      currentAction := event.message }
    loading := true }

/-- `participant.activity_update`. -/
def activityUpdated (event : AgentEvent) (s : AppState) : AppState :=
  match s.task.activeActivity with
  | none => s
  | some activity => { s with
      task := { s.task with
        activeActivity := some { activity with
          messages := activity.messages ++ [⟨event.eventId, event.message, event.timestamp⟩]
          summary := event.message }
        currentAction := event.message } }

/-- `participant.outcome_recorded`. -/
def outcomeRecorded (event : AgentEvent) (s : AppState) : AppState :=
  match validateRecordEntry display (event.detail "entry") with
  | .error reason => { s with lastValidationFailure := some reason }
  | .ok entry => { s with
      lastValidationFailure := none
      task := { s.task with
        activeActivity := none
        activeActivityId := none
        activeParticipantId := none
        taskRecord := s.task.taskRecord ++ [entry] } }

def touched (event : AgentEvent) (ws : Workspace) : Workspace :=
  if some ws.id = event.workspaceId then
    { ws with stage := event.stage, isActive := !event.isTerminal }
  else if ws.isActive && event.workspaceId.getD "" != "" then { ws with isActive := false }
  else if event.isTerminal && ws.isActive then { ws with isActive := false, stage := .completed }
  else ws

/-- The file that an event names, if it is the first to do so. -/
def newlyTouched (event : AgentEvent) (filesTouched : List String) : List String :=
  match event.filePath with
  | some path => if path != "" && !filesTouched.contains path then filesTouched ++ [path] else filesTouched
  | none => filesTouched

/-- The task after an event about a workspace or in general. -/
def taskAfter (event : AgentEvent) (workspaces : List Workspace) (task : TaskState) : TaskState :=
  let next := { task with
    status := if event.isTerminal then (if event.stage = .cancelled then .cancelled else .completed)
      else .running
    currentStage := event.stage
    currentWorkspace := ((workspaces.find? fun ws => some ws.id = event.workspaceId).map
      Workspace.name).getD task.currentWorkspace
    currentFile := event.filePath.getD task.currentFile
    currentAction := event.message
    filesTouched := newlyTouched event task.filesTouched
    validationStatus := if event.eventType = .validationCompleted then "Passed"
      else task.validationStatus }
  if event.isTerminal then
    { next with activeParticipantId := none, activeActivityId := none, activeActivity := none }
  else next

def tokensOf (event : AgentEvent) : Option MessageTokenUsage :=
  match event.detail "inputTokens" with
  | some inputTokens =>
    if isNumber inputTokens then
      some {
        inputTokens := inputTokens
        outputTokens := event.detail "outputTokens"
        totalTokens := event.detail "totalTokens"
        cost := (event.detail "cost").getD .null
        provider := ((event.detail "tokenProvider").filter (· != .null)).getD (.str "local") }
    else none
  | none => none

/-- `agentMsg`. -/
def agentMessage (clock : Clock) (event : AgentEvent) (filesTouched : List String) : ChatMessage where
  id := "msg-" ++ toString clock.messageStamp ++ "-agent"
  role := .agent
  content := event.message
  timestamp := event.timestamp.getD clock.iso
  activity := some ("act-" ++ toString clock.activityStamp, "Stage: " ++ event.stage.value ++
    ". Files touched: " ++ (if ", ".intercalate filesTouched = "" then "none"
      else ", ".intercalate filesTouched))
  tokens := tokensOf event

def generalEvent (clock : Clock) (event : AgentEvent) (s : AppState) : AppState :=
  let workspaces := s.workspaces.map (touched event)
  let task := taskAfter event workspaces s.task
  { s with
    workspaces := workspaces
    task := task
    messages := if event.isTerminal then s.messages ++ [agentMessage clock event task.filesTouched]
      else s.messages
    loading := !event.isTerminal
    turn := if event.isTerminal then .user else s.turn }

def tracked (event : AgentEvent) (s : AppState) : AppState :=
  match event.detail "operationId" with
  | some operationId =>
    if event.eventType = .participantActivated && truthy operationId then
      { s with currentOperationId := some operationId }
    else s
  | none => s

/-- `handleEvent(event)`. -/
def handleEvent (clock : Clock) (event : AgentEvent) (s : AppState) : AppState :=
  match event.eventType with
  | .participantActivated => activated clock event (tracked event s)
  | .participantActivityUpdate => activityUpdated event (tracked event s)
  | .participantOutcomeRecorded => outcomeRecorded display event (tracked event s)
  | _ => generalEvent clock event (tracked event s)

def handleEvents (events : List (Clock × AgentEvent)) (s : AppState) : AppState :=
  events.foldl (fun s given => handleEvent display given.1 given.2 s) s

/-! ### The calls of the user -/

def accepts (s : AppState) (text : String) : Bool :=
  s.eventSource && trim text != "" && s.turn = .user && !s.loading && !s.overLimit

/-- `sendMessage(text)`, where the event source answers with an id of the task, after some events. -/
def sendMessage (text : String) (clock : Clock) (taskId : String)
    (emitted : List (Clock × AgentEvent)) (s : AppState) : AppState :=
  if accepts s text then
    let primary := (s.workspaces.head?.map Workspace.id).getD ""
    let linked := s.workspaces.tail.map Workspace.id
    let after := handleEvents display emitted s
    { after with
      messages := after.messages ++
        [{ id := "msg-" ++ toString clock.messageStamp, role := .user, content := trim text
           timestamp := clock.iso }]
      draft := ""
      loading := true
      turn := .agent
      drawerOpen := true
      task := { initialTask with
        taskId := some taskId
        status := .queued
        objective := trim text
        participatingWorkspaceIds := primary :: linked }
      participatingWorkspaceIds := primary :: linked
      workspaces := after.workspaces.map fun ws => { ws with
        taskParticipant := ws.id = primary || linked.contains ws.id
        stage := .idle
        isActive := false } }
  else s

/-- `cancelTask()`, where the event source hands over some events. -/
def cancelTask (emitted : List (Clock × AgentEvent)) (s : AppState) : AppState :=
  if s.eventSource then handleEvents display emitted s else s

/-- `reset()`. -/
def reset (s : AppState) : AppState := { initialState with eventSource := s.eventSource }

/-- A call of the store, with what the outside adds to it. -/
inductive Action where
  | sendMessage (text : String) (clock : Clock) (taskId : String) (emitted : List (Clock × AgentEvent))
  | handleEvent (clock : Clock) (event : AgentEvent)
  | cancelTask (emitted : List (Clock × AgentEvent))
  | reset
  /-- An event source is bound. -/
  | bindEventSource
  /-- An estimate of the capacity arrives. -/
  | estimated (overLimit : Bool)

def step (s : AppState) : Action → AppState
  | .sendMessage text clock taskId emitted => sendMessage display text clock taskId emitted s
  | .handleEvent clock event => handleEvent display clock event s
  | .cancelTask emitted => cancelTask display emitted s
  | .reset => reset s
  | .bindEventSource => { s with eventSource := true }
  | .estimated overLimit => { s with overLimit := overLimit }

end Audisor.Chat
