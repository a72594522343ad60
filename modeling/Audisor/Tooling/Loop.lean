/-
**The shared tool-calling loop.**

* `LoopOp` — what a loop asks of its surroundings: the abort event, the clock, the provider, the
  backend executor, random identifiers; and, for whoever drives it, the frontend and the operator.
* `sortCalls`, `handleToolCalls` — one response of the provider: its calls are blocked, sent to the
  operator, executed here, or left to the frontend.
* `execute` — the loop, on the iterations that are left; `ToolLoop.run`, `ToolLoop.resume`.
* `scripted` — a world with a list of provider responses; `executionLoop` — the execution adapter's.

The clock is asked for what the source computes from it: the seconds since the loop began, and how
long an execution took. Resuming gives the provider no tool schemas.
-/

import Audisor.Tooling.Records
import Audisor.Interaction.Scripted

namespace Audisor.Tooling

open Interaction Json Controller

/-! ### The surroundings -/

/-- One question of the loop, or of whoever drives it. -/
inductive LoopOp where
  | abortIsSet
  | elapsed
  | call (messages tools : List Dict) (model : Option String) (maxTokens : Int)
      (timeoutSeconds : Rat)
  | strftime
  | uuid4Hex
  | execute (toolName arguments : Json)
  | durationMs
  | frontend (pendingCalls : List PendingToolCall)
  | operator (toolCall : PendingToolCall)
  deriving DecidableEq

@[reducible] def LoopOp.Answer : LoopOp → Type
  | abortIsSet => Bool
  | elapsed => Rat
  | call _ _ _ _ _ => Except String ProviderResponse
  | strftime => String
  | uuid4Hex => String
  | execute _ _ => Except PyError ToolExecutionResult
  | durationMs => Int
  | frontend _ => List Dict
  | operator _ => Bool

instance : (op : LoopOp) → DecidableEq op.Answer
  | .abortIsSet | .operator _ => inferInstanceAs (DecidableEq Bool)
  | .elapsed => inferInstanceAs (DecidableEq Rat)
  | .call _ _ _ _ _ => inferInstanceAs (DecidableEq (Except String ProviderResponse))
  | .strftime | .uuid4Hex => inferInstanceAs (DecidableEq String)
  | .execute _ _ => inferInstanceAs (DecidableEq (Except PyError ToolExecutionResult))
  | .durationMs => inferInstanceAs (DecidableEq Int)
  | .frontend _ => inferInstanceAs (DecidableEq (List Dict))

/-- The loop's questions and their answers. -/
abbrev loopSignature : Signature := ⟨LoopOp, LoopOp.Answer⟩

/-- A program of the loop. -/
abbrev Loop := Program loopSignature PyError

def ask (op : LoopOp) : Loop op.Answer := .ask (S := loopSignature) op fun answer => .done answer

/-- `self._executor.execute(name, arguments)`. -/
def executeTool (toolName arguments : Json) : Loop ToolExecutionResult :=
  .ask (S := loopSignature) (.execute toolName arguments) Program.ofExcept

/-! ### The loop's own data -/

/-- The loop: its policy, and whether it has a backend executor. -/
structure ToolLoop where
  config : ToolLoopConfig
  hasExecutor : Bool

/-- Mutable internal state for a running loop iteration. -/
structure LoopState where
  messages : List Dict
  tools : List Dict
  loopIteration : Nat := 0
  usageTotals : Counts := []
  toolTrace : List ToolTraceEntry := []

def LoopState.trace (state : LoopState) (entry : ToolTraceEntry) : LoopState :=
  { state with toolTrace := state.toolTrace ++ [entry] }

def LoopState.say (state : LoopState) (message : Dict) : LoopState :=
  { state with messages := state.messages ++ [message] }

/-- `text[:limit]`. -/
def clip (limit : Nat) (text : String) : String := String.ofList (text.toList.take limit)

def textOrNull : Option String → Json
  | some text => .str text
  | none => .null

/-! ### Messages -/

/-- One entry of `tool_calls`. -/
def toolCallEntry (callId name arguments : Json) : Dict :=
  [("id", callId), ("type", .str "function"),
    ("function", .obj [("name", name), ("arguments", arguments)])]

def toolCallsMessage (entries : List Dict) : Dict :=
  [("role", .str "assistant"), ("content", .null), ("tool_calls", .arr (entries.map .obj))]

def toolMessage (callId content : Json) : Dict :=
  [("role", .str "tool"), ("tool_call_id", callId), ("content", content)]

def blockedMessage : Dict :=
  [("role", .str "assistant"), ("content", .str "All requested tools were blocked by policy.")]

/-! ### Sorting the calls of a response -/

/-- One tool call as the loop reads it. -/
structure ReadCall where
  callId : Json
  name : Json
  rawArgs : Json
  arguments : Json

/-- `json.loads` on a text, with no arguments where it is none. -/
def argumentsOf : Json → Json
  | .str text => (loads text).getD (.obj [])
  | value => value

/-- Name and arguments of a call, under `function` or beside it. -/
def calledFunction (tc : Dict) : Except PyError (Json × Json) := do
  let function ← asDict (Json.getD tc "function" (.obj []))
  return (Json.getD function "name" (Json.getD tc "name" (.str "")),
    Json.getD function "arguments" (Json.getD tc "arguments" (.str "\x7b\x7d")))

def readCall (tc : Dict) (token : String) : Except PyError ReadCall := do
  let (name, rawArgs) ← calledFunction tc
  return { callId := Json.getD tc "id" (.str ("call-" ++ token)), name, rawArgs
           arguments := argumentsOf rawArgs }

def ReadCall.pending (call : ReadCall) : PendingToolCall where
  callId := call.callId
  toolName := call.name
  arguments := call.arguments
  rawArguments :=
    match call.rawArgs with
    | .str text => text
    | value => value.dumps {}

def ReadCall.blocked (call : ReadCall) : ToolTraceEntry where
  callId := call.callId
  toolName := call.name
  arguments := call.arguments
  executor := .str "blocked"
  status := .str "failed"
  error := .str ("Tool '" ++ shown call.name ++ "' not allowed by policy")

/-- Where a call goes. -/
inductive Destination where
  | blocked
  | approval
  | backend
  | frontend
  deriving DecidableEq

def frontendTools : Finset String := {"file_read", "file_write", "list_directory", "shell_exec"}

def canExecuteBackend (name : Json) : Except PyError Bool := do
  return !(← isIn frontendTools name)

def ToolLoop.destination (loop : ToolLoop) (name : Json) : Except PyError Destination := do
  if !(← loop.config.isToolAllowed name) then return .blocked
  if ← loop.config.requiresApproval name then return .approval
  if loop.hasExecutor then
    if ← canExecuteBackend name then return .backend
  return .frontend

/-- The calls of a response, sorted, and the trace of the blocked ones. -/
structure SortedCalls where
  blocked : List ToolTraceEntry := []
  backend : List ReadCall := []
  frontend : List PendingToolCall := []
  approval : List PendingToolCall := []

def SortedCalls.add (sorted : SortedCalls) (call : ReadCall) : Destination → SortedCalls
  | .blocked => { sorted with blocked := sorted.blocked ++ [call.blocked] }
  | .approval => { sorted with approval := sorted.approval ++ [call.pending] }
  | .backend => { sorted with backend := sorted.backend ++ [call] }
  | .frontend => { sorted with frontend := sorted.frontend ++ [call.pending] }

/-- `for tc in response.tool_calls`. -/
def sortCalls (loop : ToolLoop) : List Dict → SortedCalls → Loop SortedCalls
  | [], sorted => return sorted
  | tc :: rest, sorted => do
    -- the default id is drawn whether it is needed or not
    let token ← ask .uuid4Hex
    let call ← Program.ofExcept (readCall tc token)
    let destination ← Program.ofExcept (loop.destination call.name)
    sortCalls loop rest (sorted.add call destination)

/-! ### Backend tools -/

def backendEntry (call : ReadCall) (result : ToolExecutionResult) (output : Json) (duration : Int) :
    ToolTraceEntry where
  callId := call.callId
  toolName := call.name
  arguments := call.arguments
  executor := .str "backend"
  status := .str (if result.succeeded then "completed" else "failed")
  output := output
  error := textOrNull result.error
  durationMs := .int duration

/-- Execute backend tools and return results (for combining with frontend). -/
def executeBackendBatch (loop : ToolLoop) : List ReadCall → LoopState → List Dict →
    Loop (List Dict × LoopState)
  | [], state, results => return (results, state)
  | call :: rest, state, results => do
    if loop.hasExecutor then
      let result ← executeTool call.name call.arguments
      let duration ← ask .durationMs
      let output := clip loop.config.maxOutputBytes result.output
      executeBackendBatch loop rest
        (state.trace (backendEntry call result (.str (clip 500 output)) duration))
        (results ++ [[("call_id", call.callId), ("tool_name", call.name), ("output", .str output),
          ("error", textOrNull result.error),
          ("status", .str (if result.succeeded then "success" else "error"))]])
    else
      executeBackendBatch loop rest state
        (results ++ [[("call_id", call.callId), ("tool_name", call.name), ("output", .null),
          ("error", .str "No backend executor configured"), ("status", .str "error")]])

/-- `result.error or "execution failed"`. -/
def failureText : Option String → String
  | none => "execution failed"
  | some error => if error = "" then "execution failed" else error

def executeInline (loop : ToolLoop) : List ReadCall → LoopState → Loop LoopState
  | [], state => return state
  | call :: rest, state => do
    if loop.hasExecutor then
      let result ← executeTool call.name call.arguments
      let duration ← ask .durationMs
      let output := clip loop.config.maxOutputBytes result.output
      let content := if result.succeeded then output else failureText result.error
      let shownOutput := if output = "" then .null else .str (clip 500 output)
      executeInline loop rest
        ((state.trace (backendEntry call result shownOutput duration)).say
          (toolMessage call.callId (.str content)))
    else
      let content := "Tool '" ++ shown call.name ++ "' has no backend executor."
      executeInline loop rest
        ((state.trace (backendEntry call { error := some content } .null 0)).say
          (toolMessage call.callId (.str content)))

/-- Execute backend tools and append results to messages for loop continuation. -/
def executeBackendBatchInline (loop : ToolLoop) (calls : List ReadCall) (state : LoopState) :
    Loop LoopState :=
  executeInline loop calls (state.say (toolCallsMessage
    (calls.map fun call => toolCallEntry call.callId call.name call.rawArgs)))

/-! ### Suspending -/

/-- The tool calls of the response as a continuation keeps them. -/
def rawCall (tc : Dict) : Except PyError Dict := do
  let (name, rawArgs) ← calledFunction tc
  return toolCallEntry (Json.getD tc "id" (.str "")) name rawArgs

/-- `sorted(tools)`. -/
def sortedNames (tools : Finset String) : List String :=
  Quot.liftOn tools.val (List.insertionSort (· ≤ ·)) fun first second same =>
    ((List.perm_insertionSort _ first).trans
      (same.trans (List.perm_insertionSort _ second).symm)).eq_of_sortedLE
        List.sortedLE_insertionSort List.sortedLE_insertionSort

def sortedTools (tools : Finset String) : Json := .arr ((sortedNames tools).map .str)

def ToolLoopConfig.snapshot (config : ToolLoopConfig) : Dict :=
  [("allowed_tools", sortedTools config.allowedTools),
    ("prohibited_tools", sortedTools config.prohibitedTools),
    ("mutation_allowed", .bool config.mutationAllowed),
    ("max_iterations", .int config.maxIterations),
    ("timeout_seconds", .float config.timeoutSeconds),
    ("max_output_bytes", .int config.maxOutputBytes),
    ("max_aggregate_bytes", .int config.maxAggregateBytes),
    ("provider_model", textOrNull config.providerModel),
    ("system_prompt", .str config.systemPrompt)]

def buildContinuation (loop : ToolLoop) (state : LoopState) (response : ProviderResponse) :
    Except PyError LoopContinuation := do
  let rawCalls ← response.toolCalls.mapM rawCall
  return { messages := state.messages
           pendingRawCalls := rawCalls
           loopIteration := state.loopIteration
           usageTotals := state.usageTotals
           toolTrace := state.toolTrace.map ToolTraceEntry.asDict
           configSnapshot := loop.config.snapshot }

/-- Process tool calls from the model response: an outcome where the loop has to suspend, else the
state it goes on with. -/
def handleToolCalls (loop : ToolLoop) (state : LoopState) (response : ProviderResponse)
    (usage : List UsageRecord) : Loop (ToolLoopOutcome ⊕ LoopState) := do
  let sorted ← sortCalls loop response.toolCalls {}
  let state := { state with toolTrace := state.toolTrace ++ sorted.blocked }
  match sorted.approval with
  | call :: _ => do
    let continuation ← Program.ofExcept (buildContinuation loop state response)
    return .inl (.suspendedForApproval call
      ("Tool '" ++ shown call.toolName ++ "' requires operator approval.")
      (if loop.config.mutationAllowed then "medium" else "low") continuation usage state.toolTrace)
  | [] =>
    if sorted.frontend ≠ [] then do
      -- the results of this batch stay in the outcome: no message carries them
      let (backendResults, state) ← executeBackendBatch loop sorted.backend state []
      let continuation ← Program.ofExcept (buildContinuation loop state response)
      return .inl (.suspendedForTool sorted.frontend continuation usage state.toolTrace
        backendResults)
    else if sorted.backend ≠ [] then do
      let state ← executeBackendBatchInline loop sorted.backend state
      return .inr state
    else return .inr (state.say blockedMessage)

/-! ### The loop -/

def recordUsage (loop : ToolLoop) (state : LoopState) (response : ProviderResponse)
    (usage : List UsageRecord) : Loop (LoopState × List UsageRecord) := do
  if response.usage = [] then return (state, usage)
  let timestamp ← ask .strftime
  let record : UsageRecord :=
    { provider := "openai_compatible"
      model := if response.model = "" then loop.config.providerModel.getD "" else response.model
      promptTokens := Counts.getD response.usage "prompt_tokens"
      completionTokens := Counts.getD response.usage "completion_tokens"
      totalTokens := Counts.getD response.usage "total_tokens"
      timestamp }
  let totals := ["prompt_tokens", "completion_tokens", "total_tokens"].foldl
    (fun totals key =>
      Counts.set totals key (Counts.getD totals key + Counts.getD response.usage key))
    state.usageTotals
  return ({ state with usageTotals := totals }, usage ++ [record])

/-- Internal loop execution, on the iterations that are left. -/
def executeLoop (loop : ToolLoop) (maxTokens : Int) : Nat → LoopState → List UsageRecord →
    Loop ToolLoopOutcome
  | 0, state, usage => return .failed "loop_limit_exceeded" usage state.toolTrace
  | left + 1, state, usage => do
    if ← ask .abortIsSet then return .failed "cancelled" usage state.toolTrace
    let elapsed ← ask .elapsed
    if loop.config.timeout < elapsed then return .failed "timeout" usage state.toolTrace
    let state := { state with loopIteration := state.loopIteration + 1 }
    match ← ask (.call state.messages state.tools loop.config.providerModel maxTokens
      (loop.config.timeout - elapsed)) with
    | .error exc => return .failed ("provider_error: " ++ exc) usage state.toolTrace
    | .ok response =>
      let (state, usage) ← recordUsage loop state response usage
      if response.toolCalls = [] then
        return .completed response.text usage state.toolTrace response.finishReason
      match ← handleToolCalls loop state response usage with
      | .inl outcome => return outcome
      | .inr state => executeLoop loop maxTokens left state usage

def execute (loop : ToolLoop) (state : LoopState) (maxTokens : Int) : Loop ToolLoopOutcome :=
  executeLoop loop maxTokens (loop.config.maxIterations - state.loopIteration) state []

def ToolLoop.run (loop : ToolLoop) (messages tools : List Dict) (maxTokens : Int) :
    Loop ToolLoopOutcome :=
  execute loop { messages, tools } maxTokens

/-- `value[:500]`. -/
def clipValue : Json → Except PyError Json
  | .str text => .ok (.str (clip 500 text))
  | .arr items => .ok (.arr (items.take 500))
  | _ => .error .typeError

/-- The content of a tool result: its output, else its error, else nothing. -/
def resultContent (result : Dict) : Json :=
  let output := Json.getD result "output" .null
  let error := Json.getD result "error" .null
  if output.truthy then output else if error.truthy then error else .str ""

def appendResult (state : LoopState) (result : Dict) : Except PyError LoopState := do
  let callId ←
    match Json.get? result "call_id" with
    | some callId => pure callId
    | none => throw .keyError
  let output := Json.getD result "output" .null
  let shownOutput ← clipValue (if output.truthy then output else .str "")
  return (state.say (toolMessage callId (resultContent result))).trace
    { callId
      toolName := Json.getD result "tool_name" (.str "")
      arguments := .obj []
      executor := .str "frontend"
      status := .str
        (if Json.getD result "status" .null == .str "success" then "completed" else "failed")
      output := shownOutput
      error := Json.getD result "error" .null }

/-- The state that a continuation and the tool results make. -/
def resumedState (continuation : LoopContinuation) (toolResults : List Dict) :
    Except PyError LoopState := do
  let toolTrace ← continuation.toolTrace.mapM ToolTraceEntry.ofDict
  let state : LoopState :=
    { messages := continuation.messages
      tools := []
      loopIteration := continuation.loopIteration
      usageTotals := continuation.usageTotals
      toolTrace }
  let state := if continuation.pendingRawCalls = [] then state
    else state.say (toolCallsMessage continuation.pendingRawCalls)
  toolResults.foldlM appendResult state

def ToolLoop.resume (loop : ToolLoop) (continuation : LoopContinuation) (toolResults : List Dict)
    (maxTokens : Int) : Loop ToolLoopOutcome := do
  let state ← Program.ofExcept (resumedState continuation toolResults)
  execute loop state maxTokens

/-! ### A scripted world -/

def LoopOp.isCall : LoopOp → Bool
  | .call _ _ _ _ _ => true
  | _ => false

/-- A frontend that finds every file, an operator that agrees, a clock that stands still, and a
provider that gives one response after another. -/
def scripted (responses : List ProviderResponse) : Script loopSignature := fun log op =>
  match op with
  | .abortIsSet => false
  | .elapsed => 0
  | .call _ _ _ _ _ => .ok (responses.getD (log.countP fun event => event.op.isCall) {})
  | .strftime => "2026-01-01T00:00:00Z"
  | .uuid4Hex => "00000000"
  | .execute _ _ => .ok { output := "scan result" }
  | .durationMs => 0
  | .frontend pendingCalls => pendingCalls.map fun call =>
      [("call_id", call.callId), ("tool_name", call.toolName), ("output", .str "file text"),
        ("error", .null), ("status", .str "success")]
  | .operator _ => true

/-- A call of a tool on the path `/src`. -/
def pathCall (callId name : String) : Dict :=
  toolCallEntry (.str callId) (.str name) (.str "\x7b\"path\": \"/src\"\x7d")

/-- The loop of the execution adapter, with a backend executor. -/
def executionLoop : ToolLoop where
  config :=
    { allowedTools := {"file_read", "list_directory", "shell_exec", "audisor_scan"}
      prohibitedTools := {"file_write"}
      mutationAllowed := true
      approvalRequiredTools := {"shell_exec"} }
  hasExecutor := true

end Audisor.Tooling
