/-
**Whoever drives the loop, and the execution adapter on it.**

* `converse` — each tool suspension is answered by the frontend and resumed; each approval suspension is
  put to the operator, joined to the continuation as the controller does it, answered by the frontend,
  and resumed. `conversation` — a run, and the answers to its suspensions.
* `Answers` — the tool results answer exactly what is pending.
* **`converse_eq`** — the texts that carry the continuations change nothing.
* `LLMExecutionAdapter` — whether it has a backend executor, and its tool definitions.
* `LLMExecutionAdapter.execute` — a run of the loop on the prompt with the plan;
  `LLMExecutionAdapter.resumeExecution` — a resumption from the continuation that the record
  carries.
* `interpretOutcome` — the outcome of the loop as the result that the controller reads.
* **`resumeExecution_serialized`** — a resumption from a stored continuation is one of the loop.

The tool results of a resume input are read as dictionaries before any of them is used.
-/

import Audisor.Tooling.Loop
import Audisor.Json.Order

namespace Audisor.Tooling

open Interaction Json Controller

/-! ### Driving the loop -/

/-- The continuation after an operator's approval, as the controller stores and the adapter reads it. -/
def approved (continuation : LoopContinuation) (toolCall : PendingToolCall) :
    Except PyError LoopContinuation := do
  match ← approvedContinuation { continuation := some (.str continuation.serialize) }
    (approvedCall toolCall.asDict .null) with
  | some (.str stored) => LoopContinuation.deserialize stored
  | _ => throw .typeError

/-- Answer the suspensions of a loop, a number of times at most. -/
def converse (loop : ToolLoop) (maxTokens : Int) : Nat → ToolLoopOutcome → Loop ToolLoopOutcome
  | left + 1, .suspendedForTool pendingCalls continuation _ _ _ => do
    let toolResults ← ask (.frontend pendingCalls)
    let continuation ← Program.ofExcept (LoopContinuation.deserialize continuation.serialize)
    let outcome ← loop.resume continuation toolResults maxTokens
    converse loop maxTokens left outcome
  | left + 1, .suspendedForApproval toolCall reason riskLevel continuation usage toolTrace => do
    if ← ask (.operator toolCall) then
      let continuation ← Program.ofExcept (approved continuation toolCall)
      let toolResults ← ask (.frontend [toolCall])
      let outcome ← loop.resume continuation toolResults maxTokens
      converse loop maxTokens left outcome
    else return .suspendedForApproval toolCall reason riskLevel continuation usage toolTrace
  | _, outcome => return outcome

/-- A run of the loop, and the answers to its suspensions. -/
def conversation (loop : ToolLoop) (messages tools : List Dict) (maxTokens : Int) (left : Nat) :
    Loop ToolLoopOutcome := do
  let outcome ← loop.run messages tools maxTokens
  converse loop maxTokens left outcome

/-! ### What the frontend answers -/

def Answers (pendingCalls : List PendingToolCall) (toolResults : List Dict) : Prop :=
  (toolResults.map fun result => Json.get? result "call_id").Perm
    ((pendingCalls.map PendingToolCall.callId).map some)

/-- The frontend answers exactly what is pending; anything else may answer anything. -/
def answering (_ : List (Event loopSignature)) : (op : LoopOp) → op.Answer → Prop
  | .frontend pendingCalls, toolResults => Answers pendingCalls toolResults
  | _, _ => True

/-! ### The last response -/

/-- The last response of a provider, and the identifiers drawn since. -/
abbrev LastResponse := Option (ProviderResponse × List String)

def advance (last : LastResponse) : (op : LoopOp) → op.Answer → LastResponse
  | .call _ _ _ _ _, .ok response => some (response, [])
  | .call _ _ _ _ _, .error _ => none
  | .uuid4Hex, token => last.map fun exchange => (exchange.1, exchange.2 ++ [token])
  | _, _ => last

def lastResponse : List (Event loopSignature) → LastResponse
  | [] => none
  | event :: older => advance (lastResponse older) event.op event.answer

/-! ### The texts in between -/

theorem LoopContinuation.get?_messages (continuation : LoopContinuation) :
    Json.get? continuation.asDict "messages" = some (.arr (continuation.messages.map .obj)) := by
  simp [asDict]

theorem LoopContinuation.serialize_truthy (continuation : LoopContinuation) :
    (Json.str continuation.serialize).truthy = true := by
  simp [Json.truthy, serialize, dumps, render, String.ext_iff]

theorem LoopContinuation.loads_serialize (continuation : LoopContinuation) :
    loads continuation.serialize = some (.obj continuation.asDict) := loads_dumps _ _

/-- The messages of an approved call: asked, and answered once. -/
def approvedMessages (toolCall : PendingToolCall) : List Dict :=
  [toolCallsMessage [toolCallEntry toolCall.callId toolCall.toolName
      (.str (toolCall.arguments.dumps {}))],
    toolMessage toolCall.callId (.str "approved")]

def LoopContinuation.withApproval (continuation : LoopContinuation) (toolCall : PendingToolCall) :
    LoopContinuation :=
  { continuation with
    messages := continuation.messages ++ approvedMessages toolCall
    pendingRawCalls := [] }

theorem integrateApproval_eq (continuation : LoopContinuation) (toolCall : PendingToolCall) :
    integrateApproval (.obj continuation.asDict) (approvedCall toolCall.asDict .null) =
      .ok (.obj (continuation.withApproval toolCall).asDict) := by
  have messages : continuation.messages.map Json.obj ++
      [approvedCallMessage (approvedCall toolCall.asDict .null),
        approvedResultMessage (approvedCall toolCall.asDict .null)] =
      (continuation.messages ++ approvedMessages toolCall).map .obj := by
    simp [approvedMessages, approvedCallMessage, approvedResultMessage, approvedCall,
      PendingToolCall.asDict, getD, toolCallsMessage, toolCallEntry, toolMessage]
  simp only [integrateApproval, LoopContinuation.get?_messages, messages]
  simp [LoopContinuation.asDict, LoopContinuation.withApproval, Json.set, hasKey]

/-- **An approved call joins the continuation**, whatever text carries it. -/
theorem approved_eq (continuation : LoopContinuation) (toolCall : PendingToolCall) :
    approved continuation toolCall = .ok (continuation.withApproval toolCall) := by
  have stored : approvedContinuation { continuation := some (.str continuation.serialize) }
      (approvedCall toolCall.asDict .null) =
      .ok (some (.str ((Json.obj (continuation.withApproval toolCall).asDict).dumps {}))) := by
    simp only [approvedContinuation, continuation.serialize_truthy, if_true, loadsValue,
      continuation.loads_serialize, bind, Except.bind, integrateApproval_eq]
  simp only [approved, stored, bind, Except.bind, LoopContinuation.deserialize, loads_dumps,
    LoopContinuation.ofDict_asDict]

/-- Answering the suspensions with the continuations at hand, and no text in between. -/
def converseDirectly (loop : ToolLoop) (maxTokens : Int) : Nat → ToolLoopOutcome →
    Loop ToolLoopOutcome
  | left + 1, .suspendedForTool pendingCalls continuation _ _ _ => do
    let toolResults ← ask (.frontend pendingCalls)
    let outcome ← loop.resume continuation toolResults maxTokens
    converseDirectly loop maxTokens left outcome
  | left + 1, .suspendedForApproval toolCall reason riskLevel continuation usage toolTrace => do
    if ← ask (.operator toolCall) then
      let toolResults ← ask (.frontend [toolCall])
      let outcome ← loop.resume (continuation.withApproval toolCall) toolResults maxTokens
      converseDirectly loop maxTokens left outcome
    else return .suspendedForApproval toolCall reason riskLevel continuation usage toolTrace
  | _, outcome => return outcome

/-- **The text between the calls changes nothing.** -/
theorem converse_eq (loop : ToolLoop) (maxTokens : Int) (left : Nat) (outcome : ToolLoopOutcome) :
    converse loop maxTokens left outcome = converseDirectly loop maxTokens left outcome := by
  induction left generalizing outcome with
  | zero => cases outcome <;> rfl
  | succ left ih =>
    cases outcome with
    | suspendedForTool pendingCalls continuation usage toolTrace results =>
      simp only [converse, converseDirectly, LoopContinuation.deserialize_serialize,
        Program.ofExcept_ok, Program.done_bind, ih]
    | suspendedForApproval toolCall reason riskLevel continuation usage toolTrace =>
      simp only [converse, converseDirectly, approved_eq, Program.ofExcept_ok, Program.done_bind, ih]
    | _ => rfl

/-! ### Policy and prompts -/

/-- Tools available during execution (`file_write` is prohibited). -/
def executionTools : Finset String := {"file_read", "list_directory", "shell_exec", "audisor_scan"}

/-- Tools explicitly prohibited — model requests are rejected by policy. -/
def executionProhibitedTools : Finset String := {"file_write"}

/-- Tools that require operator approval before execution. -/
def executionApprovalRequiredTools : Finset String := {"shell_exec"}

def executionSystemPrompt : String :=
  "You are a coding assistant executing an approved implementation plan. " ++
  "You have access to tools that can read and write files, and run commands. " ++
  "Follow the plan precisely. Report your progress and any issues encountered.\n\n" ++
  "After completing all steps, summarize what was done.\n"

def executionConfig : ToolLoopConfig where
  allowedTools := executionTools
  prohibitedTools := executionProhibitedTools
  mutationAllowed := true
  approvalRequiredTools := executionApprovalRequiredTools
  maxIterations := 15
  timeoutSeconds := ⟨"300.0".toList, Eq.refl true⟩
  systemPrompt := executionSystemPrompt

/-- `json.dumps(plan, indent=2)`: only strings have characters outside ASCII. -/
def dumpsReadable (plan : Json) : String :=
  String.ofList ((renderAt 0 (settled plan)).flatMap fun c =>
    if 0x7e < c.toNat then unicodeEscape c.toNat else [c])

def planText : Json → String
  | .obj fields => dumpsReadable (.obj fields)
  | plan => shown plan

def executionPrompt (plan : Json) : String :=
  "Execute the following implementation plan:\n\n" ++
  "\x60\x60\x60json\n" ++ planText plan ++ "\n\x60\x60\x60\n\n" ++
  "Implement each step in order. Use the available tools to read and modify files."

def executionMessages (plan : Json) : List Dict :=
  [[("role", .str "system"), ("content", .str executionSystemPrompt)],
    [("role", .str "user"), ("content", .str (executionPrompt plan))]]

/-! ### Tool schemas -/

def toolSchema (toolDef : Dict) : Dict :=
  [("type", .str "function"),
    ("function", .obj
      [("name", getD toolDef "name" (.str "")),
        ("description", getD toolDef "description" (.str "")),
        ("parameters", getD toolDef "parameters" (.obj []))])]

def buildToolSchemas (config : ToolLoopConfig) : List Dict → Except PyError (List Dict)
  | [] => .ok []
  | toolDef :: rest => do
    let allowed ← config.isToolAllowed (getD toolDef "name" (.str ""))
    let schemas ← buildToolSchemas config rest
    return if allowed then toolSchema toolDef :: schemas else schemas

/-! ### The adapter -/

/-- The execution adapter. -/
structure LLMExecutionAdapter where
  hasExecutor : Bool
  toolDefinitions : List Dict := []

def LLMExecutionAdapter.loop (adapter : LLMExecutionAdapter) : ToolLoop where
  config := executionConfig
  hasExecutor := adapter.hasExecutor

/-- One entry of the usage that a completed execution reports. -/
def UsageRecord.counters (record : UsageRecord) : Dict :=
  [("prompt_tokens", .int record.promptTokens), ("completion_tokens", .int record.completionTokens),
    ("total_tokens", .int record.totalTokens)]

/-- Convert the outcome of the loop to the adapter's result. -/
def interpretOutcome : ToolLoopOutcome → Loop Dict
  | .completed reply usage _ _ =>
    return [("status", .str "completed"), ("output", .str reply),
      ("usage", .arr (usage.map fun record => .obj record.counters))]
  | .failed error _ _ => return [("status", .str "failed"), ("error", .str error)]
  | .suspendedForTool pendingCalls continuation _ _ _ => do
    let token ← ask .uuid4Hex
    return [("status", .str "suspended"), ("suspend_state", .str "suspended_for_tool_result"),
      ("reason", .str "execution_tool_execution"), ("suspension_id", .str ("susp-" ++ token)),
      ("pending_calls", .arr (pendingCalls.map fun call => .obj call.asDict)),
      ("continuation", .str continuation.serialize)]
  | .suspendedForApproval toolCall reason riskLevel continuation _ _ => do
    let token ← ask .uuid4Hex
    return [("status", .str "suspended"), ("suspend_state", .str "suspended_for_approval"),
      ("reason", .str reason), ("risk_level", .str riskLevel),
      ("suspension_id", .str ("susp-" ++ token)), ("tool_call", .obj toolCall.asDict),
      ("continuation", .str continuation.serialize)]

def LLMExecutionAdapter.execute (adapter : LLMExecutionAdapter) (plan : Json) : Loop Dict := do
  let tools ← Program.ofExcept (buildToolSchemas executionConfig adapter.toolDefinitions)
  let outcome ← adapter.loop.run (executionMessages plan) tools 2048
  interpretOutcome outcome

/-- `LoopContinuation.deserialize` on whatever the record carries. -/
def deserializeValue : Json → Except PyError LoopContinuation
  | .str text => LoopContinuation.deserialize text
  | _ => .error .typeError

def toolResultsOf (resumeInput : Dict) : Except PyError (List Dict) := do
  let items ← iterate (getD resumeInput "tool_results" (.arr []))
  items.mapM asDict

def LLMExecutionAdapter.resumeExecution (adapter : LLMExecutionAdapter) (artifacts : Artifacts)
    (resumeInput : Dict) : Loop Dict := do
  let stored := artifacts.continuation.getD .null
  if stored.truthy then do
    let continuation ← Program.ofExcept (deserializeValue stored)
    let toolResults ← Program.ofExcept (toolResultsOf resumeInput)
    let outcome ← adapter.loop.resume continuation toolResults 2048
    interpretOutcome outcome
  else return [("status", .str "failed"), ("error", .str "no continuation data found")]

/-- **A resumption from a stored continuation is one of the loop.** -/
theorem LLMExecutionAdapter.resumeExecution_serialized (adapter : LLMExecutionAdapter)
    (continuation : LoopContinuation) (resumeInput : Dict) :
    adapter.resumeExecution { continuation := some (.str continuation.serialize) } resumeInput =
      Program.ofExcept (toolResultsOf resumeInput) >>= fun toolResults =>
        adapter.loop.resume continuation toolResults 2048 >>= interpretOutcome := by
  simp only [resumeExecution, Option.getD_some, continuation.serialize_truthy, if_true,
    deserializeValue, LoopContinuation.deserialize_serialize, Program.ofExcept_ok,
    Program.done_bind]

end Audisor.Tooling
