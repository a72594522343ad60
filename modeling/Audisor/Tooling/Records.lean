/-
**The records of the tool loop.**

* `ToolLoopConfig` — the policy of one loop, with `isToolAllowed` and `requiresApproval`. A name is
  whatever the model sent: a list or an object cannot be looked up in a set.
* `LoopContinuation` — the state that outlives a suspension; `serialize` and `deserialize`.
* `ToolLoopOutcome` — how a call of the loop ends.
* **`deserialize_serialize`** — a continuation survives its own text.

A time-out is a float literal. `deserialize` also refuses fields that are not of the record's types.
-/

import Audisor.Controller.EntryPoints
import Audisor.Json.RoundTrip
import Mathlib.Algebra.Order.Ring.Rat
import Mathlib.Data.Finset.SDiff
import Mathlib.Data.List.Sort
import Mathlib.Data.String.Basic

namespace Audisor.Tooling

open Interaction Json Controller

/-! ### Configuration -/

/-- Policy governing a single loop execution. -/
structure ToolLoopConfig where
  allowedTools : Finset String
  prohibitedTools : Finset String := ∅
  mutationAllowed : Bool := false
  approvalRequiredTools : Finset String := ∅
  maxIterations : Nat := 15
  timeoutSeconds : FloatLit := ⟨"300.0".toList, by decide⟩
  maxOutputBytes : Nat := 100000
  maxAggregateBytes : Nat := 500000
  providerModel : Option String := none
  systemPrompt : String := ""

/-- `name in tools`. -/
def isIn (tools : Finset String) : Json → Except PyError Bool
  | .str name => .ok (name ∈ tools)
  | .arr _ | .obj _ => .error .typeError
  | _ => .ok false

namespace ToolLoopConfig

variable (config : ToolLoopConfig)

def isToolAllowed (name : Json) : Except PyError Bool := do
  if ← isIn config.prohibitedTools name then return false
  isIn config.allowedTools name

def requiresApproval (name : Json) : Except PyError Bool := isIn config.approvalRequiredTools name

def timeout : Rat := config.timeoutSeconds.scaled.1 * (10 : Rat) ^ config.timeoutSeconds.scaled.2

end ToolLoopConfig

/-! ### Records -/

/-- Token usage from a single provider call. -/
structure UsageRecord where
  provider : String
  model : String
  promptTokens : Int
  completionTokens : Int
  totalTokens : Int
  timestamp : String
  deriving DecidableEq

/-- A `dict` of counters. -/
abbrev Counts := List (String × Int)

/-- `counts.get(key, 0)`. -/
def Counts.getD (counts : Counts) (key : String) : Int := (counts.lookup key).getD 0

/-- `counts[key] = value`. -/
def Counts.set (counts : Counts) (key : String) (value : Int) : Counts :=
  if (counts.lookup key).isSome then
    counts.map fun count => if count.1 = key then (key, value) else count
  else counts ++ [(key, value)]

/-- Record of a single tool invocation. -/
structure ToolTraceEntry where
  callId : Json
  toolName : Json
  arguments : Json
  executor : Json
  status : Json
  output : Json := .null
  error : Json := .null
  durationMs : Json := .null
  deriving DecidableEq

/-- `asdict(entry)`. -/
def ToolTraceEntry.asDict (entry : ToolTraceEntry) : Dict :=
  [("call_id", entry.callId), ("tool_name", entry.toolName), ("arguments", entry.arguments),
    ("executor", entry.executor), ("status", entry.status), ("output", entry.output),
    ("error", entry.error), ("duration_ms", entry.durationMs)]

def onlyFields (fields : List String) (raw : Dict) : Bool := raw.all fun field => field.1 ∈ fields

/-- `ToolTraceEntry(**raw)`. -/
def ToolTraceEntry.ofDict (raw : Dict) : Except PyError ToolTraceEntry :=
  if onlyFields ["call_id", "tool_name", "arguments", "executor", "status", "output", "error",
      "duration_ms"] raw then
    match get? raw "call_id", get? raw "tool_name", get? raw "arguments", get? raw "executor",
        get? raw "status" with
    | some callId, some toolName, some arguments, some executor, some status =>
      .ok { callId, toolName, arguments, executor, status
            output := getD raw "output" .null
            error := getD raw "error" .null
            durationMs := getD raw "duration_ms" .null }
    | _, _, _, _, _ => .error .typeError
  else .error .typeError

@[simp] theorem ToolTraceEntry.ofDict_asDict (entry : ToolTraceEntry) :
    ToolTraceEntry.ofDict entry.asDict = .ok entry := by
  simp [ofDict, asDict, onlyFields, getD]

/-- A tool call awaiting frontend execution or approval. -/
structure PendingToolCall where
  callId : Json
  toolName : Json
  arguments : Json
  rawArguments : String
  deriving DecidableEq

def PendingToolCall.asDict (call : PendingToolCall) : Dict :=
  [("call_id", call.callId), ("tool_name", call.toolName), ("arguments", call.arguments)]

/-- Serializable state needed to resume a suspended loop. -/
structure LoopContinuation where
  messages : List Dict
  pendingRawCalls : List Dict
  loopIteration : Nat
  usageTotals : Counts
  toolTrace : List Dict
  configSnapshot : Dict
  version : Int := 1
  deriving DecidableEq

/-! ### Continuations as text -/

def dictsOf : Json → Option (List Dict)
  | .arr items => items.mapM fun item =>
      match item with
      | .obj fields => some fields
      | _ => none
  | _ => none

def natOf : Json → Option Nat
  | .int (.ofNat n) => some n
  | _ => none

def intOf : Json → Option Int
  | .int n => some n
  | _ => none

def countsOf : Json → Option Counts
  | .obj fields => fields.mapM fun field => (intOf field.2).map fun n => (field.1, n)
  | _ => none

def dictOf : Json → Option Dict
  | .obj fields => some fields
  | _ => none

namespace LoopContinuation

/-- `asdict(self)`. -/
def asDict (continuation : LoopContinuation) : Dict :=
  [("messages", .arr (continuation.messages.map .obj)),
    ("pending_raw_calls", .arr (continuation.pendingRawCalls.map .obj)),
    ("loop_iteration", .int continuation.loopIteration),
    ("usage_totals", .obj (continuation.usageTotals.map fun count => (count.1, .int count.2))),
    ("tool_trace", .arr (continuation.toolTrace.map .obj)),
    ("config_snapshot", .obj continuation.configSnapshot),
    ("version", .int continuation.version)]

def serialize (continuation : LoopContinuation) : String :=
  (Json.obj continuation.asDict).dumps { ensureAscii := false }

/-- `cls(**raw)`. -/
def ofDict (raw : Dict) : Option LoopContinuation := do
  guard (onlyFields ["messages", "pending_raw_calls", "loop_iteration", "usage_totals",
    "tool_trace", "config_snapshot", "version"] raw)
  let messages ← (get? raw "messages").bind dictsOf
  let pendingRawCalls ← (get? raw "pending_raw_calls").bind dictsOf
  let loopIteration ← (get? raw "loop_iteration").bind natOf
  let usageTotals ← (get? raw "usage_totals").bind countsOf
  let toolTrace ← (get? raw "tool_trace").bind dictsOf
  let configSnapshot ← (get? raw "config_snapshot").bind dictOf
  let version ← intOf (getD raw "version" (.int 1))
  return { messages, pendingRawCalls, loopIteration, usageTotals, toolTrace, configSnapshot,
           version }

def deserialize (data : String) : Except PyError LoopContinuation :=
  match loads data with
  | some (.obj raw) =>
    match ofDict raw with
    | some continuation => .ok continuation
    | none => .error .typeError
  | some _ => .error .typeError
  | none => .error .jsonDecodeError

end LoopContinuation

@[simp] theorem natOf_int (n : Nat) : natOf (.int n) = some n := rfl

@[simp] theorem intOf_int (n : Int) : intOf (.int n) = some n := rfl

@[simp] theorem dictsOf_map_obj (dicts : List Dict) :
    dictsOf (.arr (dicts.map .obj)) = some dicts := by
  induction dicts with
  | nil => rfl
  | cons fields rest ih =>
    simp only [dictsOf] at ih ⊢
    simp [List.map_cons, List.mapM_cons, ih]

@[simp] theorem countsOf_map_int (counts : Counts) :
    countsOf (.obj (counts.map fun count => (count.1, .int count.2))) = some counts := by
  induction counts with
  | nil => rfl
  | cons count rest ih =>
    simp only [countsOf] at ih ⊢
    simp [List.map_cons, List.mapM_cons, ih]

@[simp] theorem LoopContinuation.ofDict_asDict (continuation : LoopContinuation) :
    LoopContinuation.ofDict continuation.asDict = some continuation := by
  simp [ofDict, asDict, onlyFields, getD, dictOf]

/-- **A continuation survives its text.** -/
@[simp] theorem LoopContinuation.deserialize_serialize (continuation : LoopContinuation) :
    LoopContinuation.deserialize continuation.serialize = .ok continuation := by
  simp only [deserialize, serialize, loads_dumps, ofDict_asDict]

/-! ### Outcomes -/

/-- How a call of the loop ends. -/
inductive ToolLoopOutcome where
  | completed (reply : String) (usage : List UsageRecord) (toolTrace : List ToolTraceEntry)
      (finishReason : String)
  | failed (error : String) (usage : List UsageRecord) (toolTrace : List ToolTraceEntry)
  | suspendedForTool (pendingCalls : List PendingToolCall) (continuation : LoopContinuation)
      (usage : List UsageRecord) (toolTrace : List ToolTraceEntry) (backendResults : List Dict)
  | suspendedForApproval (toolCall : PendingToolCall) (reason riskLevel : String)
      (continuation : LoopContinuation) (usage : List UsageRecord)
      (toolTrace : List ToolTraceEntry)
  deriving DecidableEq

/-- Normalized response from a provider call. -/
structure ProviderResponse where
  text : String := ""
  toolCalls : List Dict := []
  usage : Counts := []
  model : String := ""
  finishReason : String := "stop"
  deriving DecidableEq

/-- Result of executing a backend tool. -/
structure ToolExecutionResult where
  output : String := ""
  error : Option String := none
  deriving DecidableEq

def ToolExecutionResult.succeeded (result : ToolExecutionResult) : Bool := result.error.isNone

end Audisor.Tooling
