/-
**The event log of an operation: one JSONL file, written by `append` and read by `read_after`.**

* `OperationEvent` — an event, `asdict(event)` and `OperationEvent(**data)`; the dataclass does not
  check the types of its fields, so a field read back is whatever JSON value stands there.
* `EventStore` — the files, as bytes, and the sequence counters that the process keeps.
* `append`, `readRaw`, `readAfter`, `latestSequence`, `exists` — the methods.
* `appendCut` — an append that the process does not survive: some of the bytes are written.

An operation id is one file name here. The file is opened in text mode, on a system whose line
separator is `\n`.
-/

import Audisor.Json.RoundTrip
import Audisor.Text.Lines

namespace Audisor.Events

open Json Text

/-! ### Events -/

/-- What `datetime.now(timezone.utc).isoformat()` answers. -/
structure Timestamp where
  text : String
  valid : ∀ c ∈ text.toList, c.isDigit = true ∨ c ∈ ['-', ':', '.', '+', 'T']

/-- Single persisted event in an operation's lifecycle. -/
structure OperationEvent where
  sequence : Json
  operationId : Json
  timestamp : Json
  state : Json
  eventType : Json
  payload : Json := .obj []
  correlationId : Json := .null
  deriving DecidableEq

namespace OperationEvent

def fieldNames : List String :=
  ["sequence", "operation_id", "timestamp", "state", "event_type", "payload", "correlation_id"]

/-- `asdict(event)`. -/
def asDict (event : OperationEvent) : Dict :=
  [("sequence", event.sequence), ("operation_id", event.operationId),
    ("timestamp", event.timestamp), ("state", event.state), ("event_type", event.eventType),
    ("payload", event.payload), ("correlation_id", event.correlationId)]

/-- `OperationEvent(**data)`; `none` is a `TypeError`. -/
def ofDict (data : Dict) : Option OperationEvent :=
  if data.all fun field => field.1 ∈ fieldNames then
    match get? data "sequence", get? data "operation_id", get? data "timestamp", get? data "state",
        get? data "event_type" with
    | some sequence, some operationId, some timestamp, some state, some eventType =>
      some { sequence, operationId, timestamp, state, eventType
             payload := getD data "payload" (.obj [])
             correlationId := getD data "correlation_id" .null }
    | _, _, _, _, _ => none
  else none

@[simp] theorem ofDict_asDict (event : OperationEvent) : ofDict event.asDict = some event := by
  simp [ofDict, asDict, fieldNames, getD]

/-- `json.dumps(asdict(event), ensure_ascii=False)`. -/
def text (event : OperationEvent) : List Char := render { ensureAscii := false } (.obj event.asDict)

def line (event : OperationEvent) : List Char := event.text ++ ['\n']

end OperationEvent

/-! ### Reading a file -/

/-- What a method of the store can raise. -/
inductive StoreError where
  | unicodeDecodeError
  | typeError
  deriving DecidableEq, Repr

/-- One line of the file; incomplete and corrupt lines are skipped. -/
def readLine (line : List Char) : Option OperationEvent :=
  let line := strip line
  if line.isEmpty then none
  else
    match loads (String.ofList line) with
    | some (.obj data) => OperationEvent.ofDict data
    | _ => none

def readText (text : List Char) : List OperationEvent :=
  (splitlines (universalNewlines text)).filterMap readLine

/-- `filtered[:limit]`. -/
def slice {α : Type} (items : List α) (limit : Int) : List α :=
  if limit < 0 then items.take (items.length - limit.natAbs) else items.take limit.toNat

/-- `event.sequence > after`: only a number compares with an integer. -/
def isAfter (after : Int) (sequence : Json) : Except StoreError Bool :=
  match sequence.number? with
  | some (mantissa, exponent) =>
    .ok (after * 10 ^ (-exponent).toNat < mantissa * 10 ^ exponent.toNat)
  | none => .error .typeError

def filterAfter (after : Int) : List OperationEvent → Except StoreError (List OperationEvent)
  | [] => .ok []
  | event :: rest => do
    let behind ← isAfter after event.sequence
    let others ← filterAfter after rest
    return if behind then event :: others else others

/-- `sequence + 1`; a sequence with a fraction, which no append writes, is refused here. -/
def successor : Json → Except StoreError Int
  | .int n => .ok (n + 1)
  | .bool value => .ok (if value then 2 else 1)
  | _ => .error .typeError

/-! ### The store -/

/-- The directory of the event files, and the counters of the process. -/
structure EventStore where
  files : String → Option ByteArray
  sequences : String → Option Int

/-- The arguments of one call of `append`, and the clock at that moment. -/
structure Append where
  operationId : String
  state : String
  eventType : String
  payload : Option Dict := none
  correlationId : Option String := none
  timestamp : Timestamp

/-- The event that a call persists: `payload=payload or {}`. -/
def Append.event (call : Append) (sequence : Int) : OperationEvent :=
  { sequence := .int sequence
    operationId := .str call.operationId
    timestamp := .str call.timestamp.text
    state := .str call.state
    eventType := .str call.eventType
    payload := .obj (call.payload.getD [])
    correlationId := call.correlationId.elim .null .str }

namespace EventStore

/-- An empty directory, and a process that has read nothing. -/
def empty : EventStore := ⟨fun _ => none, fun _ => none⟩

/-- A new `EventStore` over the same directory. -/
def reopen (store : EventStore) : EventStore := { store with sequences := fun _ => none }

variable (store : EventStore) (operationId : String)

def readRaw : Except StoreError (List OperationEvent) :=
  match store.files operationId with
  | none => .ok []
  | some bytes =>
    match decode bytes with
    | none => .error .unicodeDecodeError
    | some text => .ok (readText text)

/-- Return and increment the sequence counter for an operation. -/
def nextSequence : Except StoreError (Int × EventStore) := do
  let sequence ← match store.sequences operationId with
    | some sequence => pure sequence
    | none =>
      match (← store.readRaw operationId).getLast? with
      | some event => successor event.sequence
      | none => pure 1
  return (sequence, { store with
    sequences := Function.update store.sequences operationId (some (sequence + 1)) })

/-- `open(path, "a")` and `f.write(..)`. -/
def write (bytes : ByteArray) : EventStore :=
  { store with
    files := Function.update store.files operationId
      (some ((store.files operationId).getD ByteArray.empty ++ bytes)) }

def append (call : Append) : Except StoreError (OperationEvent × EventStore) := do
  let (sequence, store) ← store.nextSequence call.operationId
  let event := call.event sequence
  return (event, store.write call.operationId (encode event.line))

/-- An append that is cut off after some bytes, and a new process. -/
def appendCut (call : Append) (cut : Nat) : Except StoreError (OperationEvent × EventStore) := do
  let (sequence, store) ← store.nextSequence call.operationId
  let event := call.event sequence
  return (event, (store.write call.operationId ((encode event.line).extract 0 cut)).reopen)

def readAfter (after : Int := 0) (limit : Int := 50) : Except StoreError (List OperationEvent) := do
  let filtered ← filterAfter after (← store.readRaw operationId)
  return slice filtered limit

def «exists» : Bool := (store.files operationId).isSome

end EventStore

/-! ### Runs -/

/-- What a client does: it appends, or it opens the directory anew. -/
inductive Step where
  | append (call : Append)
  | reopen

/-- A sequence of steps: the events that were persisted, and the store in the end. -/
def run : EventStore → List Step → Except StoreError (List OperationEvent × EventStore)
  | store, [] => .ok ([], store)
  | store, .append call :: rest => do
    let (event, store) ← store.append call
    let (events, store) ← run store rest
    return (event :: events, store)
  | store, .reopen :: rest => run store.reopen rest

def eventsOf (operationId : String) (events : List OperationEvent) : List OperationEvent :=
  events.filter fun event => event.operationId = .str operationId

end Audisor.Events
