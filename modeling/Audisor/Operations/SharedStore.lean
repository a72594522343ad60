/-
**The shared store of operations.**

* `SharedRecord`, `SharedFile` — the record of an operation, and what its file is: a file that is being
  written is torn.
* `SharedOp` — the file steps of a call, and the lock of an instance.
* `SharedOperationStore.bind`, `load`, `persistResponse`, `claimContinuation` — the calls, step by step.
* `sharedEnvironment` — what the files and the locks answer.
-/

import Audisor.Interaction.Shared
import Audisor.Operations.Store

namespace Audisor.Operations

open Interaction Json

/-! ### Records -/

/-- The record of an operation; `none` is `null` or a key that is not there. -/
structure SharedRecord where
  operationId : Option String := none
  canonicalRequestHash : Option String := none
  metadata : Option Dict := none
  storedResponse : Option Dict := none
  continuationConsumed : Bool := false

/-- The file of an operation. -/
inductive SharedFile where
  | absent
  | torn
  | holds (record : SharedRecord)

def SharedFile.isThere : SharedFile → Bool
  | .absent => false
  | .torn | .holds _ => true

/-- What the calls raise. -/
inductive SharedError where
  | fileNotFound
  | jsonDecode
  | identityConflict (message : String)
  | claim (code message : String)

/-! ### Steps -/

/-- A step on the files of a store, or on the lock of an instance. -/
inductive SharedOp where
  | pathExists (name : String)
  | read (name : String)
  | truncate (name : String)
  | write (name : String) (record : SharedRecord)
  | acquire (owner : Nat)
  | release (owner : Nat)

def SharedOp.Answer : SharedOp → Type
  | .pathExists _ => Bool
  | .read _ => SharedFile
  | .truncate _ | .write _ _ | .acquire _ | .release _ => Unit

abbrev sharedSignature : Signature := ⟨SharedOp, SharedOp.Answer⟩

/-- A computation of the store. -/
abbrev SharedProgram := Program sharedSignature SharedError

def sharedStep (op : SharedOp) : SharedProgram op.Answer := .ask (S := sharedSignature) op .done

/-- `json.loads(path.read_text(..))`. -/
def readRecord (name : String) : SharedProgram SharedRecord := do
  match ← sharedStep (.read name) with
  | .absent => .raise .fileNotFound
  | .torn => .raise .jsonDecode
  | .holds record => return record

/-- `path.write_text(..)`: the file is truncated, and then written. -/
def writeRecord (name : String) (record : SharedRecord) : SharedProgram Unit := do
  sharedStep (.truncate name)
  sharedStep (.write name record)

/-! ### Calls -/

/-- What a call returns. -/
inductive SharedAnswer where
  | new
  | bound (requestHash : String) (storedResponse : Option Dict)
  | loaded (record : Option SharedRecord)
  | persisted
  | claimed

namespace SharedOperationStore

variable (name : String)

/-- `bind`; `new` is `None`. -/
def bind (operationId requestHash : String) (metadata : Dict) : SharedProgram SharedAnswer := do
  let known : Bool ← sharedStep (.pathExists name)
  if known then
    let data ← readRecord name
    if data.canonicalRequestHash ≠ some requestHash then
      .raise (.identityConflict "operation_id is already bound to a different request")
    else return .bound requestHash data.storedResponse
  else
    writeRecord name
      { operationId := some operationId, canonicalRequestHash := some requestHash
        metadata := some metadata }
    return .new

/-- `load`. -/
def load : SharedProgram SharedAnswer := do
  let known : Bool ← sharedStep (.pathExists name)
  if known then
    let data ← readRecord name
    return .loaded (some data)
  else return .loaded none

/-- `persist_response`. -/
def persistResponse (response : Dict) : SharedProgram SharedAnswer := do
  let known : Bool ← sharedStep (.pathExists name)
  let data ← if known then readRecord name else pure {}
  writeRecord name { data with storedResponse := some response }
  return .persisted

/-- The body of `claim_continuation`; an exception is its value, so that the lock is released. -/
def claimUnlocked (operationId requestHash : String) :
    SharedProgram (Except SharedError SharedAnswer) := do
  let known : Bool ← sharedStep (.pathExists name)
  if known then
    match ← sharedStep (.read name) with
    | .absent => return .error .fileNotFound
    | .torn => return .error .jsonDecode
    | .holds data =>
      if data.canonicalRequestHash ≠ some requestHash then
        return .error
          (.claim "request_hash_mismatch" "Request hash does not match bound operation")
      else if data.continuationConsumed then
        return .error (.claim "continuation_already_consumed" ("continuation_already_consumed: " ++
          "Continuation has already been claimed for this operation"))
      else
        writeRecord name { data with continuationConsumed := true }
        return .ok .claimed
  else return .error (.claim "operation_not_found" ("Operation not found: " ++ operationId))

/-- `claim_continuation`, of one instance. -/
def claimContinuation (owner : Nat) (operationId requestHash : String) :
    SharedProgram SharedAnswer := do
  sharedStep (.acquire owner)
  let result ← claimUnlocked name operationId requestHash
  sharedStep (.release owner)
  Program.ofExcept result

end SharedOperationStore

/-- A call for an operation, by an instance. -/
inductive SharedCall where
  | bind (requestHash : String) (metadata : Dict)
  | load
  | persistResponse (response : Dict)
  | claimContinuation (owner : Nat) (requestHash : String)

def SharedCall.program (name operationId : String) : SharedCall → SharedProgram SharedAnswer
  | .bind requestHash metadata => SharedOperationStore.bind name operationId requestHash metadata
  | .load => SharedOperationStore.load name
  | .persistResponse response => SharedOperationStore.persistResponse name response
  | .claimContinuation owner requestHash =>
    SharedOperationStore.claimContinuation name owner operationId requestHash

/-! ### Files and locks -/

/-- The files of a store, and the locks of its instances. -/
structure SharedFiles where
  files : String → SharedFile := fun _ => .absent
  taken : Nat → Bool := fun _ => false

/-- What the files and the locks answer, and what a step makes of them. -/
def sharedEnvironment : Environment sharedSignature SharedFiles where
  answers
    | world, .pathExists name, known => known = (world.files name).isThere
    | world, .read name, found => found = world.files name
    | world, .acquire owner, _ => world.taken owner = false
    | _, .truncate _, _ | _, .write _ _, _ | _, .release _, _ => True
  next
    | world, .truncate name, _ => { world with files := Function.update world.files name .torn }
    | world, .write name record, _ =>
      { world with files := Function.update world.files name (.holds record) }
    | world, .acquire owner, _ => { world with taken := Function.update world.taken owner true }
    | world, .release owner, _ => { world with taken := Function.update world.taken owner false }
    | world, .pathExists _, _ | world, .read _, _ => world

end Audisor.Operations
