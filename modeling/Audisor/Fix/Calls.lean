/-
**Calls of the dispatcher.**

* `FixOp` — what a call does to its surroundings: the lock of its operation, the store, the worker, the
  model, and the two callbacks.
* `leave` — the exit of a dispatch: the handoff and the record are persisted in front of the callback.
* `dispatchUnlocked`, `dispatchCall` — one call, inside the lock and with it.
* `answersFrom` — how the surroundings answer: a lock is taken when it is free, a load gives the last
  record that was persisted, and everything else may answer anything or raise.
* `dispatch_of_prepare` — behind the model a call does what `dispatch` does.
-/

import Audisor.Fix.Dispatch
import Audisor.Interaction.Journal

namespace Audisor.Fix

open Checked Interaction Json

/-! ### Questions -/

/-- What a call asks. -/
inductive FixOp where
  | acquire (operationId : String)
  | load (operationId : String)
  | makeWorker (operationId : String)
  | askWorker (operationId : String)
  | askIgniter (operationId : String)
  | persistHandoff (operationId : String) (handoff : Dict)
  | persist (operationId : String) (artifact : Dict)
  | continueImplementation (operationId : String)
  | finalizeUnresolved (operationId : String)
  | release (operationId : String)

def FixOp.Answer : FixOp → Type
  | .load _ => Option Json
  | .makeWorker _ | .continueImplementation _ | .finalizeUnresolved _ => Except Failure Unit
  | .askWorker _ => WorkerReply
  | .askIgniter _ => Except Failure IgnitionResult
  | .acquire _ | .persistHandoff _ _ | .persist _ _ | .release _ => Unit

/-- The signature of the dispatcher. -/
abbrev fixSignature : Signature := ⟨FixOp, FixOp.Answer⟩

/-- A computation of the dispatcher. -/
abbrev FixProgram := Program fixSignature Failure

abbrev FixLog := List (Event fixSignature)

def asking (op : FixOp) : FixProgram op.Answer := .ask (S := fixSignature) op .done

/-! ### One call -/

/-- `store.persist_handoff(operation, result)`, where there is a handoff. -/
def persistHandoffOf (operationId : String) : Option Dict → FixProgram Unit
  | some handoff => asking (.persistHandoff operationId handoff)
  | none => .done ()

/-- `store.persist(operation_id, artifact)`, where there is an artifact. -/
def persistOf (operationId : String) : Option Dict → FixProgram Unit
  | some artifact => asking (.persist operationId artifact)
  | none => .done ()

/-- The callback of an answer: what it raises, or the answer. -/
def callBack (operationId : String) (answer : Answer) : FixProgram (Except Failure Answer) :=
  match answer with
  | .continued _ _ => do
    let returned ← asking (.continueImplementation operationId)
    return returned.map fun _ => answer
  | .finalized _ _ => do
    let returned ← asking (.finalizeUnresolved operationId)
    return returned.map fun _ => answer
  | .raised failure => .done (.error failure)
  | .recorded _ | .routed _ => .done (.ok answer)

/-- The exit of a dispatch: what it persists, and then its callback. -/
def leave (operationId : String) (left : Dispatched) : FixProgram (Except Failure Answer) := do
  persistHandoffOf operationId left.handoff
  persistOf operationId left.record
  callBack operationId left.answer

def askBoundary (operationId : String) : Boundary → FixProgram Boundary
  | .localWorker _ => do
    let reply ← asking (.askWorker operationId)
    return .localWorker reply
  | .custom _ => do
    let answer ← asking (.askIgniter operationId)
    return .custom fun _ _ => answer

def checkResult (host : Host) (prepared : Prepared) : Except Dispatched IgnitionResult := do
  let result ← evaluateModel host prepared.operation prepared.context
  checkCompleteness host prepared.operation prepared.results result
  return result

def afterModel (host : Host) (prepared : Prepared) : Dispatched :=
  match checkResult host prepared with
  | .error left => left
  | .ok result => conclude host prepared.operation prepared.context result

/-- `_dispatch_unlocked(...)`: the exception that leaves it, or its answer. -/
def dispatchUnlocked (host : Host) (operation : AcceptedFixOperation) :
    FixProgram (Except Failure Answer) := do
  let existing ← asking (.load operation.operationId)
  match prepare { host with load := fun _ => existing } operation with
  | .error left => leave operation.operationId left
  | .ok prepared =>
    let made ← asking (.makeWorker operation.operationId)
    match made with
    | .error failure => return .error failure
    | .ok () =>
      let boundary ← askBoundary operation.operationId host.boundary
      leave operation.operationId (afterModel { host with boundary } prepared)

/-- **One call of `dispatch`**: the lock is released however the dispatch ends. -/
def dispatchCall (host : Host) (operation : AcceptedFixOperation) : FixProgram Answer := do
  asking (.acquire operation.operationId)
  let outcome ← dispatchUnlocked host operation
  asking (.release operation.operationId)
  .ofExcept outcome

/-- **Behind the stages before the model, a call does what `dispatch` does.** -/
theorem dispatch_of_prepare {host : Host} {operation : AcceptedFixOperation} {prepared : Prepared}
    (ready : prepare host operation = .ok prepared) :
    dispatch host operation = afterModel host prepared := by
  have evaluated : evaluate host operation =
      (checkResult host prepared).map fun result => (prepared, result) := by
    unfold evaluate checkResult
    rw [ready]
    change (do
      let result ← evaluateModel host prepared.operation prepared.context
      checkCompleteness host prepared.operation prepared.results result
      pure (prepared, result)) = _
    cases evaluateModel host prepared.operation prepared.context with
    | error left => rfl
    | ok result =>
      change (do
        checkCompleteness host prepared.operation prepared.results result
        pure (prepared, result)) = Except.map _ (do
          checkCompleteness host prepared.operation prepared.results result
          pure result)
      cases checkCompleteness host prepared.operation prepared.results result <;> rfl
  unfold dispatch afterModel
  rw [evaluated]
  cases checkResult host prepared <;> rfl

/-! ### The surroundings -/

def lockHeld (operationId : String) : FixLog → Bool
  | [] => false
  | ⟨.acquire id, _⟩ :: older => id = operationId || lockHeld operationId older
  | ⟨.release id, _⟩ :: older => id ≠ operationId && lockHeld operationId older
  | _ :: older => lockHeld operationId older

/-- The record of an operation: the last one persisted, or what was there before. -/
def recordIn (initial : String → Option Json) (operationId : String) : FixLog → Option Json
  | [] => initial operationId
  | ⟨.persist id artifact, _⟩ :: older =>
    if id = operationId then some (.obj artifact) else recordIn initial operationId older
  | _ :: older => recordIn initial operationId older

def answersFrom (initial : String → Option Json) (log : FixLog) :
    (op : FixOp) → op.Answer → Prop
  | .acquire operationId, _ => lockHeld operationId log = false
  | .load operationId, answer => answer = recordIn initial operationId log
  | _, _ => True

end Audisor.Fix
