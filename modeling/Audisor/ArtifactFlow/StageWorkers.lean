/-
**The worker of the stages, and the call that bounds it in time.**

* `StageOp`, `StageWorld` — what a worker asks of its providers and of the clock, and the state it
  leaves: the time limit of each provider, and the record of each attempt.
* `parseJsonObject`, `dropEmptyOptionals` — what is read of an answer.
* `runAttempt`, `runStage` — `ManagedStageWorker`: one attempt on the primary provider, and at most one
  on a fallback that is ready.
* `callWithTimeout`, `executeStageOn` — the deadline of a stage, and what becomes of its exceptions.
-/

import Audisor.ArtifactFlow.Engine
import Audisor.Interaction.Scripted
import Audisor.Interaction.Stateful
import Mathlib.Data.Rat.Floor

namespace Audisor.ArtifactFlow

open Interaction Json

/-! ### Exceptions -/

/-- An exception: the names of its classes, its own first, and what a `ProviderError` carries. -/
structure Exc where
  classes : List String
  message : String
  code : String := ""
  internalDetail : String := ""

/-- `isinstance(exc, cls)`. -/
def Exc.isA (exc : Exc) (cls : String) : Bool := exc.classes.contains cls

/-- A `ProviderError` of the worker itself. -/
def providerFailure (classes : List String) (code message internalDetail : String) : Exc where
  classes := classes ++ ["ProviderError", "RuntimeError", "Exception"]
  message := message
  code := code
  internalDetail := String.ofList (internalDetail.toList.take 1000)

/-- `_FALLBACK_ELIGIBLE`. -/
def fallbackEligible : List String :=
  ["ProviderUnavailableError", "ProviderTimeoutError", "ProviderRateLimitedError",
    "ProviderInvalidResponseError"]

/-! ### What a worker asks -/

/-- A provider, as an object: two names may be of one object. -/
abbrev ProviderRef := Nat

/-- A task of a provider. -/
structure StageTask where
  taskId : String
  prompt : String

/-- A question of a worker. -/
inductive StageOp where
  | clock
  | capabilities (provider : ProviderRef)
  | executeStructured (provider : ProviderRef) (task : StageTask) (schemaName schemaMode : String)
  | execute (provider : ProviderRef) (task : StageTask)
  | progress (stage : Stage) (provider : String) (attempt : Nat) (elapsed remaining : ℚ)
  | invalidateReadiness (provider : ProviderRef) (exc : Exc) (schemaMode : String)
  | inTime

/-- What a question is answered with: `capabilities` with `native_json_schema`, a provider with its
answer, `inTime` with whether the stage ended before its time limit. -/
def StageOp.Answer : StageOp → Type
  | .clock => ℚ
  | .capabilities _ => Except Exc Bool
  | .executeStructured _ _ _ _ | .execute _ _ => Except Exc String
  | .progress _ _ _ _ _ | .invalidateReadiness _ _ _ => Except Exc Unit
  | .inTime => Bool

abbrev stageSignature : Signature := ⟨StageOp, StageOp.Answer⟩

/-! ### The worker -/

/-- `ManagedStageWorker`. `structured` tells the providers that have `execute_structured`. -/
structure ManagedStageWorker where
  primary : ProviderRef
  fallback : Option ProviderRef
  fallbackReady : Bool
  reportsProgress : Bool
  invalidates : Bool
  providerId : ProviderRef → String
  model : ProviderRef → String
  structured : ProviderRef → Bool

/-- The record of one attempt. -/
structure AttemptRecord where
  stage : Stage
  attempt : Nat
  provider : String
  model : String
  selectionReason : String
  fallbackUsage : Bool
  budgetSeconds : ℚ
  elapsedMs : Int
  outcome : String
  diagnosticState : String
  detail : Option String

/-- One call of `_run_attempt`: its arguments, when it started, and the budget that it computed. -/
structure AttemptStart where
  provider : ProviderRef
  attempt : Nat
  fallbackUsage : Bool
  deadline : Option ℚ
  startedAt : ℚ
  budget : ℚ
  deriving DecidableEq

/-- The state of a worker. `timeouts` is `provider.timeout_seconds` of the providers that have it;
`started` are the calls of `_run_attempt`, the last first. -/
structure StageWorld where
  timeouts : ProviderRef → Option ℚ
  attempts : List AttemptRecord
  started : List AttemptStart
  log : List (Event stageSignature)

/-- What the worker takes from its host: the text of the prompt, `json.loads`, and what the
`jsonschema` library says of the first violation, as the detail of the error. -/
structure StageHost where
  prompt : Stage → Dict → String
  loads : List Char → Except Exc Json
  violationDetail : Stage → ProviderRef → Nat → String → Dict → String
  notJsonDetail : Stage → ProviderRef → Nat → String → String → String

/-! ### Reading an answer -/

def codeFence : List Char := List.replicate 3 (Char.ofNat 0x60)

/-- The longest text up to a closing brace that a fence follows, of what stands behind the first. -/
def fencedBody : List Char → Option (List Char)
  | [] => none
  | c :: rest =>
    match fencedBody rest with
    | some body => some (c :: body)
    | none =>
      if c = '}' ∧ codeFence.isPrefixOf (rest.dropWhile Text.isWhitespace) then some [c] else none

def fencedHere (text : List Char) : Option (List Char) :=
  if codeFence.isPrefixOf text then
    let inside := text.drop codeFence.length
    let inside := if "json".toList.isPrefixOf inside then inside.drop 4 else inside
    match inside.dropWhile Text.isWhitespace with
    | '{' :: body => (fencedBody body).map fun body => '{' :: body
    | _ => none
  else none

def searchFenced : List Char → Option (List Char)
  | [] => none
  | c :: rest => (fencedHere (c :: rest)).or (searchFenced rest)

/-- The text from the first opening brace to the last closing one. -/
def betweenBraces (text : List Char) : List Char :=
  let opened := text.dropWhile fun c => c ≠ '{'
  let closed := opened.rdropWhile fun c => c ≠ '}'
  if closed = [] then text else closed

/-- `StageOutputError(message)`. -/
def stageOutputError (message : String) : Exc :=
  { classes := ["StageOutputError", "ValueError", "Exception"], message }

/-- `_parse_json_object(text)`. -/
def parseJsonObject (host : StageHost) (answer : String) : Except Exc Dict :=
  let text := Text.strip answer.toList
  let candidate := (searchFenced text).getD (betweenBraces text)
  match host.loads candidate with
  | .error exc =>
    if exc.isA "JSONDecodeError" then
      .error (stageOutputError ("worker answer is not valid JSON: " ++ exc.message))
    else .error exc
  | .ok (.obj fields) => .ok fields
  | .ok _ => .error (stageOutputError "worker answer must be a JSON object")

/-- `_OPTIONAL_STRING_FIELDS`. -/
def optionalStringFields : Stage → List (String × List String)
  | .gapFinding => [("gaps", ["category", "evidence_basis"])]
  | .gapFixing => [("fixes", ["evidence_basis"])]
  | .evaluation => [("findings", ["successful_resolution"])]
  | .fixtureDesign => [("fixture_cases", ["setup", "criterion"])]
  | .successCriteria => []

/-- An item of a list without the optional texts that are blank. -/
def dropBlank (optional : List String) : Json → Json
  | .obj fields => .obj (fields.filter fun field =>
      match field.2 with
      | .str text => !(optional.contains field.1 && isBlank text)
      | _ => true)
  | value => value

/-- `_drop_empty_optionals(stage_name, parsed)`. -/
def dropEmptyOptionals (stage : Stage) (parsed : Dict) : Dict :=
  (optionalStringFields stage).foldl (fun cleaned entry =>
    match get? cleaned entry.1 with
    | some (.arr items) => set cleaned entry.1 (.arr (items.map (dropBlank entry.2)))
    | _ => cleaned) parsed

/-! ### One attempt -/

variable (script : Script stageSignature) (host : StageHost) (worker : ManagedStageWorker)

def consult {ε : Type} (op : StageOp) : Run StageWorld ε op.Answer := fun w =>
  (.ok (script w.log op), { w with log := ⟨op, script w.log op⟩ :: w.log })

/-- `self.progress(..)`, where there is one. -/
def reportProgress (stage : Stage) (provider : ProviderRef) (attempt : Nat) (elapsed remaining : ℚ) :
    Run StageWorld Exc Unit :=
  if worker.reportsProgress then do
    let answer : Except Exc Unit ← consult script
      (.progress stage (worker.providerId provider) attempt elapsed remaining)
    Run.ofExcept answer
  else return ()

def nativeMode : String := "native_json_schema"

def promptMode : String := "prompt_validated_json"

/-- The answer of a provider, with the mode that it was asked in; an exception with the mode that is
set when it is raised. -/
def askProvider (stage : Stage) (provider : ProviderRef) (task : StageTask) (schemaMode : String) :
    Run StageWorld (Exc × Option String) (String × String) :=
  if worker.structured provider then do
    let first : Except Exc String ← consult script
      (.executeStructured provider task ("aflow_" ++ stage.value) schemaMode)
    match first with
    | .ok answer => return (answer, schemaMode)
    | .error exc =>
      if (exc.isA "ProviderCapabilityError" || exc.isA "ProviderSchemaUnsupportedError") &&
          schemaMode == nativeMode then do
        let second : Except Exc String ← consult script
          (.executeStructured provider task ("aflow_" ++ stage.value) promptMode)
        match second with
        | .ok answer => return (answer, promptMode)
        | .error exc => Run.raise (exc, some promptMode)
      else Run.raise (exc, some schemaMode)
  else do
    let output : Except Exc String ← consult script (.execute provider task)
    match output with
    | .ok answer => return (answer, schemaMode)
    | .error exc => Run.raise (exc, some schemaMode)

/-- The answer read, and held against the contract of the stage. -/
def readAnswer (stage : Stage) (provider : ProviderRef) (attempt : Nat) (answer schemaMode : String) :
    Except (Exc × Option String) Dict :=
  match parseJsonObject host answer with
  | .error exc =>
    if exc.isA "StageOutputError" then
      .error (providerFailure ["ProviderResponseNotJsonError", "ProviderInvalidResponseError"]
        "provider_response_not_json" "Selected provider response was not a JSON object"
        (host.notJsonDetail stage provider attempt schemaMode answer), some schemaMode)
    else .error (exc, some schemaMode)
  | .ok fields =>
    let parsed := dropEmptyOptionals stage fields
    if stage.schema.accepts (.obj (pruneOutput stage parsed).1) then .ok parsed
    else .error (providerFailure ["ProviderContractInvalidError", "ProviderInvalidResponseError"]
      "provider_contract_invalid" "Selected provider response violated the canonical stage contract"
      (host.violationDetail stage provider attempt schemaMode (pruneOutput stage parsed).1),
      some schemaMode)

/-- The arguments of an attempt. -/
structure AttemptArgs where
  provider : ProviderRef
  attempt : Nat
  selectionReason : String
  fallbackUsage : Bool
  deadline : Option ℚ

/-- The body of the `try` of an attempt. No schema of a stage uses a key that the native mode does not
support. -/
def attemptBody (stage : Stage) (prompt : String) (args : AttemptArgs) :
    Run StageWorld (Exc × Option String) Dict := do
  let task : StageTask := ⟨"aflow-" ++ stage.value ++ "-" ++ toString args.attempt, prompt⟩
  let native : Except Exc Bool ← consult script (.capabilities args.provider)
  match native with
  | .error exc => Run.raise (exc, none)
  | .ok native => do
    let (answer, schemaMode) ← askProvider script worker stage args.provider task
      (if native then nativeMode else promptMode)
    Run.ofExcept (readAnswer host stage args.provider args.attempt answer schemaMode)

/-- `round(value * 1000)`: half to even. -/
def roundMillis (value : ℚ) : Int :=
  let scaled := value * 1000
  let below := scaled.floor
  if scaled - below < 1 / 2 ∨ (scaled - below = 1 / 2 ∧ below % 2 = 0) then below else below + 1

def recordOf (stage : Stage) (args : AttemptArgs) (budget : ℚ) (elapsedMs : Int)
    (outcome diagnosticState : String) (detail : Option String) : AttemptRecord where
  stage := stage
  attempt := args.attempt
  provider := worker.providerId args.provider
  model := worker.model args.provider
  selectionReason := args.selectionReason
  fallbackUsage := args.fallbackUsage
  budgetSeconds := budget
  elapsedMs := elapsedMs
  outcome := outcome
  diagnosticState := diagnosticState
  detail := detail

/-- `self.attempts.append(record)`. -/
def appendAttempt (record : AttemptRecord) : Run StageWorld Exc Unit :=
  Run.change fun w => { w with attempts := w.attempts ++ [record] }

/-- `self.invalidate_readiness(provider, exc, schema_mode)`, where there is one. Without a mode the name
is not bound. -/
def invalidateReadiness (provider : ProviderRef) (exc : Exc) (schemaMode : Option String) :
    Run StageWorld Exc Unit :=
  if worker.invalidates then
    match schemaMode with
    | none => Run.raise
      { classes := ["UnboundLocalError", "NameError", "Exception"]
        message := "cannot access local variable 'schema_mode' where it is not associated with a value" }
    | some schemaMode =>
      if exc.isA "ProviderContractInvalidError" && schemaMode == promptMode then return ()
      else do
        let answer : Except Exc Unit ← consult script (.invalidateReadiness provider exc schemaMode)
        Run.ofExcept answer
  else return ()

def completeAttempt (stage : Stage) (args : AttemptArgs) (startedAt budget : ℚ) (parsed : Dict) :
    Run StageWorld Exc Dict := do
  let now : ℚ ← consult script .clock
  let elapsed := now - startedAt
  appendAttempt (recordOf worker stage args budget (roundMillis elapsed) "completed" "valid" none)
  reportProgress script worker stage args.provider args.attempt elapsed (max 0 (budget - elapsed))
  return parsed

def failAttempt (stage : Stage) (args : AttemptArgs) (startedAt budget : ℚ)
    (raised : Exc × Option String) : Run StageWorld Exc Dict :=
  let (exc, schemaMode) := raised
  if exc.isA "ProviderError" then do
    let now : ℚ ← consult script .clock
    let elapsed := now - startedAt
    appendAttempt (recordOf worker stage args budget (roundMillis elapsed) exc.code "not_valid"
      (some (String.ofList (exc.message.toList.take 500))))
    reportProgress script worker stage args.provider args.attempt elapsed (max 0 (budget - elapsed))
    invalidateReadiness script worker args.provider exc schemaMode
    Run.raise exc
  else Run.raise exc

/-- `try: body; except: onError; onValue`. -/
def tryElse {σ ε ε' α β : Type} (body : Run σ ε α) (onError : ε → Run σ ε' β) (onValue : α → Run σ ε' β) :
    Run σ ε' β := fun w =>
  match body w with
  | (.ok value, w') => onValue value w'
  | (.error error, w') => onError error w'

/-- The budget of an attempt: the time limit of the provider, clamped to the time that is left. -/
def attemptBudget (timeout : ℚ) (deadline : Option ℚ) (startedAt : ℚ) : ℚ :=
  match deadline with
  | some deadline =>
    let remaining := max 0 (deadline - startedAt)
    if 0 < timeout then min timeout remaining else remaining
  | none => timeout

/-- `provider.timeout_seconds = budget`, of a provider that has it. -/
def setTimeout (timeouts : ProviderRef → Option ℚ) (provider : ProviderRef) (budget : ℚ) :
    ProviderRef → Option ℚ := fun other =>
  if other = provider then (timeouts other).map fun _ => budget else timeouts other

/-- `_run_attempt(provider, stage_name, prompt, ..)`. -/
def runAttempt (stage : Stage) (prompt : String) (args : AttemptArgs) : Run StageWorld Exc Dict := do
  let startedAt : ℚ ← consult script .clock
  let timeout ← Run.look fun w => w.timeouts args.provider
  let budget := attemptBudget (timeout.getD 0) args.deadline startedAt
  Run.change fun w => { w with
    started := ⟨args.provider, args.attempt, args.fallbackUsage, args.deadline, startedAt, budget⟩ ::
      w.started }
  if args.deadline.isSome ∧ budget ≤ 0 then do
    appendAttempt (recordOf worker stage args 0 0 "provider_timeout" "not_valid"
      (some "stage deadline exhausted before attempt started"))
    Run.raise (providerFailure ["ProviderTimeoutError"] "provider_timeout"
      ("stage deadline exhausted before attempt " ++ toString args.attempt)
      ("provider=" ++ worker.providerId args.provider))
  else do
    -- The clamped budget is written into the provider, and stays there.
    Run.change fun w => { w with timeouts := setTimeout w.timeouts args.provider budget }
    reportProgress script worker stage args.provider args.attempt 0 budget
    tryElse (attemptBody script host worker stage prompt args)
      (failAttempt script worker stage args startedAt budget)
      (completeAttempt script worker stage args startedAt budget)

/-! ### A stage -/

def primaryArgs (deadline : Option ℚ) : AttemptArgs :=
  ⟨worker.primary, 1, "configured_primary", false, deadline⟩

def fallbackArgs (provider : ProviderRef) (deadline : Option ℚ) : AttemptArgs :=
  ⟨provider, 2, "single_transient_primary_fallback", true, deadline⟩

/-- `run_stage(stage_name, payload, stage_deadline=deadline)`. -/
def runStage (stage : Stage) (payload : Dict) (deadline : Option ℚ) : Run StageWorld Exc Dict :=
  let prompt := host.prompt stage payload
  Run.tryCatch (runAttempt script host worker stage prompt (primaryArgs worker deadline)) fun exc =>
    if fallbackEligible.any exc.isA then
      match worker.fallback with
      | none => Run.raise exc
      | some provider =>
        if worker.fallbackReady then
          runAttempt script host worker stage prompt (fallbackArgs provider deadline)
        else Run.raise exc
    else Run.raise exc

/-- The exceptions that the probe of the signature catches. -/
def Exc.isCaught (exc : Exc) : Bool := exc.isA "ValueError" || exc.isA "TypeError"

/-- `_run()`, in the thread of the stage. The handler is for the probe of the signature, and catches
what the worker raises as well. -/
def runInThread (stage : Stage) (payload : Dict) (deadline : ℚ) : Run StageWorld Exc Dict :=
  Run.tryCatch (runStage script host worker stage payload (some deadline)) fun exc =>
    if exc.isCaught then runStage script host worker stage payload none else Run.raise exc

def outcomeOf {σ ε ε' α : Type} (p : Run σ ε α) : Run σ ε' (Except ε α) := fun w => (.ok (p w).1, (p w).2)

/-- `future.result(timeout=timeout)`: `none` where the thread is late. It goes on to its end all the
same. -/
def awaitThread (outcome : Except Exc Dict) : Run StageWorld Exc (Option Dict) := do
  let inTime : Bool ← consult script .inTime
  if inTime then do
    let output ← Run.ofExcept outcome
    return some output
  else return none

def callUnbounded (stage : Stage) (payload : Dict) : Run StageWorld Exc (Option Dict) := do
  let output ← runStage script host worker stage payload none
  return some output

/-- `_call_with_timeout(worker, stage, payload, timeout)`. -/
def callWithTimeout (stage : Stage) (payload : Dict) (timeout : Option ℚ) :
    Run StageWorld Exc (Option Dict) :=
  match timeout with
  | none => callUnbounded script host worker stage payload
  | some timeout =>
    if timeout ≤ 0 then callUnbounded script host worker stage payload
    else do
      let now : ℚ ← consult script .clock
      let outcome ← outcomeOf (runInThread script host worker stage payload (now + timeout))
      awaitThread script outcome

/-- What an exception of the call is for the stage; what is no `Exception` is not caught. -/
def answerOfExc (exc : Exc) : Except Exc WorkerAnswer :=
  if exc.isA "TimeoutError" then .ok .late
  else if exc.isA "ProviderError" then .ok (.provider exc.code exc.message exc.internalDetail)
  else if exc.isA "Exception" then .ok (.raised (exc.classes.headD "") exc.message)
  else .error exc

def answerOfOutput : Option Dict → WorkerAnswer
  | some fields => .output (.obj fields)
  | none => .late

/-- `_execute_stage(worker, stage, payload, stage_timeout_seconds, repairs)` on this worker: the result,
and what was removed. -/
def executeStageOn (flowHost : Host) (stage : Stage) (payload : Dict) (timeout : Option ℚ) :
    Run StageWorld Exc (Dict × List Json) :=
  tryElse (callWithTimeout script host worker stage payload timeout)
    (fun exc => do
      let answer ← Run.ofExcept (answerOfExc exc)
      return stageOutcome flowHost stage answer)
    fun output => return stageOutcome flowHost stage (answerOfOutput output)

end Audisor.ArtifactFlow
