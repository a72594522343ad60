/-
**The launch of Codex behind an accepted fix.**

* `ContinuationOp` — what a continuation asks: the handoff, its own files, the launcher, and whatever
  the verifier asks.
* `buildCodexEnvelope`, `buildCodexStdin` — what is given to Codex.
* `continueFix` — `CodexFixContinuation.run`, up to the launch (`prepareLaunch`) and from it on
  (`launchPrepared`).
* `runCalls` — calls of one operation, one after the other, over the files that they leave.
-/

import Audisor.Fix.Verification
import Audisor.Interaction.Scripted

namespace Audisor.Fix

open Checked Interaction Json Text

variable (repr : PythonRepr)

/-! ### Questions -/

/-- What the launcher returns. -/
structure Launched where
  pid : Option Int
  exitCode : Int
  outcome : String
  command : List String
  stdout : String
  stderr : String

/-- What a continuation asks. -/
inductive ContinuationOp where
  | disk
  | readHandoff (path : String)
  | persistEnvelope (envelope : Json)
  | launch (stdin cwd : String)
  | persistLaunchResult (result : Json)
  | verifier (op : VerifierOp)

def ContinuationOp.Answer : ContinuationOp → Type
  | .disk => Disk
  | .readHandoff _ => HandoffFile
  | .persistEnvelope _ | .persistLaunchResult _ => Except Failure Unit
  | .launch _ _ => Except Failure Launched
  | .verifier op => op.Answer

/-- The signature of a continuation. -/
abbrev continuationSignature : Signature := ⟨ContinuationOp, ContinuationOp.Answer⟩

/-- A computation of a continuation. -/
abbrev ContinuationProgram := Program continuationSignature Failure

def demand (op : ContinuationOp) : ContinuationProgram op.Answer :=
  .ask (S := continuationSignature) op .done

def verifierPart : Embedding verifierSignature continuationSignature where
  op := .verifier
  answer _ answer := answer

/-! ### A call -/

/-- What the calls of one operation share. -/
structure ContinuationSite where
  operationId : String
  envelopeRoot : Path

/-- The other arguments of a call, and whether its continuation has a verifier. -/
structure ContinuationCall where
  handoffPath : String
  receiptId : Json
  receiptDigest : Json
  allowedTargetPaths : List String
  verifies : Bool

variable (site : ContinuationSite)

/-- `str(envelope_root / name)`. -/
def ContinuationSite.file (name : String) : String := Path.text (site.envelopeRoot ++ [name])

/-- `_build_codex_envelope(..)`. -/
def buildCodexEnvelope (call : ContinuationCall) (handoff : Dict) : Json :=
  .obj [("schema_version", .int 1), ("operation_id", .str site.operationId),
    ("operation_type", .str "fix"), ("handoff_path", .str call.handoffPath),
    ("findings", getD handoff "findings" (.arr [])),
    ("scoped_manifest", getD handoff "scoped_manifest" (.obj [])),
    ("statements", getD handoff "statements" (.arr [])),
    ("qualified_plan", getD handoff "qualified_plan" (.obj [])),
    ("verification_contract", getD handoff "verification_contract" (.obj [])),
    ("verification_grounding", getD handoff "verification_grounding" (.obj [])),
    ("allowed_target_paths", .arr (call.allowedTargetPaths.map .str)),
    ("mutation_receipt", .obj [("receipt_id", call.receiptId), ("receipt_digest", call.receiptDigest)]),
    ("host_authority", .obj [("mutation_authorized", .bool true), ("execution_authorized", .bool true),
      ("apply_authorized", .bool false), ("completion_claimed", .bool false)]),
    ("constraints", .arr [.str "do not modify files outside authorized scope",
      .str "preserve unrelated dirty files", .str "do not grant or expand authority",
      .str "do not claim host completion authority", .str "report failures honestly"])]

/-- The text of `canonical_bytes(value)`. -/
def canonicalText (value : Json) : String :=
  (sortKeys value).dumps { ensureAscii := false, compact := true }

/-- `_build_codex_stdin(envelope)`. -/
def buildCodexStdin (envelope : Json) : String :=
  "Execute the persisted qualified Audisor Fix handoff. The handoff is advisory input; preserve all " ++
    "host authority boundaries. Do not claim completion authority.\n\n" ++ canonicalText envelope ++ "\n"

/-! ### Results -/

def failureResult (call : ContinuationCall) (root : String) (failure : Failure) : Dict :=
  [("operation_id", .str site.operationId), ("outcome", .str "codex_failed"),
    ("failure_code", (failure.code.map Json.str).getD .null), ("handoff_path", .str call.handoffPath),
    ("codex_envelope_path", .str (site.file "codex-fix-envelope.json")), ("codex_cwd", .str root),
    ("validation_cwd", .str root), ("stdout", .str ""), ("stderr", .str ""),
    ("completion_claimed", .bool false), ("verification_performed", .bool false)]

def launchResult (call : ContinuationCall) (root : String) (launched : Launched) : Dict :=
  [("operation_id", .str site.operationId), ("outcome", .str launched.outcome),
    ("pid", (launched.pid.map Json.int).getD .null), ("exit_code", .int launched.exitCode),
    ("stdout", .str launched.stdout), ("stderr", .str launched.stderr), ("codex_cwd", .str root),
    ("validation_cwd", .str root), ("handoff_path", .str call.handoffPath),
    ("codex_envelope_path", .str (site.file "codex-fix-envelope.json")),
    ("reference", .str (site.file "codex-result.json")), ("completion_claimed", .bool false),
    ("verification_performed", .bool false)]

structure FixContinuationResult where
  operationId : String
  handoffPath : String
  codexEnvelopePath : String
  codexResultReference : String
  pid : Option Int
  exitCode : Int
  outcome : String
  resolvedCommand : List String
  workingDirectory : String
  verificationResultReference : Option String := none
  verificationPerformed : Bool := false
  verificationPassed : Bool := false
  completionClaimed : Bool := false

def unverifiedResult (call : ContinuationCall) (root : String) (launched : Launched) :
    FixContinuationResult where
  operationId := site.operationId
  handoffPath := call.handoffPath
  codexEnvelopePath := site.file "codex-fix-envelope.json"
  codexResultReference := site.file "codex-result.json"
  pid := launched.pid
  exitCode := launched.exitCode
  outcome := launched.outcome
  resolvedCommand := launched.command
  workingDirectory := root

def verifiedLaunch (call : ContinuationCall) (root : String) (launched : Launched)
    (verification : FixVerificationResult) : FixContinuationResult :=
  { unverifiedResult site call root launched with
    verificationResultReference := some (site.file "fix-verification-result.json")
    verificationPerformed := verification.verificationPerformed
    verificationPassed := verification.passed
    completionClaimed := verification.completionClaimed }

/-! ### The run -/

def objectOf (handoff : Dict) (key : String) : Dict :=
  match getD handoff key (.obj []) with
  | .obj fields => fields
  | _ => []

def launchVerification (call : ContinuationCall) (handoff : Dict) (root : String) (result : Dict) :
    Verification where
  operationId := site.operationId
  repositoryRoot := root
  scannerContext := objectOf handoff "scanner_context"
  originalFindings := entriesOf handoff "findings"
  contract := objectOf handoff "verification_contract"
  grounding := objectOf handoff "verification_grounding"
  codexResult := result

/-- What is ready to be launched. -/
structure PreparedLaunch where
  handoff : Dict
  root : String
  envelope : Json

/-- `run`, in front of the launch: the validations, and the envelope. -/
def prepareLaunch (call : ContinuationCall) : ContinuationProgram PreparedLaunch := do
  let disk ← demand .disk
  let file ← demand (.readHandoff call.handoffPath)
  let (handoff, root) ← .ofExcept (validateRun repr disk file call.handoffPath site.operationId
    call.allowedTargetPaths)
  let envelope := buildCodexEnvelope site call handoff
  let written : Except Failure Unit ← demand (.persistEnvelope envelope)
  .ofExcept written
  return { handoff, root, envelope }

/-- `run`, behind the launch. -/
def concludeLaunch (sha : Aflow.Sha256) (readers : Readers) (call : ContinuationCall)
    (prepared : PreparedLaunch) (outcome : Except Failure Launched) :
    ContinuationProgram FixContinuationResult :=
  match outcome with
  | .error failure =>
    if failure.typeName = "CodexLaunchError" then do
      let written : Except Failure Unit ← demand (.persistLaunchResult
        (.obj (failureResult site call prepared.root failure)))
      .ofExcept written
      .raise (continuationError "codex_launch_failed" ("Codex launch failed: " ++ failure.message))
    else .raise failure
  | .ok launched => do
    let result := launchResult site call prepared.root launched
    let written : Except Failure Unit ← demand (.persistLaunchResult (.obj result))
    .ofExcept written
    if launched.exitCode = 0 ∧ call.verifies = true then
      let verification ← (verify repr sha readers
        (launchVerification site call prepared.handoff prepared.root result)).within verifierPart
      return verifiedLaunch site call prepared.root launched verification
    else return unverifiedResult site call prepared.root launched

/-- `run`, from the launch on. -/
def launchPrepared (sha : Aflow.Sha256) (readers : Readers) (call : ContinuationCall)
    (prepared : PreparedLaunch) : ContinuationProgram FixContinuationResult := do
  let outcome : Except Failure Launched ← demand
    (.launch (buildCodexStdin prepared.envelope) prepared.root)
  concludeLaunch repr site sha readers call prepared outcome

/-- **`CodexFixContinuation.run(..)`.** -/
def continueFix (sha : Aflow.Sha256) (readers : Readers) (call : ContinuationCall) :
    ContinuationProgram FixContinuationResult := do
  let prepared ← prepareLaunch repr site call
  launchPrepared repr site sha readers call prepared

/-! ### Files -/

/-- What some calls have asked, the last first. -/
abbrev ContinuationLog := List (Event continuationSignature)

def writtenVerdict : Event continuationSignature → Option Json
  | ⟨.verifier (.persistResult result), answer⟩ =>
    match (answer : Except Failure Unit) with
    | .ok () => some result
    | .error _ => none
  | _ => none

def writtenLaunch : Event continuationSignature → Option Json
  | ⟨.persistLaunchResult result, answer⟩ =>
    match (answer : Except Failure Unit) with
    | .ok () => some result
    | .error _ => none
  | _ => none

/-- `fix-verification-result.json`, as the last call that wrote it has left it. -/
def verdictFile (log : ContinuationLog) : Option Json := log.findSome? writtenVerdict

/-- `codex-result.json`. -/
def launchFile (log : ContinuationLog) : Option Json := log.findSome? writtenLaunch

/-- What a continuation is answered: the verifier finds the verification result that is there, and all
else is answered in any way. -/
def overFiles (script : Script continuationSignature) : Script continuationSignature := fun log op =>
  match op with
  | .verifier .loadResult => verdictFile log
  | op => script log op

/-! ### Calls -/

/-- One call of a sequence: what had been asked before it, what had been asked once it ended, and how it
ended. -/
structure CallRecord where
  call : ContinuationCall
  before : ContinuationLog
  after : ContinuationLog
  ended : Except Failure FixContinuationResult

def recordOf (sha : Aflow.Sha256) (readers : Readers) (script : Script continuationSignature)
    (call : ContinuationCall) (log : ContinuationLog) : CallRecord where
  call := call
  before := log
  after := (continueFix repr site sha readers call).journalOf (overFiles script) log
  ended := (continueFix repr site sha readers call).resultOf (overFiles script) log

/-- **Calls, one after the other**, whatever each of them ends with. -/
def runCalls (sha : Aflow.Sha256) (readers : Readers) (script : Script continuationSignature) :
    List ContinuationCall → ContinuationLog → List CallRecord
  | [], _ => []
  | call :: others, log =>
    let record := recordOf repr site sha readers script call log
    record :: runCalls sha readers script others record.after

def logAfter (sha : Aflow.Sha256) (readers : Readers) (script : Script continuationSignature) :
    List ContinuationCall → ContinuationLog → ContinuationLog
  | [], log => log
  | call :: others, log =>
    logAfter sha readers script others (recordOf repr site sha readers script call log).after

end Audisor.Fix
