/-
**The idempotency index of a data root.**

* `normalizeIdempotencyKey`, `deriveIdempotencyKeyHash` — what names the file of a key.
* `ResolvedPath` — a resolved path: its parts are names.
* `IdempotencyRecord`, `recordFromPayload` — a record, and what a loader accepts as one.
* `IndexOp` — the steps on the disk: looking, reading, staging a temporary file, linking it.
* `lookup`, `bind` — the calls, step by step. `indexEnvironment` — what the disk answers: a link succeeds
  only where nothing has the name, and any step may fail.

A file holds the JSON value that its text reads as.
-/

import Audisor.Aflow.Hashing
import Audisor.Interaction.Shared
import Audisor.Text.Words

namespace Audisor.Idempotency

open Interaction
open Audisor.Aflow (Sha256 isHexChar)
open Text (isAbsolute pathParts)

/-! ### Records -/

structure IdempotencyRecord where
  keyHash : String
  requestFingerprint : String
  buildId : String
  executionId : String
  executionPath : String
  statePath : String
  createdAt : String
  deriving DecidableEq

/-- `record.to_dict()`; the schema version is 1. -/
def IdempotencyRecord.toDict (record : IdempotencyRecord) : Json :=
  .obj [("schema_version", .int 1), ("key_hash", .str record.keyHash),
    ("request_fingerprint", .str record.requestFingerprint), ("build_id", .str record.buildId),
    ("execution_id", .str record.executionId), ("execution_path", .str record.executionPath),
    ("state_path", .str record.statePath), ("created_at", .str record.createdAt)]

/-- `IdempotencyIndexError`, a conflict with a bound key, or an error of the disk. -/
inductive IdempotencyError where
  | index (message : String)
  | conflict (record : IdempotencyRecord)
  | osError
  deriving DecidableEq

/-- The result of a check. -/
abbrev Checks := Except IdempotencyError

/-- `if not condition: raise IdempotencyIndexError(message)`. -/
def require (condition : Bool) (message : String) : Checks Unit :=
  if condition then .ok () else .error (.index message)

/-! ### Keys -/

/-- The computer that the index runs on. -/
structure IndexHost where
  nfkc : String → String
  sha : Sha256
  /-- `str(Path(text).expanduser())`. -/
  expanduser : String → String
  /-- `path.resolve(strict=False)`, as the parts below the root. -/
  resolve : String → Text.Path
  resolved : ∀ text, ∀ part ∈ resolve text, part ≠ "" ∧ part ≠ "." ∧ '/' ∉ part.toList

def normalizeIdempotencyKey (host : IndexHost) (value : String) : Checks String :=
  let normalized := host.nfkc value
  if normalized = "" ∨ Text.strip normalized.toList ≠ normalized.toList ∨
      '\x00' ∈ normalized.toList ∨ 512 < normalized.length then
    .error (.index "Idempotency key is invalid")
  else .ok normalized

def deriveIdempotencyKeyHash (host : IndexHost) (value : String) : Checks String :=
  (normalizeIdempotencyKey host value).map host.sha.hexdigest

/-- `[0-9a-f]{64}`. -/
def isSha256Hex (value : String) : Bool := value.length == 64 && value.toList.all isHexChar

/-- `_validate_sha256`. -/
def validateSha256 (value fieldName : String) : Checks Unit :=
  require (isSha256Hex value) (fieldName ++ " must be a lowercase SHA-256 digest")

/-! ### Paths -/

def commonParts : List String → List String → List String
  | first :: rest, other :: others => if first = other then first :: commonParts rest others else []
  | _, _ => []

/-- `os.path.commonpath([state, execution]) == execution`, of absolute paths. -/
def isInside (state execution : Text.Path) : Bool :=
  Text.Path.text (commonParts state execution) == Text.Path.text execution

/-! ### What a loader accepts -/

def requiredFields : List String :=
  ["schema_version", "key_hash", "request_fingerprint", "build_id", "execution_id",
    "execution_path", "state_path", "created_at"]

/-- `payload[name]`, where it is a text. -/
def textField (fields : Dict) (name : String) : Checks String :=
  match Json.get? fields name with
  | some (.str value) => .ok value
  | _ => .error (.index "Idempotency record field types are invalid")

/-- `_record_from_payload`. -/
def recordFromPayload : Json → Checks IdempotencyRecord
  | .obj fields => do
    require (requiredFields.all (Json.hasKey fields) &&
      fields.all fun field => requiredFields.contains field.1) "Idempotency record fields are invalid"
    let keyHash ← textField fields "key_hash"
    let requestFingerprint ← textField fields "request_fingerprint"
    let buildId ← textField fields "build_id"
    let executionId ← textField fields "execution_id"
    let executionPath ← textField fields "execution_path"
    let statePath ← textField fields "state_path"
    let createdAt ← textField fields "created_at"
    require (Json.eq (Json.getD fields "schema_version" .null) (.int 1))
      "Idempotency record version is invalid"
    validateSha256 keyHash "key_hash"
    validateSha256 requestFingerprint "request_fingerprint"
    require (buildId != "" && executionId != "") "Idempotency execution identity is invalid"
    require (isAbsolute executionPath && isAbsolute statePath)
      "Idempotency execution references are invalid"
    require (isInside (pathParts statePath) (pathParts executionPath))
      "Idempotency state reference escapes execution"
    return { keyHash, requestFingerprint, buildId, executionId, executionPath, statePath, createdAt }
  | _ => .error (.index "Idempotency record fields are invalid")

/-! ### Steps -/

/-- What a look at the directory of the index finds. -/
inductive IndexRoot where
  | absent | directory | tampered
  deriving DecidableEq

/-- What reading a file finds. -/
inductive IndexFile where
  | tampered
  | unreadable
  | holds (payload : Json)
  deriving DecidableEq

/-- How a change of the disk ends. -/
inductive Change where
  | made | fileExists | failed
  deriving DecidableEq

inductive IndexOp where
  | lookRoot
  | isThere (name : String)
  | read (name : String)
  | utcNow
  | ensureDirectory
  | stage (name : String) (payload : Json)
  | link (name : String) (record : IdempotencyRecord)
  | unlinkStaged (name : String)
  deriving DecidableEq

@[reducible] def IndexOp.Answer : IndexOp → Type
  | lookRoot => IndexRoot
  | isThere _ => Bool
  | read _ => IndexFile
  | utcNow => String
  | ensureDirectory | stage _ _ | link _ _ => Change
  | unlinkStaged _ => Bool

abbrev indexSignature : Signature := ⟨IndexOp, IndexOp.Answer⟩

/-- A computation of the index. -/
abbrev IndexProgram := Program indexSignature IdempotencyError

def indexStep (op : IndexOp) : IndexProgram op.Answer := .ask (S := indexSignature) op .done

/-! ### Calls -/

/-- `_path(key_hash)`. -/
def indexPath (keyHash : String) : Checks String := do
  validateSha256 keyHash "key_hash"
  return keyHash ++ ".json"

def acceptRecord (keyHash : String) (requestFingerprint : Option String) (payload : Json) :
    Checks IdempotencyRecord := do
  let record ← recordFromPayload payload
  require (record.keyHash == keyHash) "Idempotency record key hash is invalid"
  match requestFingerprint with
  | none => return record
  | some fingerprint => do
    validateSha256 fingerprint "request_fingerprint"
    if record.requestFingerprint = fingerprint then return record else .error (.conflict record)

def lookupNamed (keyHash : String) (requestFingerprint : Option String) (name : String) :
    IndexProgram (Option IdempotencyRecord) := do
  let there : Bool ← indexStep (.isThere name)
  if !there then return none
  else
    match ← indexStep (.read name) with
    | .tampered => .raise (.index "Idempotency record path is unsafe")
    | .unreadable => .raise (.index "Idempotency record is unreadable")
    | .holds payload =>
      let record ← Program.ofExcept (acceptRecord keyHash requestFingerprint payload)
      return some record

def lookupHashed (keyHash : String) (requestFingerprint : Option String) :
    IndexProgram (Option IdempotencyRecord) := do
  let name ← Program.ofExcept (indexPath keyHash)
  match ← indexStep .lookRoot with
  | .tampered => .raise (.index "Idempotency index directory is unsafe")
  | .absent => lookupNamed keyHash requestFingerprint name
  | .directory => lookupNamed keyHash requestFingerprint name

/-- A stored reference, without resolving target, plan, or worker state. -/
def lookup (host : IndexHost) (idempotencyKey : String) (requestFingerprint : Option String) :
    IndexProgram (Option IdempotencyRecord) := do
  let keyHash ← Program.ofExcept (deriveIdempotencyKeyHash host idempotencyKey)
  lookupHashed keyHash requestFingerprint

/-- The temporary file is removed, however the link ended. -/
def removeStaged (name : String) (change : Change) : IndexProgram Change := do
  let removed : Bool ← indexStep (.unlinkStaged name)
  if removed then return change else return .failed

/-- `_publish_no_replace`: how it ends. -/
def publishNoReplace (name : String) (record : IdempotencyRecord) : IndexProgram Change := do
  match ← indexStep .ensureDirectory with
  | .fileExists => return .fileExists
  | .failed => return .failed
  | .made =>
    match ← indexStep (.stage name record.toDict) with
    | .fileExists => return .fileExists
    | .failed => return .failed
    | .made =>
      let change ← indexStep (.link name record)
      removeStaged name change

structure IdempotencyBinding where
  record : IdempotencyRecord
  isNew : Bool
  deriving DecidableEq

structure BindArguments where
  idempotencyKey : String
  requestFingerprint : String
  buildId : String
  executionId : String
  executionPath : String
  statePath : Option String := none
  deriving DecidableEq

/-- The record that a bind would publish, but for its time. -/
def BindArguments.prepare (host : IndexHost) (args : BindArguments) :
    Checks (String → IdempotencyRecord) := do
  let keyHash ← deriveIdempotencyKeyHash host args.idempotencyKey
  validateSha256 args.requestFingerprint "request_fingerprint"
  let given := host.expanduser args.executionPath
  require (isAbsolute given) "Execution path must be absolute"
  let execution := host.resolve given
  let state := match args.statePath with
    | some path => host.expanduser path
    | none => Text.Path.text (execution ++ ["state.json"])
  require (isAbsolute state) "State path must be absolute"
  let state := host.resolve state
  require (isInside state execution) "State path must be inside execution path"
  return fun createdAt =>
    { keyHash, requestFingerprint := args.requestFingerprint, buildId := args.buildId
      executionId := args.executionId, executionPath := Text.Path.text execution
      statePath := Text.Path.text state, createdAt }

def bindRecord (record : IdempotencyRecord) : IndexProgram IdempotencyBinding := do
  let name ← Program.ofExcept (indexPath record.keyHash)
  match ← lookupHashed record.keyHash (some record.requestFingerprint) with
  | some existing => return ⟨existing, false⟩
  | none =>
    match ← publishNoReplace name record with
    | .made => return ⟨record, true⟩
    | .failed => .raise .osError
    | .fileExists =>
      match ← lookupHashed record.keyHash (some record.requestFingerprint) with
      | some existing => return ⟨existing, false⟩
      | none => .raise (.index "Idempotency publication was lost")

/-- Atomically bind a new key, or return the identical durable binding. -/
def bind (host : IndexHost) (args : BindArguments) : IndexProgram IdempotencyBinding := do
  let record ← Program.ofExcept (args.prepare host)
  let createdAt : String ← indexStep .utcNow
  bindRecord (record createdAt)

/-- A call of the index. -/
inductive IndexCall where
  | lookup (idempotencyKey : String) (requestFingerprint : Option String)
  | bind (args : BindArguments)

/-- What a call returns. -/
inductive IndexAnswer where
  | found (record : Option IdempotencyRecord)
  | bound (binding : IdempotencyBinding)
  deriving DecidableEq

def IndexCall.program (host : IndexHost) : IndexCall → IndexProgram IndexAnswer
  | .lookup idempotencyKey requestFingerprint =>
    IndexAnswer.found <$> Idempotency.lookup host idempotencyKey requestFingerprint
  | .bind args => IndexAnswer.bound <$> Idempotency.bind host args

/-! ### Files -/

/-- The files of an index, by their names. -/
abbrev IndexFiles := String → Option Json

def indexEnvironment : Environment indexSignature IndexFiles where
  answers
    | files, .isThere name, there => there = (files name).isSome
    | files, .read name, .holds payload => files name = some payload
    | files, .link name _, .made => files name = none
    | files, .link name _, .fileExists => (files name).isSome = true
    | _, _, _ => True
  next
    | files, .link name record, .made => Function.update files name (some record.toDict)
    | files, _, _ => files

end Audisor.Idempotency
