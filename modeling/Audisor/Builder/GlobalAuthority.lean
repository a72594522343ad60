/-
**The registry of target authority.**

* `normalizedAuthorityScope`, `deriveAuthorityKey` — the scope of a claim, and the hash it is kept under.
* `RegistryOp`, `Registry` — the file steps of the registry, and the files.
* `acquire`, `prepareReleaseEvidence`, `finalizeClaim`, `release`, `recover` — its calls, step by step.
* `registryEnvironment` — what the files answer. A lock answers anything: that it keeps others out is
  not needed here.

A file holds what the registry has written. A call that dies takes no more steps.
-/

import Audisor.Aflow.Hashing
import Audisor.Interaction.Checked
import Audisor.Interaction.Shared
import Audisor.Text.Words

namespace Audisor.Builder

open Checked Interaction Json
open Audisor.Aflow (Sha256)
open Text (Path strip)

/-! ### Scopes -/

/-- **What the registry depends on**: where a path leads (`none` for a relative one), SHA-256, and the
text of the file that a JSON value is written to. -/
structure AuthorityHost where
  resolve : String → Option Path
  sha : Sha256
  fileText : Json → String

/-- A target, and the paths below it that may be changed. -/
structure AuthorityScope where
  targetRoot : Path
  allowedPaths : List Path
  deriving DecidableEq

/-- The errors of the registry. -/
inductive AuthorityError where
  | invalid (message : String)
  | conflict (claimId : String)
  deriving DecidableEq

variable (host : AuthorityHost)

/-- `_normalized_resolved_path`. -/
def normalizedResolvedPath (value : String) : Except AuthorityError Path :=
  match host.resolve value with
  | some path => .ok path
  | none => .error (.invalid "Authority paths must be absolute")

/-- `normalized_authority_scope`. -/
def normalizedAuthorityScope (targetRoot : String) (allowedPaths : List String) :
    Except AuthorityError AuthorityScope := do
  let target ← normalizedResolvedPath host targetRoot
  refuse (allowedPaths = []) (.invalid "At least one allowed path is required")
  let resolved ← allowedPaths.mapM (normalizedResolvedPath host)
  let allowed := resolved.dedup.insertionSort fun first second =>
    Path.text first ≤ Path.text second
  refuse (allowed.any fun path => !target.isPrefixOf path)
    (.invalid "Allowed authority path escapes the target root")
  return ⟨target, allowed⟩

def AuthorityScope.payload (scope : AuthorityScope) : Json :=
  .obj [("target_root", .str scope.targetRoot.text),
    ("allowed_paths", .arr (scope.allowedPaths.map fun path => .str path.text))]

/-- `derive_authority_key`, of a scope: it is normalised once more. -/
def deriveAuthorityKey (scope : AuthorityScope) : Except AuthorityError String := do
  let again ← normalizedAuthorityScope host scope.targetRoot.text (scope.allowedPaths.map Path.text)
  return host.sha.hexdigest ((sortKeys again.payload).dumps { ensureAscii := true, compact := true })

/-! ### Records -/

/-- A claim. -/
structure AuthorityClaimRecord where
  authorityKey : String
  claimId : String
  buildId : String
  executionId : String
  idempotencyKey : String
  requestFingerprint : String
  scope : AuthorityScope
  acquiredAt : String
  deriving DecidableEq

/-- `to_dict`. -/
def AuthorityClaimRecord.toDict (record : AuthorityClaimRecord) : Json :=
  .obj [("schema_version", .int 1), ("authority_key", .str record.authorityKey),
    ("claim_id", .str record.claimId), ("build_id", .str record.buildId),
    ("execution_id", .str record.executionId), ("idempotency_key", .str record.idempotencyKey),
    ("request_fingerprint", .str record.requestFingerprint),
    ("normalized_target_root", .str record.scope.targetRoot.text),
    ("normalized_allowed_paths", .arr (record.scope.allowedPaths.map fun path => .str path.text)),
    ("acquired_at", .str record.acquiredAt), ("status", .str "active")]

/-- The evidence that a claim may be released. -/
structure AuthorityReleaseEvidenceRecord where
  authorityKey : String
  claimId : String
  buildId : String
  executionId : String
  terminalStatus : String
  claimSha256 : String
  preparedAt : String
  deriving DecidableEq

/-- `to_dict`. -/
def AuthorityReleaseEvidenceRecord.toDict (record : AuthorityReleaseEvidenceRecord) : Json :=
  .obj [("schema_version", .int 1), ("authority_key", .str record.authorityKey),
    ("claim_id", .str record.claimId), ("build_id", .str record.buildId),
    ("execution_id", .str record.executionId), ("terminal_status", .str record.terminalStatus),
    ("claim_sha256", .str record.claimSha256), ("prepared_at", .str record.preparedAt),
    ("release_condition", .str "verified_terminal_manifest")]

/-- How a claim ended. -/
inductive ReleaseOutcome where
  | released | recovered
  deriving DecidableEq

/-! ### File steps -/

/-- A step on the files of the registry. -/
inductive RegistryOp where
  | lock (authorityKey : String)
  | unlock (authorityKey : String)
  | readActive (authorityKey : String)
  | publishActive (record : AuthorityClaimRecord)
  | unlinkActive (authorityKey : String)
  | readEvidence (authorityKey claimId : String)
  | publishEvidence (record : AuthorityReleaseEvidenceRecord)
  | historyExists (authorityKey claimId : String) (outcome : ReleaseOutcome)
  | publishHistory (authorityKey claimId : String) (outcome : ReleaseOutcome)

/-- What a step answers: whether a lock was taken, what was read, whether a file was published. -/
def RegistryOp.Answer : RegistryOp → Type
  | .lock _ | .publishActive _ | .publishEvidence _ | .publishHistory _ _ _
  | .historyExists _ _ _ => Bool
  | .readActive _ => Option AuthorityClaimRecord
  | .readEvidence _ _ => Option AuthorityReleaseEvidenceRecord
  | .unlock _ | .unlinkActive _ => Unit

abbrev registrySignature : Signature := ⟨RegistryOp, RegistryOp.Answer⟩

/-- A computation of the registry. -/
abbrev RegistryProgram := Program registrySignature AuthorityError

def stepping (op : RegistryOp) : RegistryProgram op.Answer := .ask (S := registrySignature) op .done

/-- `with self._locked(authority_key)`: the body gives its exception as a value. -/
def locked {α : Type} (authorityKey : String) (body : RegistryProgram (Except AuthorityError α)) :
    RegistryProgram α := do
  let taken : Bool ← stepping (.lock authorityKey)
  if taken then
    let result ← body
    stepping (.unlock authorityKey)
    Program.ofExcept result
  else .raise (.invalid "Authority registry is busy")

/-- `_load_path`, of a record that was read: its scope and its key are checked. -/
def loadRecord (record : AuthorityClaimRecord) : Except AuthorityError AuthorityClaimRecord := do
  let scope ← normalizedAuthorityScope host record.scope.targetRoot.text
    (record.scope.allowedPaths.map Path.text)
  refuse (scope ≠ record.scope) (.invalid "Authority claim scope is not normalized")
  let expected ← deriveAuthorityKey host scope
  refuse (expected ≠ record.authorityKey) (.invalid "Authority claim scope hash is invalid")
  return record

/-! ### Calls -/

/-- The arguments of `acquire`, with the claim id and the time that it generates. -/
structure AcquireArguments where
  buildId : String
  executionId : String
  idempotencyKey : String
  requestFingerprint : String
  targetRoot : String
  allowedPaths : List String
  claimId : String
  now : String

/-- `_validate_sha256`. -/
def validateSha256 (value fieldName : String) : Except AuthorityError Unit :=
  refuse (value.length ≠ 64 ∨ ¬ value.toList.all fun c => "0123456789abcdef".toList.contains c)
    (.invalid (fieldName ++ " must be a lowercase SHA-256 digest"))

/-- The record that `acquire` wants to publish. -/
def claimRecord (args : AcquireArguments) : Except AuthorityError AuthorityClaimRecord := do
  validateSha256 args.requestFingerprint "request_fingerprint"
  let scope ← normalizedAuthorityScope host args.targetRoot args.allowedPaths
  let authorityKey ← deriveAuthorityKey host scope
  return ⟨authorityKey, args.claimId, args.buildId, args.executionId, args.idempotencyKey,
    args.requestFingerprint, scope, args.now⟩

/-- `raise GlobalAuthorityConflictError(self._load_path(active_path))`. -/
def conflictWith (found : AuthorityClaimRecord) : Except AuthorityError AuthorityClaimRecord := do
  let loaded ← loadRecord host found
  .error (.conflict loaded.claimId)

/-- **`acquire`.** -/
def acquire (args : AcquireArguments) : RegistryProgram AuthorityClaimRecord := do
  let record ← Program.ofExcept (claimRecord host args)
  locked record.authorityKey do
    match ← stepping (.readActive record.authorityKey) with
    | some found => return conflictWith host found
    | none =>
      let published : Bool ← stepping (.publishActive record)
      if published then return .ok record
      else
        match ← stepping (.readActive record.authorityKey) with
        | some found => return conflictWith host found
        | none => return .error (.invalid "Authority claim path is unsafe")

/-- The evidence of a release agrees with what would be written now. -/
def sameEvidence (found expected : AuthorityReleaseEvidenceRecord) : Prop :=
  { found with preparedAt := expected.preparedAt } = expected

instance (found expected : AuthorityReleaseEvidenceRecord) : Decidable (sameEvidence found expected) :=
  inferInstanceAs (Decidable (_ = _))

/-- `prepare_release_evidence`. -/
def prepareReleaseEvidence (claim : AuthorityClaimRecord) (terminalStatus now : String) :
    RegistryProgram AuthorityReleaseEvidenceRecord := do
  if terminalStatus ∉ ["completed", "failed"] then
    .raise (.invalid "Authority release terminal status is invalid")
  else
    locked claim.authorityKey do
      match ← stepping (.readActive claim.authorityKey) with
      | none => return .error (.invalid "Active authority claim is missing")
      | some found =>
        match loadRecord host found with
        | .error error => return .error error
        | .ok current =>
          if current ≠ claim then return .error (.invalid "Authority claim identity changed")
          else
            let record : AuthorityReleaseEvidenceRecord :=
              ⟨current.authorityKey, current.claimId, current.buildId, current.executionId,
                terminalStatus, host.sha.hexdigest (host.fileText current.toDict), now⟩
            match ← stepping (.readEvidence claim.authorityKey claim.claimId) with
            | some evidence =>
              if sameEvidence evidence record then return .ok evidence
              else return .error (.invalid "Authority release evidence conflicts")
            | none =>
              let published : Bool ← stepping (.publishEvidence record)
              if published then return .ok record
              else
                match ← stepping (.readEvidence claim.authorityKey claim.claimId) with
                | some evidence => return .ok evidence
                | none => return .error (.invalid "Authority release evidence path is unsafe")

/-- `_finalize_claim`. -/
def finalizeClaim (claim : AuthorityClaimRecord) (outcome : ReleaseOutcome) : RegistryProgram Unit :=
  locked claim.authorityKey do
    let finished : Bool ← stepping (.historyExists claim.authorityKey claim.claimId outcome)
    let active ← stepping (.readActive claim.authorityKey)
    match finished, active.map (loadRecord host) with
    | true, none => return .ok ()
    | true, some (.error error) | false, some (.error error) => return .error error
    | true, some (.ok current) =>
      if current.claimId ≠ claim.claimId then
        return .error (.invalid "Authority claim identity changed")
      else
        stepping (.unlinkActive claim.authorityKey)
        return .ok ()
    | false, none => return .error (.invalid "Active authority claim is missing")
    | false, some (.ok current) =>
      if current ≠ claim then return .error (.invalid "Authority claim identity changed")
      else
        let published : Bool ← stepping (.publishHistory claim.authorityKey claim.claimId outcome)
        if published then
          stepping (.unlinkActive claim.authorityKey)
          return .ok ()
        else return .error (.invalid "File exists")

/-- The arguments of `release`. -/
structure ReleaseArguments where
  claim : AuthorityClaimRecord
  terminalStatus : String
  terminalManifestSha256 : String
  releaseEvidenceSha256 : String
  reconciliationVerified : Bool
  now : String

/-- **`release`.** -/
def release (args : ReleaseArguments) : RegistryProgram Unit := do
  Program.ofExcept (refuse (args.reconciliationVerified = false)
    (.invalid "Authority release requires verified reconciliation"))
  Program.ofExcept (refuse (args.terminalStatus ∉ ["completed", "failed"])
    (.invalid "Interrupted or invalid execution authority must be retained"))
  Program.ofExcept (validateSha256 args.terminalManifestSha256 "terminal_manifest_sha256")
  Program.ofExcept (validateSha256 args.releaseEvidenceSha256 "release_evidence_sha256")
  let evidence ← prepareReleaseEvidence host args.claim args.terminalStatus args.now
  Program.ofExcept (refuse (host.sha.hexdigest (host.fileText evidence.toDict) ≠ args.releaseEvidenceSha256)
    (.invalid "Authority release evidence hash does not match"))
  finalizeClaim host args.claim .released

/-- The arguments of `recover`. -/
structure RecoverArguments where
  authorityKey : String
  expectedClaimId : String
  recoveryEvidenceSha256 : String
  safeToRelease : Bool
  reason : String

/-- **`recover`.** -/
def recover (args : RecoverArguments) : RegistryProgram Unit := do
  Program.ofExcept (refuse (args.safeToRelease = false)
    (.invalid "Recovery did not establish safe release"))
  Program.ofExcept (refuse (strip args.reason.toList = [])
    (.invalid "Recovery requires a reason"))
  Program.ofExcept (validateSha256 args.recoveryEvidenceSha256 "recovery_evidence_sha256")
  Program.ofExcept (validateSha256 args.authorityKey "authority_key")
  match ← stepping (.readActive args.authorityKey) with
  | none => .raise (.invalid "Active authority claim is missing")
  | some found =>
    let active ← Program.ofExcept (loadRecord host found)
    Program.ofExcept (refuse (active.claimId ≠ args.expectedClaimId)
      (.invalid "Authority recovery identity does not match"))
    finalizeClaim host active .recovered

/-- A call of the registry. -/
inductive RegistryCall where
  | acquire (args : AcquireArguments)
  | release (args : ReleaseArguments)
  | recover (args : RecoverArguments)

/-- What a call does; a claim that was acquired is its value. -/
def RegistryCall.program : RegistryCall → RegistryProgram (Option AuthorityClaimRecord)
  | .acquire args => some <$> Builder.acquire host args
  | .release args => (fun _ => none) <$> Builder.release host args
  | .recover args => (fun _ => none) <$> Builder.recover host args

/-! ### Files -/

/-- The files of the registry. -/
structure Registry where
  active : String → Option AuthorityClaimRecord := fun _ => none
  evidence : String → String → Option AuthorityReleaseEvidenceRecord := fun _ _ => none
  history : String → String → ReleaseOutcome → Bool := fun _ _ _ => false

/-- What the files answer, and what a step makes of them. A link is not made over a file. -/
def registryEnvironment : Environment registrySignature Registry where
  answers
    | files, .readActive authorityKey, found => found = files.active authorityKey
    | files, .publishActive record, published =>
      published = (files.active record.authorityKey).isNone
    | files, .readEvidence authorityKey claimId, found =>
      found = files.evidence authorityKey claimId
    | files, .publishEvidence record, published =>
      published = (files.evidence record.authorityKey record.claimId).isNone
    | files, .historyExists authorityKey claimId outcome, finished =>
      finished = files.history authorityKey claimId outcome
    | files, .publishHistory authorityKey claimId outcome, published =>
      published = !files.history authorityKey claimId outcome
    | _, .lock _, _ | _, .unlock _, _ | _, .unlinkActive _, _ => True
  next
    | files, .publishActive record, true =>
      { files with active := Function.update files.active record.authorityKey (some record) }
    | files, .unlinkActive authorityKey, _ =>
      { files with active := Function.update files.active authorityKey none }
    | files, .publishEvidence record, true =>
      { files with
        evidence := Function.update files.evidence record.authorityKey
          (Function.update (files.evidence record.authorityKey) record.claimId (some record)) }
    | files, .publishHistory authorityKey claimId outcome, true =>
      { files with
        history := Function.update files.history authorityKey
          (Function.update (files.history authorityKey) claimId
            (Function.update (files.history authorityKey claimId) outcome true)) }
    | files, .publishActive _, false | files, .publishEvidence _, false
    | files, .publishHistory _ _ _, false | files, .lock _, _ | files, .unlock _, _
    | files, .readActive _, _ | files, .readEvidence _ _, _ | files, .historyExists _ _ _, _ => files

end Audisor.Builder
