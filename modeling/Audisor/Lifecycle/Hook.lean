/-
**The control in front of every tool call.**

* `isMutationAttempt`, `requestedTargets` — which calls mutate, and what they name.
* `StateFile`, `loadActiveState` — the content of `active-lock.json`.
* `checkSliceAuthority`, `verifyActiveState`, `targetsAuthorized` — the two schemes of authority.
* **`evaluateHookPayload`** — the decision on one payload, and its audit record.

The host is a POSIX host.
-/

import Audisor.Fix.PathSecurity
import Audisor.Json.Str
import Audisor.Lifecycle.Contracts

namespace Audisor.Lifecycle

open Checked Json Text
open Audisor.Aflow (Sha256)
open Audisor.Fix (Disk validateRelativePath checkPathsAllowed)

/-- What the control asks of its host. -/
structure HookHost where
  repr : PythonRepr
  /-- `re`'s `\w`. -/
  isWord : Char → Bool
  /-- `Path(__file__).resolve().parents[5]`. -/
  repoRoot : Path
  /-- `Path(value).resolve()`, unless it raises. -/
  resolve : String → Option Path
  disk : Disk
  /-- `datetime.now(UTC).isoformat()`. -/
  now : String

variable (sha : Sha256) (host : HookHost)

/-! ### Mutations -/

/-- `MUTATING_TOOL_NAMES`. -/
def mutatingToolNames : List String :=
  ["applypatch", "edit", "write", "writefile", "filesystemwrite", "create", "delete", "rename",
    "move", "patch", "replace"]

/-- `READ_ONLY_TOOL_NAMES`. -/
def readOnlyToolNames : List String :=
  ["read", "readfile", "grep", "search", "find", "list", "cat", "head", "tail", "ls", "dir",
    "echo", "print", "view", "show", "get", "fetch", "query", "status"]

/-- A letter as `re.I` compares it with an ASCII letter. -/
def foldChar (c : Char) : Char :=
  if 'A' ≤ c ∧ c ≤ 'Z' then Char.ofNat (c.toNat + 32)
  else if c = '\u0130' ∨ c = '\u0131' then 'i'
  else if c = '\u017f' then 's'
  else if c = '\u212a' then 'k'
  else c

/-- The text behind a word, where the text starts with it. -/
def after (word : String) (text : List Char) : Option (List Char) :=
  if word.toList.isPrefixOf text then some (text.drop word.toList.length) else none

/-- `\s+` and then one of the words, at the start of a text. -/
def spacedWord (words : List String) (text : List Char) : Bool :=
  (text.head?.any isWhitespace) &&
    words.any fun word => (after word (text.dropWhile isWhitespace)).isSome

/-- `MUTATING_COMMAND`, at the start of a text. -/
def opensMutation (text : List Char) : Bool :=
  (["apply_patch", "set-content", "out-file", "add-content", "new-item", "remove-item", "move-item",
      "copy-item"].any fun word => (after word text).isSome) ||
    (after "git" text).any (spacedWord ["add", "commit", "reset", "checkout"]) ||
    (after "sed" text).any (spacedWord ["-i"]) ||
    (after "tee" text).any (fun rest => rest.head?.any isWhitespace) ||
    -- white space behind the mark is itself a character that is no `&` and no bar
    (after ">" text).any fun rest => rest.head?.any fun c => c ≠ '&' && c ≠ '|'

/-- `bool(MUTATING_COMMAND.search(text))`. -/
def isMutatingCommand (text : String) : Bool :=
  (text.toList.map foldChar).tails.any opensMutation

def firstTruthy (fields : Dict) (keys : List String) : Option Json :=
  keys.findSome? fun key => (get? fields key).filter Json.truthy

/-- `_text(value)`. -/
def textOf : Json → String
  | .str text => text
  | value => (sortKeys (settled value)).dumps { ensureAscii := false }

/-- `payload.get("tool_input") or payload.get("input") or payload.get("command") or ""`. -/
def sourceOf (payload : Dict) : Json :=
  (firstTruthy payload ["tool_input", "input", "command"]).getD (.str "")

/-- **`is_mutation_attempt(payload)`.** -/
def isMutationAttempt (payload : Dict) : Bool :=
  let rawName := ((firstTruthy payload ["tool_name", "tool"]).map (strOf host.repr)).getD ""
  let name := String.ofList (lower (rawName.toList.filter fun c => c ≠ '_'))
  if name ∈ mutatingToolNames then true
  else if name ∈ readOnlyToolNames then false
  else if name ∈ ["bash", "shell", "command", "powershell"] then
    isMutatingCommand (textOf (sourceOf payload))
  else if "mcp__".toList.isPrefixOf (lower rawName.toList) then false
  else name ≠ ""

/-! ### Targets -/

/-- `^[A-Za-z]:[/\\]`, on a text without backslashes. -/
def hasDrive : List Char → Bool
  | letter :: ':' :: '/' :: _ => letter.isAlpha
  | _ => false

/-- The path below the directory that has the name of the repository. -/
def belowRepository (path : List Char) : Option String :=
  let rootName := lower (host.repoRoot.getLast?.getD "").toList
  let parts := ((path.drop 2).dropWhile fun c => c = '/').splitOn '/'
  if parts.any fun part => lower part = rootName then
    some (String.ofList (['/'].intercalate
      ((parts.dropWhile fun part => lower part ≠ rootName).drop 1)))
  else none

/-- A path that is named from a root, relative to the repository. -/
def relativeToRepository (value : String) (path : List Char) : Option String :=
  if hasDrive path then belowRepository host path
  else
    match host.resolve value with
    | none => none
    | some target =>
      if host.repoRoot.isPrefixOf target then
        some (if target = host.repoRoot then "." else target.relativeTo host.repoRoot)
      else none

/-- `_normal_path(value)`. -/
def normalPath (value : Json) : Option String := do
  let .str text := value | none
  let path := text.toList.map fun c => if c = '\\' then '/' else c
  guard (path ≠ [])
  let path ←
    if hasDrive path ∨ ':' ∈ path ∨ path.head? = some '/' then relativeToRepository host text path
    else some (String.ofList path)
  guard (¬ (path.toList.splitOn '/').any fun part => part = [] ∨ part = ['.'] ∨ part = ['.', '.'])
  return path

/-- `PATCH_TARGET.findall(text)`: one target for each line that opens a file. -/
def patchTargets (text : String) : List String :=
  (text.toList.splitOn '\n').filterMap fun line =>
    ["+++ b/", "*** Add File: ", "*** Update File: ", "*** Delete File: "].findSome? fun mark =>
      match after mark line with
      | none => none
      | some rest =>
        let target := rest.takeWhile fun c => c ≠ '\r'
        if target = [] then none else some (String.ofList target)

def isPathChar (c : Char) : Bool := host.isWord c || c == '.' || c == '/' || c == '-'

/-- `PATH_IN_COMMAND.findall(text)`, `before` being the character in front of the text. -/
def commandPaths (before : Option Char) : List Char → Nat → List String
  | [], _ => []
  | c :: rest, skip + 1 => commandPaths (some c) rest skip
  | c :: rest, 0 =>
    let free := !before.any fun c => host.isWord c || c == '.' || c == '-'
    match after "openai_project/" (c :: rest) with
    | some tail =>
      let path := tail.takeWhile (isPathChar host)
      if free ∧ path ≠ [] then
        ("openai_project/" ++ String.ofList path) ::
          commandPaths (some c) rest ("openai_project/".length + path.length - 1)
      else commandPaths (some c) rest 0
    | none => commandPaths (some c) rest 0

/-- The targets that a text names: those of its patches, or else the paths in it. -/
def targetsIn (text : String) : Json :=
  let found := patchTargets text
  .arr ((if found = [] then commandPaths host none text.toList 0 else found).map .str)

/-- The targets that a payload states, before they are normalized. -/
def rawTargets (payload : Dict) : Json :=
  match getD payload "requested_targets" .null with
  | .null =>
    match sourceOf payload with
    | .obj source =>
      match get? source "command" with
      | some (.str command) => targetsIn host command
      | _ => (firstTruthy source ["requested_targets", "paths"]).getD
          (((get? source "path").map fun path => .arr [path]).getD .null)
    | source => targetsIn host (textOf source)
  | stated => stated

/-- **`requested_targets(payload)`.** -/
def requestedTargets (payload : Dict) : Option (List String) :=
  match rawTargets host payload with
  | .arr [] => none
  | .arr items => items.mapM (normalPath host)
  | _ => none

/-! ### The state file -/

/-- The file `active-lock.json`. -/
inductive StateFile where
  | absent
  | unreadable (error : Raised)
  | written (content : String)

/-- `_load_active_state(state_root)`. -/
def loadActiveState : StateFile → Except Raised (Option Dict)
  | .absent => .ok none
  | .unreadable error => .error error
  | .written content =>
    match (loads content).map settled with
    | none => .error { typeName := "JSONDecodeError", message := "invalid JSON" }
    | some (.obj state) => .ok (some state)
    | some _ => .error (lifecycleError "active lock state is malformed")

/-! ### Authority by slices -/

/-- `any(..)` over the allowed paths of a slice. -/
def anyInside (target : String) : List Json → Except Raised Bool
  | [] => .ok false
  | .str path :: rest => if isInside target path then .ok true else anyInside target rest
  | _ :: _ => .error (typeError "argument should be a str")

/-- What the slices say of one target: `none` when a locked slice has it. -/
def sliceObjection (target : String) : Dict → Except Raised (Option String)
  | [] => .ok (some ("target " ++ target ++ " does not belong to any authorized slice"))
  | (sliceId, .obj slice) :: rest =>
    match getD slice "allowed_paths" (.arr []) with
    | .arr allowed => do
      if ← anyInside target allowed then
        if holdsText slice "status" "locked" then return none
        return some ("target " ++ target ++ " belongs to slice '" ++ sliceId ++
          "' which is in state '" ++ strOf host.repr (getD slice "status" (.str "")) ++
          "' (not locked)")
      sliceObjection target rest
    | _ => sliceObjection target rest
  | _ :: rest => sliceObjection target rest

def slicesObjection (slices : Dict) : List String → Except Raised (Option String)
  | [] => .ok none
  | target :: rest => do
    match ← sliceObjection host target slices with
    | some reason => return some reason
    | none => slicesObjection slices rest

/-- **`_check_slice_authority(state, targets)`.** -/
def checkSliceAuthority (state : Dict) (targets : List String) : Except Raised (Bool × String) :=
  match less (getD state "schema_version" (.int 1)) (.int 2) with
  | none => .error (typeError "'<' not supported")
  | some true => .ok (true, "legacy_global_check")
  | some false =>
    match getD state "slices" .null with
    | .obj [] => .ok (true, "no_slices_global_check")
    | .obj slices => do
      match ← slicesObjection host (entries slices) targets with
      | some reason => return (false, reason)
      | none => return (true, "slice_authority_verified")
    | _ => .ok (true, "no_slices_global_check")

/-! ### Authority by the lock -/

/-- `_ready_contract(contract)`. -/
def readyContract (contract : Dict) : Bool :=
  match get? contract "readiness" with
  | some (.obj readiness) =>
    verifyContract sha contract && holdsText readiness "aflow_decision" "no_material_gap" &&
      holdsText readiness "contract_decision" "no_material_gap" &&
      decide (getD readiness "unresolved_items" .null = .arr []) &&
      match getD readiness "execution_permitted_when" .null with
      | .obj gates => (entries gates).all fun gate => gate.2 = .bool true
      | _ => false
  | _ => false

/-- **`verify_active_state(state)`.** -/
def verifyActiveState (state : Dict) : Except Raised (Bool × String × Option Dict) :=
  match get? state "primary_lock", get? state "execution_contract" with
  | some (.obj lock), some (.obj contract) => do
    if (← verifyLock sha lock) = false then
      return (false, "primary lock verification failed", none)
    if verifyContract sha contract = false ∨ readyContract sha contract = false then
      return (false, "execution contract verification failed", none)
    let bound := (field? lock "canonical_payload" "execution_contract_sha256").getD .null
    let actual := (field? contract "lock_payload" "sha256").getD .null
    if Json.eq bound actual = false then
      return (false, "primary lock is not bound to the execution contract", none)
    if holdsText state "drift_state" "valid" = false then
      return (false, "contract drift state is not valid", none)
    return (true, "verified active execution state", some contract)
  | _, _ => .ok (false, "active state lacks a primary lock and execution contract", none)

/-- `PathSecurityError(message)`. -/
def pathSecurityError (message : String) : Raised := { typeName := "PathSecurityError", message }

def pathsIn (value : Json) : Except Raised (List String) := do
  (← iterate value).mapM fun
    | .str path =>
      match validateRelativePath path with
      | .ok _ => .ok path
      | .error reason => .error (pathSecurityError reason)
    | _ => .error (pathSecurityError "path must be a non-empty string")

def plannedPaths (contract : Dict) : Except Raised (List String) :=
  match getD contract "implementation_plan" (.arr []) with
  | .arr actions => do
    let targets ← actions.mapM fun
      | .obj action => iterate (getD action "target_paths" (.arr []))
      | _ => .ok []
    return targets.flatten.filterMap fun
      | .str path => some path
      | _ => none
  | _ => .ok []

def authorityList (contract : Dict) (key : String) : Json :=
  match getD contract "authority" (.obj []) with
  | .obj authority => getD authority key (.arr [])
  | _ => .arr []

/-- **`_targets_authorized(targets, contract)`.** -/
def targetsAuthorized (targets : List String) (contract : Dict) : Except Raised (Bool × String) := do
  let planned ← plannedPaths contract
  let allowed ← pathsIn (authorityList contract "allowed_paths")
  let prohibited ← pathsIn (authorityList contract "prohibited_paths")
  match checkPathsAllowed host.disk targets allowed prohibited host.disk.workingDirectory with
  | .error reason => .error (pathSecurityError reason)
  | .ok (some reason) => return (false, reason)
  | .ok none =>
    match targets.find? fun target => !planned.any (isInside target) with
    | some target =>
      return (false, "target is absent from the accepted action set: " ++ target)
    | none => return (true, "requested targets are authorized")

/-! ### The decision -/

/-- What the control finds, before the audit. -/
structure Finding where
  decision : String
  reason : String
  targets : List String := []
  lockPresent : Bool := false
  lockValid : Bool := false
  authorityValid : Bool := false

def Finding.raised (finding : Finding) (error : Raised) : Finding :=
  { finding with decision := "error", reason := "hook verification error: " ++ error.typeName }

def findingOn (state : Dict) (found : Finding) : Finding :=
  match checkSliceAuthority host state found.targets with
  | .error error => found.raised error
  | .ok (sliceOk, sliceReason) =>
    if sliceReason ∉ ["legacy_global_check", "no_slices_global_check"] then
      { found with
        decision := if sliceOk then "allow" else "deny", reason := sliceReason
        lockValid := sliceOk, authorityValid := sliceOk }
    else
      match verifyActiveState sha state with
      | .error error => found.raised error
      | .ok (_, reason, none) => { found with decision := "deny", reason }
      | .ok (_, _, some contract) =>
        match targetsAuthorized host found.targets contract with
        | .error error => { found with lockValid := true }.raised error
        | .ok (authorized, reason) =>
          { found with
            decision := if authorized then "allow" else "deny", reason
            lockValid := true, authorityValid := authorized }

def findingOf (payload : Dict) (file : StateFile) : Finding :=
  if isMutationAttempt host payload then
    let found : Finding :=
      { decision := "allow", reason := "read-only operation"
        targets := (requestedTargets host payload).getD [] }
    match loadActiveState file with
    | .error error => found.raised error
    | .ok state =>
      let found := { found with lockPresent := state.isSome }
      if found.targets = [] then
        { found with decision := "deny", reason := "mutation targets are missing or ambiguous" }
      else
        match state with
        | none =>
          { found with decision := "deny", reason := "no active Audisor execution lock exists" }
        | some state => findingOn sha host state found
  else { decision := "allow", reason := "read-only operation" }

/-- The decision that `evaluate_hook_payload` returns. -/
structure Evaluation where
  decision : String
  hostPermissionDecision : Option String
  reason : String
  auditPath : String

def auditRecord (payload : Dict) (found : Finding) (permission : Option String) : Dict :=
  [("event", .str (strOf host.repr (getD payload "hook_event_name" (.str "PreToolUse")))),
    ("timestamp", .str host.now), ("hook_name", .str "audisor_pretool"),
    ("mutation_tool", .str (((firstTruthy payload ["tool_name", "tool"]).map
      (strOf host.repr)).getD "unknown")),
    ("requested_targets", .arr (found.targets.map .str)), ("lock_present", .bool found.lockPresent),
    ("lock_valid", .bool found.lockValid), ("authority_valid", .bool found.authorityValid),
    ("decision", .str found.decision), ("internal_decision", .str found.decision),
    ("host_permission_decision", (permission.map .str).getD .null), ("process_exit_code", .int 0),
    ("reason", .str found.reason)]

/-- **`evaluate_hook_payload(payload, state_root)`.** `audit` writes the record: its path, or the
`HookAuditError`. -/
def evaluateHookPayload (audit : Dict → Except Raised String) (payload : Dict) (file : StateFile) :
    Except Raised Evaluation := do
  let found := findingOf sha host payload file
  let permission := if found.decision = "allow" then none else some "deny"
  let auditPath ← audit (auditRecord host payload found permission)
  return { decision := found.decision, hostPermissionDecision := permission
           reason := found.reason, auditPath }

end Audisor.Lifecycle
