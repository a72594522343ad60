/-
**The bytes of the active state.**

* `StateDirectory`, `StateDisk` — `active-lock.json` and its temporary file, and where the disk fails.
* `writeStateFile` — `write_active_state`, down to the bytes. `writeStateFile_outcome` — it ends as
  `writeActiveState` does.
* `writeStateFile_ends` — a call that raises leaves the file as it was.
* `NeverReplaced` — the file changes only if it was absent or names the operation of the call, and
  otherwise the call raises. **`neverReplaced_iff`** — this holds exactly when no verified call meets an
  object whose `operation_id` is falsy, and not its own.
-/

import Audisor.Lifecycle.MutationGate
import Audisor.Lifecycle.SealedPlan

namespace Audisor.Lifecycle

open Checked Json Text
open Audisor.Aflow (Sha256 sha256)

/-! ### The files -/

/-- The directory of the state. -/
structure StateDirectory where
  /-- `active-lock.json`. -/
  active : Option ByteArray := none
  /-- `active-lock.json.tmp`. -/
  temporary : Option ByteArray := none

/-- The exceptions that the disk raises at the steps of a write. -/
structure StateDisk where
  readFails : Option Raised := none
  mkdirFails : Option Raised := none
  /-- What the temporary file holds when its write fails. -/
  writeFails : Option (ByteArray × Raised) := none
  replaceFails : Option Raised := none

/-- `json.loads(path.read_text(encoding="utf-8"))`, of a file that is read. -/
def parseState (bytes : ByteArray) : ActiveFile :=
  match decode bytes with
  | none => .malformed { typeName := "UnicodeDecodeError", message := "invalid start byte" }
  | some text =>
    match loads (String.ofList (universalNewlines text)) with
    | none => .malformed { typeName := "JSONDecodeError", message := "invalid JSON" }
    | some value => .holds (settled value)

def readState (disk : StateDisk) : Option ByteArray → ActiveFile
  | none => .absent
  | some bytes =>
    match disk.readFails with
    | some error => .malformed error
    | none => parseState bytes

/-! ### The write -/

variable {isAlnum : Char → Bool} (sha : Sha256) (host : ReviewHost isAlnum) (disk : StateDisk)

def attempt : Option Raised → Run StateDirectory Raised Unit
  | some error => Run.raise error
  | none => pure ()

/-- `temporary.write_text(..)`. -/
def writeTemporary (bytes : ByteArray) : Run StateDirectory Raised Unit :=
  match disk.writeFails with
  | some (written, error) => do
    Run.change fun files : StateDirectory => { files with temporary := some written }
    Run.raise error
  | none => Run.change fun files : StateDirectory => { files with temporary := some bytes }

/-- The directory, the temporary file, and `os.replace`. -/
def replaceState (bytes : ByteArray) : Run StateDirectory Raised Unit := do
  attempt disk.mkdirFails
  writeTemporary disk bytes
  attempt disk.replaceFails
  Run.change fun _ : StateDirectory => { active := some bytes, temporary := none }

def stateBytes (operationId : String) (lock contract : Dict) : ByteArray :=
  encode (dumpsIndented (envelope operationId lock contract) ++ "\n").toList

/-- **`write_active_state(state_root, operation_id=.., .., drift_state=..)`.** -/
def writeStateFile (operationId : String) (lock contract : Dict) (driftState : String := "valid") :
    Run StateDirectory Raised Unit := do
  let verified ← Run.ofExcept (verifyLock sha lock)
  if verified = false then
    Run.raise (lifecycleError "Refusing to write state: lock verification failed")
  else if verifyContract sha contract = false then
    Run.raise (lifecycleError "Refusing to write state: contract verification failed")
  else if driftState ≠ "valid" then
    Run.raise (lifecycleError
      "Refusing to write state: drift_state must be 'valid' for a new envelope")
  else
    let active ← Run.look StateDirectory.active
    match stateConflict host operationId (readState disk active) with
    | some error => Run.raise error
    | none => replaceState disk (stateBytes operationId lock contract)

variable {sha host disk} {files : StateDirectory} {operationId driftState : String}
  {lock contract : Dict} {bytes : ByteArray}

/-- The first exception of the disk, once the state has been read. -/
def StateDisk.fault (disk : StateDisk) : Option Raised :=
  (disk.mkdirFails.or (disk.writeFails.map Prod.snd)).or disk.replaceFails

/-- **The file is replaced whole or not at all.** -/
theorem replaceState_ends :
    Ends (replaceState disk bytes) files (fun _ after => disk.fault = none ∧ after.active = some bytes)
      fun error after => disk.fault = some error ∧ after.active = files.active := by
  obtain ⟨readFails, mkdirFails, writeFails, replaceFails⟩ := disk
  cases mkdirFails with
  | some error => exact ⟨rfl, rfl⟩
  | none =>
    cases writeFails with
    | some fault => exact ⟨rfl, rfl⟩
    | none =>
      cases replaceFails with
      | some error => exact ⟨rfl, rfl⟩
      | none => exact ⟨rfl, rfl⟩

/-- **A call that returns has found no conflict, and one that raises leaves the file as it was.** -/
theorem writeStateFile_ends :
    Ends (writeStateFile sha host disk operationId lock contract driftState) files
      (fun _ after => stateConflict host operationId (readState disk files.active) = none ∧
        verifyLock sha lock = .ok true ∧ verifyContract sha contract = true ∧ driftState = "valid" ∧
          after.active = some (stateBytes operationId lock contract))
      fun _ after => after.active = files.active := by
  refine ends_bind (ends_ofExcept (fun verified lockHolds => ?_) fun _ _ => rfl)
  cases verified with
  | false => exact ends_raise rfl
  | true =>
    rw [if_neg (Bool.noConfusion : true ≠ false)]
    by_cases broken : verifyContract sha contract = false
    · rw [if_pos broken]
      exact ends_raise rfl
    rw [if_neg broken]
    by_cases drifted : driftState ≠ "valid"
    · rw [if_pos drifted]
      exact ends_raise rfl
    rw [if_neg drifted]
    refine ends_bind (ends_of_ok (run_look _ _) ?_)
    cases conflict : stateConflict host operationId (readState disk files.active) with
    | some error => exact ends_raise rfl
    | none =>
      refine replaceState_ends.mono (fun _ after replaced => ?_) fun _ after failed => failed.2
      exact ⟨rfl, lockHolds, Bool.eq_true_of_not_eq_false broken, not_not.mp drifted, replaced.2⟩

theorem writeStateFile_returns (lockHolds : verifyLock sha lock = .ok true)
    (contractHolds : verifyContract sha contract = true)
    (free : stateConflict host operationId (readState {} files.active) = none) :
    writeStateFile sha host {} operationId lock contract "valid" files =
      (.ok (), { active := some (stateBytes operationId lock contract), temporary := none }) := by
  rw [writeStateFile, run_bind, run_ofExcept, lockHolds]
  simp only [if_neg (Bool.noConfusion : true ≠ false), contractHolds, ne_eq, not_true_eq_false,
    if_false, run_bind, run_look, free]
  rfl

/-! ### What a call may replace -/

def Names (active : Option ByteArray) (operationId : String) : Prop :=
  ∃ bytes fields, active = some bytes ∧ parseState bytes = .holds (.obj fields) ∧
    get? fields "operation_id" = some (.str operationId)

/-- **The file holds an object that names no operation**: its `operation_id` is absent or falsy, and not
the one of the call. -/
def Unnamed (active : Option ByteArray) (operationId : String) : Prop :=
  ∃ bytes fields, active = some bytes ∧ parseState bytes = .holds (.obj fields) ∧
    (getD fields "operation_id" .null).truthy = false ∧
      get? fields "operation_id" ≠ some (.str operationId)

theorem parseState_ne_absent : parseState bytes ≠ .absent := by
  rw [parseState]
  split
  · exact ActiveFile.noConfusion
  · split <;> exact ActiveFile.noConfusion

theorem stateConflict_object {fields : Dict} :
    stateConflict host operationId (.holds (.obj fields)) = none ↔
      get? fields "operation_id" = some (.str operationId) ∨
        (getD fields "operation_id" .null).truthy = false := by
  have same : Json.eq (getD fields "operation_id" .null) (.str operationId) = true ↔
      get? fields "operation_id" = some (.str operationId) := by
    rw [getD]
    constructor
    · intro same
      have owner := eq_str same
      cases found : get? fields "operation_id" with
      | none =>
        rw [found] at owner
        cases owner
      | some value =>
        rw [found, Option.getD_some] at owner
        rw [owner]
    · intro found
      rw [found, Option.getD_some, Json.eq]
      exact beq_self_eq_true _
  rw [stateConflict, ← same]
  split
  · rename_i other
    exact iff_of_false (Option.some_ne_none _) (by simp [other.1, other.2])
  · rename_i own
    refine iff_of_true rfl ?_
    by_contra both
    rw [not_or, Bool.not_eq_true, Bool.not_eq_false] at both
    exact own ⟨both.2, both.1⟩

theorem stateConflict_none {active : Option ByteArray} :
    stateConflict host operationId (readState disk active) = none ↔
      active = none ∨ disk.readFails = none ∧ (Names active operationId ∨ Unnamed active operationId) := by
  cases active with
  | none => exact iff_of_true rfl (Or.inl rfl)
  | some bytes =>
    have held : readState disk (some bytes) =
        disk.readFails.elim (parseState bytes) ActiveFile.malformed := by
      rw [readState]
      cases disk.readFails <;> rfl
    rw [held]
    cases disk.readFails with
    | some error =>
      refine iff_of_false ?_ (by simp)
      rw [Option.elim_some, stateConflict]
      exact Option.some_ne_none _
    | none =>
      rw [Option.elim_none]
      simp only [reduceCtorEq, false_or, true_and, Names, Unnamed, Option.some.injEq,
        exists_and_left, exists_eq_left']
      cases parsed : parseState bytes with
      | absent => exact absurd parsed parseState_ne_absent
      | malformed error => simp [stateConflict]
      | holds value =>
        cases value with
        | obj fields =>
          rw [stateConflict_object]
          simp only [ActiveFile.holds.injEq, Json.obj.injEq, exists_eq_left']
          by_cases named : get? fields "operation_id" = some (.str operationId) <;> simp [named]
        | _ => simp [stateConflict]

/-! ### The law -/

/-- **The active state is never silently replaced**: the file changes only if it was absent or names the
operation of the call; when it is there and names none or another, the call raises and the file stays. -/
structure NeverReplaced (call : Run StateDirectory Raised Unit) (operationId : String)
    (files : StateDirectory) : Prop where
  changed : (call files).2.active ≠ files.active →
    files.active = none ∨ Names files.active operationId
  refused : files.active ≠ none → ¬ Names files.active operationId →
    (∃ error, (call files).1 = .error error) ∧ (call files).2.active = files.active

/-- **The state is never silently replaced exactly when no verified call meets an unnamed object**,
whatever the disk does. -/
theorem neverReplaced_iff {isAlnum : Char → Bool} (sha : Sha256) (host : ReviewHost isAlnum)
    (operationId driftState : String) (lock contract : Dict) (files : StateDirectory) :
    (∀ disk, NeverReplaced (writeStateFile sha host disk operationId lock contract driftState)
        operationId files) ↔
      (verifyLock sha lock = .ok true → verifyContract sha contract = true → driftState = "valid" →
        ¬ Unnamed files.active operationId) := by
  constructor
  · intro law lockHolds contractHolds valid unnamed
    obtain ⟨bytes, fields, there, parsed, _, other⟩ := id unnamed
    have unnames : ¬ Names files.active operationId := by
      rintro ⟨own, named, same, parsed', stated⟩
      obtain rfl := Option.some.inj (there.symm.trans same)
      cases parsed.symm.trans parsed'
      exact other stated
    have free : stateConflict host operationId (readState {} files.active) = none :=
      stateConflict_none.mpr (Or.inr ⟨rfl, Or.inr unnamed⟩)
    obtain ⟨⟨error, raised⟩, _⟩ := (law {}).refused (by rw [there]; exact Option.some_ne_none _) unnames
    rw [valid, writeStateFile_returns lockHolds contractHolds free] at raised
    cases raised
  · intro condition disk
    have ends : Ends (writeStateFile sha host disk operationId lock contract driftState) files _ _ :=
      writeStateFile_ends
    generalize outcome : writeStateFile sha host disk operationId lock contract driftState files =
      ended
    obtain ⟨result, after⟩ := ended
    cases result with
    | error error =>
      have kept := ends.of_error outcome
      refine ⟨fun changed => absurd ?_ changed, fun _ _ => ⟨⟨error, ?_⟩, ?_⟩⟩ <;> rw [outcome]
      · exact kept
      · exact kept
    | ok value =>
      obtain ⟨free, lockHolds, contractHolds, valid, _⟩ := ends.of_ok outcome
      have there : files.active = none ∨ Names files.active operationId := by
        rcases stateConflict_none.mp free with absent | ⟨_, named | unnamed⟩
        · exact Or.inl absent
        · exact Or.inr named
        · exact absurd unnamed (condition lockHolds contractHolds valid)
      exact ⟨fun _ => there, fun present unnames => (there.elim present unnames).elim⟩

/-! ### An object without an operation -/

theorem verified_pair : ∃ lock contract,
    verifyLock sha256 lock = .ok true ∧ verifyContract sha256 contract = true := by
  obtain ⟨_, _, _, contract, lock, _, locked, assembled⟩ := otherReview_returned
  exact ⟨lock, contract, locked.lockHolds, assembled.verified⟩

def emptyObject : StateDirectory := { active := some (encode "\x7b\x7d".toList) }

theorem emptyObject_parsed : parseState (encode "\x7b\x7d".toList) = .holds (.obj []) := by
  rw [parseState, decode_encode]
  rfl

theorem emptyObject_unnamed (operationId : String) : Unnamed emptyObject.active operationId :=
  ⟨_, [], rfl, emptyObject_parsed, rfl, (Option.some_ne_none _).symm⟩

/-- **An object that names no operation is silently replaced.** -/
theorem emptyObject_replaced : ∃ lock contract,
    verifyLock sha256 lock = .ok true ∧ verifyContract sha256 contract = true ∧
    (writeStateFile sha256 smallHost {} "op-1" lock contract "valid" emptyObject).1 = .ok () ∧
    ¬ ∀ disk, NeverReplaced (writeStateFile sha256 smallHost disk "op-1" lock contract "valid") "op-1"
      emptyObject := by
  obtain ⟨lock, contract, lockHolds, contractHolds⟩ := verified_pair
  have free : stateConflict smallHost "op-1" (readState {} emptyObject.active) = none :=
    stateConflict_none.mpr (Or.inr ⟨rfl, Or.inr (emptyObject_unnamed "op-1")⟩)
  have returned := writeStateFile_returns lockHolds contractHolds free
  refine ⟨lock, contract, lockHolds, contractHolds, by rw [returned], fun law => ?_⟩
  have unnames : ¬ Names emptyObject.active "op-1" := by
    rintro ⟨own, fields, same, parsed, stated⟩
    obtain rfl := Option.some.inj same
    cases emptyObject_parsed.symm.trans parsed
    cases stated
  obtain ⟨⟨error, raised⟩, _⟩ := (law {}).refused (Option.some_ne_none _) unnames
  rw [returned] at raised
  cases raised

end Audisor.Lifecycle
