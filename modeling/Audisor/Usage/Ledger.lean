/-
**The usage ledger.**

* `UsageAttemptRecord` — what is kept of one attempt; a record carries the evidence of its phase.
* `Closing` — how an attempt ends, and what it makes of the reservation.
* `LedgerOp` — the steps on the file of an attempt: reading it, and replacing it.
* `reserve`, `finalize`, `block` — the calls, step by step.
* `ledgerEnvironment` — what the files answer: a read or a replacement may also fail.

A replacement is the temporary file, written and renamed: readers see the old file or the new one. A
file holds the record that was written.
-/

import Audisor.Aflow.Hashing
import Audisor.Interaction.Shared

namespace Audisor.Usage

open Interaction
open Audisor.Aflow (Sha256)

/-! ### Records -/

inductive Phase where
  | reserved | finalized | blocked
  deriving DecidableEq

/-- Reserved records contain no final evidence, and terminal records say when they ended. -/
def PhaseMatchesEvidence (phase : Phase) (actual actualCost : Option Json)
    (finalizedAt : Option String) : Prop :=
  (phase = .reserved → actual = none ∧ actualCost = none ∧ finalizedAt = none) ∧
    (phase ≠ .reserved → finalizedAt.isSome = true)

/-- Sanitized record; prompt and response content have no fields here. -/
structure UsageAttemptRecord where
  operationId : String
  attemptId : String
  provider : String
  model : String
  requestHash : String
  phase : Phase
  estimate : Json
  actual : Option Json := none
  estimatedCost : Option Json := none
  actualCost : Option Json := none
  pricingSnapshot : Option Json := none
  createdAt : String
  finalizedAt : Option String := none
  warnings : List String := []
  matchesEvidence : PhaseMatchesEvidence phase actual actualCost finalizedAt
  deriving DecidableEq

/-- The end of an attempt. -/
inductive Closing where
  | finalized (actual : Json) (actualCost : Option Json) (finalizedAt : String)
      (warnings : List String)
  | blocked (finalizedAt : String) (reasons : List String)

def Closing.phase : Closing → Phase
  | finalized _ _ _ _ => .finalized
  | blocked _ _ => .blocked

/-- `existing.model_copy(update=...)`. -/
def Closing.apply (existing : UsageAttemptRecord) : Closing → UsageAttemptRecord
  | finalized actual actualCost finalizedAt warnings =>
    { existing with
      phase := .finalized
      actual := some actual
      actualCost
      finalizedAt := some finalizedAt
      warnings
      matchesEvidence := ⟨nofun, fun _ => rfl⟩ }
  | blocked finalizedAt reasons =>
    { existing with
      phase := .blocked
      finalizedAt := some finalizedAt
      warnings := reasons
      matchesEvidence := ⟨nofun, fun _ => rfl⟩ }

theorem Closing.apply_phase (closing : Closing) (existing : UsageAttemptRecord) :
    (closing.apply existing).phase = closing.phase := by
  cases closing <;> rfl

theorem Closing.phase_ne_reserved (closing : Closing) : closing.phase ≠ .reserved := by
  cases closing <;> exact Phase.noConfusion

/-! ### Steps -/

/-- What a look at the file of an attempt finds. -/
inductive LedgerFile where
  | absent
  | unreadable
  | holds (record : UsageAttemptRecord)
  deriving DecidableEq

inductive LedgerOp where
  | read (key : String)
  | replace (key : String) (record : UsageAttemptRecord)
  deriving DecidableEq

@[reducible] def LedgerOp.Answer : LedgerOp → Type
  | read _ => LedgerFile
  | replace _ _ => Bool

abbrev ledgerSignature : Signature := ⟨LedgerOp, LedgerOp.Answer⟩

/-- `UsageLedgerError`. -/
structure UsageLedgerError where
  message : String
  deriving DecidableEq

/-- A computation of the ledger. -/
abbrev LedgerProgram := Program ledgerSignature UsageLedgerError

def ledgerStep (op : LedgerOp) : LedgerProgram op.Answer := .ask (S := ledgerSignature) op .done

/-- `_read`. -/
def read (key : String) : LedgerProgram (Option UsageAttemptRecord) := do
  match ← ledgerStep (.read key) with
  | .absent => return none
  | .unreadable => .raise ⟨"usage ledger record is invalid"⟩
  | .holds record => return some record

/-- `_write`. -/
def write (key : String) (record : UsageAttemptRecord) : LedgerProgram Unit := do
  let written : Bool ← ledgerStep (.replace key record)
  if written then return () else .raise ⟨"usage ledger write failed"⟩

/-! ### Calls -/

variable (sha : Sha256)

/-- `_key`: what names the file of an attempt. -/
def ledgerKey (operationId attemptId : String) : String :=
  sha.hexdigest (operationId ++ "\x00" ++ attemptId)

def reserve (record : UsageAttemptRecord) : LedgerProgram UsageAttemptRecord := do
  if record.phase ≠ .reserved then .raise ⟨"reservation record must use reserved phase"⟩
  else
    let key := ledgerKey sha record.operationId record.attemptId
    match ← read key with
    | some existing =>
      if existing = record then return existing else .raise ⟨"conflicting usage reservation"⟩
    | none => do
      write key record
      return record

/-- What `finalize` and `block` have in common. -/
def close (operationId attemptId : String) (closing : Closing) (conflict : String) :
    LedgerProgram UsageAttemptRecord := do
  let key := ledgerKey sha operationId attemptId
  match ← read key with
  | none => .raise ⟨"usage reservation is missing"⟩
  | some existing =>
    let desired := closing.apply existing
    if existing.phase = closing.phase then
      if existing = desired then return existing else .raise ⟨conflict⟩
    else if existing.phase ≠ .reserved then .raise ⟨"usage attempt is already terminal"⟩
    else do
      write key desired
      return desired

def finalize (operationId attemptId : String) (actual : Json) (actualCost : Option Json)
    (finalizedAt : String) (warnings : List String) : LedgerProgram UsageAttemptRecord :=
  close sha operationId attemptId (.finalized actual actualCost finalizedAt warnings)
    "conflicting usage finalization"

def block (operationId attemptId : String) (finalizedAt : String) (reasons : List String) :
    LedgerProgram UsageAttemptRecord :=
  close sha operationId attemptId (.blocked finalizedAt reasons) "conflicting usage block"

/-- A call of the ledger. -/
inductive LedgerCall where
  | reserve (record : UsageAttemptRecord)
  | finalize (operationId attemptId : String) (actual : Json) (actualCost : Option Json)
      (finalizedAt : String) (warnings : List String)
  | block (operationId attemptId : String) (finalizedAt : String) (reasons : List String)

def LedgerCall.program : LedgerCall → LedgerProgram UsageAttemptRecord
  | .reserve record => Usage.reserve sha record
  | .finalize operationId attemptId actual actualCost finalizedAt warnings =>
    Usage.finalize sha operationId attemptId actual actualCost finalizedAt warnings
  | .block operationId attemptId finalizedAt reasons =>
    Usage.block sha operationId attemptId finalizedAt reasons

def LedgerCall.attempt : LedgerCall → String × String
  | .reserve record => (record.operationId, record.attemptId)
  | .finalize operationId attemptId _ _ _ _ => (operationId, attemptId)
  | .block operationId attemptId _ _ => (operationId, attemptId)

/-! ### Files -/

/-- The files of a ledger. -/
abbrev LedgerFiles := String → LedgerFile

def ledgerEnvironment : Environment ledgerSignature LedgerFiles where
  answers
    | files, .read key, found => found = files key ∨ found = .unreadable
    | _, .replace _ _, _ => True
  next
    | files, .replace key record, true => Function.update files key (.holds record)
    | files, .replace _ _, false => files
    | files, .read _, _ => files

end Audisor.Usage
