/-
**A usage record is finalised once, where replacements are in step.**

* `FinalisedOnce` — a terminal record stays, and every call that has returned, returned the record
  that is persisted, or the reservation that the persisted record closes.
* `InStep` — a call replaces the file only while it is as the call read it, or already holds the very
  record that the call writes.
* `LedgerPhase` — what a call knows, and what it is about to write. `ledgerCall_follows` — every call
  goes through the phases.
* **`finalisedThroughout_iff`** — an interleaving of calls for one attempt keeps the guarantee at all
  its points exactly when all its replacements are in step. `finalised_twice` — two calls that read
  before either replaces, are both told that their record is the final one.
-/

import Audisor.Usage.Ledger

namespace Audisor.Usage

open Interaction
open Audisor.Aflow (Sha256)

/-! ### The guarantee -/

def filesAfter (turns : List (Turn ledgerSignature)) : LedgerFiles :=
  ledgerEnvironment.after (fun _ => .absent) (logOf [] turns)

theorem filesAfter_replaced (thread : Nat) (key : String) (record : UsageAttemptRecord)
    (turns : List (Turn ledgerSignature)) :
    filesAfter (⟨thread, .replace key record, true⟩ :: turns) key = .holds record :=
  Function.update_self ..

def Closes (record final : UsageAttemptRecord) : Prop :=
  ∃ closing : Closing, final = closing.apply record

/-- **The guarantee for one attempt.** -/
structure FinalisedOnce (key : String) (threads : Nat → LedgerProgram UsageAttemptRecord)
    (turns : List (Turn ledgerSignature)) : Prop where
  final : ∀ newer older record, turns = newer ++ older → filesAfter older key = .holds record →
    record.phase ≠ .reserved → filesAfter turns key = .holds record
  returned : ∀ thread record, threads thread = .done record →
    filesAfter turns key = .holds record ∨
      ∃ final, filesAfter turns key = .holds final ∧ record.phase = .reserved ∧ Closes record final

/-- The calls of an interleaving, at the point where they have taken these turns. -/
abbrev LedgerRun (sha : Sha256) (calls : Nat → LedgerCall)
    (threads : Nat → LedgerProgram UsageAttemptRecord) (turns : List (Turn ledgerSignature)) : Prop :=
  Interleaving (ledgerEnvironment.journaled fun _ => .absent) []
    (fun thread => (calls thread).program sha) threads turns

/-- The guarantee at every point that has led to these turns. -/
def FinalisedThroughout (sha : Sha256) (key : String) (calls : Nat → LedgerCall)
    (turns : List (Turn ledgerSignature)) : Prop :=
  ∀ newer older threads, turns = newer ++ older → LedgerRun sha calls threads older →
    FinalisedOnce key threads older

def lastRead (thread : Nat) : List (Turn ledgerSignature) → LedgerFile
  | [] => .absent
  | turn :: older =>
    if turn.thread = thread then
      match turn.event with
      | ⟨.read _, found⟩ => found
      | ⟨.replace _ _, _⟩ => lastRead thread older
    else lastRead thread older

/-- **A replacement in step**: the file is still as the call read it, or holds what it writes. -/
def InStep (older : List (Turn ledgerSignature)) (turn : Turn ledgerSignature) : Prop :=
  match turn.event with
  | ⟨.replace key record, true⟩ =>
    filesAfter older key = lastRead turn.thread older ∨ filesAfter older key = .holds record
  | _ => True

/-! ### Phases -/

/-- Where a call is. -/
inductive LedgerPhase where
  | begun
  | ready (seen : LedgerFile) (desired : UsageAttemptRecord)
  | returns (record : UsageAttemptRecord)
  | lost

def Prepares (seen : LedgerFile) (desired : UsageAttemptRecord) : Prop :=
  (seen = .absent ∧ desired.phase = .reserved) ∨
    ∃ existing, seen = .holds existing ∧ existing.phase = .reserved ∧ Closes existing desired

/-- The moves of a call. -/
inductive LedgerMove (key : String) : LedgerPhase → (op : LedgerOp) → op.Answer → LedgerPhase → Prop
  | found (record : UsageAttemptRecord) :
    LedgerMove key .begun (.read key) (.holds record) (.returns record)
  | ready {seen : LedgerFile} {desired : UsageAttemptRecord} (prepares : Prepares seen desired) :
    LedgerMove key .begun (.read key) seen (.ready seen desired)
  | refused (seen : LedgerFile) : LedgerMove key .begun (.read key) seen .lost
  | replaced (seen : LedgerFile) (desired : UsageAttemptRecord) :
    LedgerMove key (.ready seen desired) (.replace key desired) true (.returns desired)
  | failed (seen : LedgerFile) (desired : UsageAttemptRecord) :
    LedgerMove key (.ready seen desired) (.replace key desired) false .lost

/-- The protocol of a call: one that is about to return, raises nothing. -/
def ledgerProtocol (key : String) : Protocol ledgerSignature LedgerPhase where
  Move := LedgerMove key
  Rest := fun phase => phase = .begun ∨ phase = .lost

/-- A call returns the record of its phase. -/
abbrev Returns : LedgerPhase → UsageAttemptRecord → Prop := fun phase record =>
  phase = .returns record

section Follows

variable {key : String}

theorem follows_write {seen : LedgerFile} {desired : UsageAttemptRecord} :
    Follows (ledgerProtocol key) (.ready seen desired)
      (write key desired >>= fun _ => pure desired) Returns := by
  intro written
  cases written with
  | true => exact ⟨_, .replaced seen desired, rfl⟩
  | false => exact ⟨_, .failed seen desired, Or.inr rfl⟩

theorem follows_read {rest : Option UsageAttemptRecord → LedgerProgram UsageAttemptRecord}
    (absent : ∃ phase, LedgerMove key .begun (.read key) .absent phase ∧
      Follows (ledgerProtocol key) phase (rest none) Returns)
    (present : ∀ existing, ∃ phase, LedgerMove key .begun (.read key) (.holds existing) phase ∧
      Follows (ledgerProtocol key) phase (rest (some existing)) Returns) :
    Follows (ledgerProtocol key) .begun (read key >>= rest) Returns := by
  rintro (_ | _ | existing)
  · exact absent
  · exact ⟨.lost, .refused _, Or.inr rfl⟩
  · exact present existing

theorem reserve_follows (sha : Sha256) (record : UsageAttemptRecord) :
    Follows (ledgerProtocol (ledgerKey sha record.operationId record.attemptId)) .begun
      (reserve sha record) Returns := by
  unfold reserve
  split
  · exact Or.inl rfl
  · rename_i reserved
    refine follows_read ?_ fun existing => ?_
    · exact ⟨_, .ready (.inl ⟨rfl, not_not.mp reserved⟩), follows_write⟩
    · by_cases same : existing = record
      · refine ⟨_, .found existing, ?_⟩
        dsimp only
        rw [if_pos same]
        rfl
      · refine ⟨_, .refused _, ?_⟩
        dsimp only
        rw [if_neg same]
        exact Or.inr rfl

theorem close_follows (sha : Sha256) (operationId attemptId : String) (closing : Closing)
    (conflict : String) :
    Follows (ledgerProtocol (ledgerKey sha operationId attemptId)) .begun
      (close sha operationId attemptId closing conflict) Returns := by
  refine follows_read ⟨_, .refused _, Or.inr rfl⟩ fun existing => ?_
  dsimp only
  by_cases again : existing.phase = closing.phase
  · rw [if_pos again]
    by_cases same : existing = closing.apply existing
    · refine ⟨_, .found existing, ?_⟩
      rw [if_pos same]
      rfl
    · refine ⟨_, .refused _, ?_⟩
      rw [if_neg same]
      exact Or.inr rfl
  · rw [if_neg again]
    by_cases reserved : existing.phase = .reserved
    · rw [if_neg (not_not.mpr reserved)]
      exact ⟨_, .ready (.inr ⟨existing, rfl, reserved, closing, rfl⟩), follows_write⟩
    · rw [if_pos reserved]
      exact ⟨_, .refused _, Or.inr rfl⟩

/-- **Every call goes through the phases.** -/
theorem ledgerCall_follows (sha : Sha256) (call : LedgerCall) :
    Follows (ledgerProtocol (ledgerKey sha call.attempt.1 call.attempt.2)) .begun (call.program sha)
      Returns := by
  cases call with
  | reserve record => exact reserve_follows sha record
  | finalize operationId attemptId actual actualCost finalizedAt warnings =>
    exact close_follows sha operationId attemptId _ _
  | block operationId attemptId finalizedAt reasons =>
    exact close_follows sha operationId attemptId _ _

end Follows

/-! ### The invariant -/

theorem Closes.terminal {record final : UsageAttemptRecord} (closes : Closes record final) :
    final.phase ≠ .reserved := by
  obtain ⟨closing, rfl⟩ := closes
  rw [closing.apply_phase]
  exact closing.phase_ne_reserved

/-- What a file that was seen may have become: an absent one anything, a reservation its end. -/
def Succeeds (seen now : LedgerFile) : Prop :=
  seen = .absent ∨ now = seen ∨ ∃ final, now = .holds final ∧ final.phase ≠ .reserved

/-- A returned record, against the file: it is there, or it was closed. -/
def Kept (record : UsageAttemptRecord) (now : LedgerFile) : Prop :=
  now = .holds record ∨ ∃ final, now = .holds final ∧ record.phase = .reserved ∧ Closes record final

/-- **What holds along a run whose replacements are in step.** -/
structure Advancing (key : String) (turns : List (Turn ledgerSignature))
    (states : Nat → LedgerPhase) : Prop where
  ready : ∀ thread seen desired, states thread = .ready seen desired →
    Prepares seen desired ∧ lastRead thread turns = seen ∧ Succeeds seen (filesAfter turns key)
  returned : ∀ thread record, states thread = .returns record → Kept record (filesAfter turns key)
  writer : filesAfter turns key = .absent ∨
    ∃ thread record, states thread = .returns record ∧ filesAfter turns key = .holds record
  final : ∀ newer older record, turns = newer ++ older → filesAfter older key = .holds record →
    record.phase ≠ .reserved → filesAfter turns key = .holds record

section Advancing

variable {key : String} {turns : List (Turn ledgerSignature)} {states : Nat → LedgerPhase}
  {thread : Nat} {seen : LedgerFile} {desired : UsageAttemptRecord}

theorem advancing_start (key : String) : Advancing key [] fun _ => .begun := by
  refine ⟨?_, ?_, .inl rfl, ?_⟩
  · rintro thread seen desired ⟨⟩
  · rintro thread record ⟨⟩
  · intro newer older record split holds _
    rw [(List.append_eq_nil_iff.mp split.symm).2] at holds
    cases holds

theorem final_cons {turn : Turn ledgerSignature}
    (final : ∀ newer older record, turns = newer ++ older → filesAfter older key = .holds record →
      record.phase ≠ .reserved → filesAfter turns key = .holds record)
    (step : ∀ record, filesAfter turns key = .holds record → record.phase ≠ .reserved →
      filesAfter (turn :: turns) key = .holds record) :
    ∀ newer older record, turn :: turns = newer ++ older → filesAfter older key = .holds record →
      record.phase ≠ .reserved → filesAfter (turn :: turns) key = .holds record := by
  intro newer older record split holds terminal
  cases newer with
  | nil =>
    rw [List.nil_append] at split
    subst split
    exact holds
  | cons _ newer =>
    exact step record (final newer older record (List.cons.inj split).2 holds terminal) terminal

/-- **A turn that leaves the file as it was.** -/
theorem Advancing.quiet (advancing : Advancing key turns states) {op : LedgerOp} {answer : op.Answer}
    {phase : LedgerPhase} (same : filesAfter (⟨thread, op, answer⟩ :: turns) key = filesAfter turns key)
    (before : ∀ record, states thread ≠ .returns record)
    (ready : ∀ seen desired, phase = .ready seen desired → Prepares seen desired ∧
      lastRead thread (⟨thread, op, answer⟩ :: turns) = seen ∧ Succeeds seen (filesAfter turns key))
    (returned : ∀ record, phase = .returns record → Kept record (filesAfter turns key)) :
    Advancing key (⟨thread, op, answer⟩ :: turns) (Function.update states thread phase) := by
  refine ⟨fun other seen desired at_ => ?_, fun other record at_ => ?_, ?_,
    final_cons advancing.final fun record holds _ => same.trans holds⟩
  · rw [same]
    by_cases own : other = thread
    · subst own
      rw [Function.update_self] at at_
      exact ready seen desired at_
    · rw [Function.update_of_ne own] at at_
      have apart : lastRead other (⟨thread, op, answer⟩ :: turns) = lastRead other turns :=
        if_neg (Ne.symm own)
      rw [apart]
      exact advancing.ready other seen desired at_
  · rw [same]
    by_cases own : other = thread
    · subst own
      rw [Function.update_self] at at_
      exact returned record at_
    · rw [Function.update_of_ne own] at at_
      exact advancing.returned other record at_
  · rw [same]
    refine advancing.writer.imp_right ?_
    rintro ⟨writer, record, wrote, holds⟩
    have apart : writer ≠ thread := by
      rintro rfl
      exact before record wrote
    exact ⟨writer, record, (Function.update_of_ne apart _ _).trans wrote, holds⟩

/-- **A replacement in step.** -/
theorem Advancing.replaced (advancing : Advancing key turns states)
    (at_ : states thread = .ready seen desired)
    (inStep : InStep turns ⟨thread, .replace key desired, true⟩) :
    Advancing key (⟨thread, .replace key desired, true⟩ :: turns)
      (Function.update states thread (.returns desired)) := by
  obtain ⟨prepares, read, -⟩ := advancing.ready thread seen desired at_
  have after : filesAfter (⟨thread, .replace key desired, true⟩ :: turns) key = .holds desired :=
    filesAfter_replaced ..
  rcases inStep with unchanged | already
  · replace unchanged : filesAfter turns key = seen := unchanged.trans read
    -- nothing terminal is in the file, and what was returned is what the record closes
    have open_ : ∀ record, filesAfter turns key = .holds record →
        record.phase = .reserved ∧ Closes record desired := by
      intro record holds
      rw [unchanged] at holds
      rcases prepares with ⟨absent, -⟩ | ⟨existing, found, reserved, closes⟩
      · cases holds.symm.trans absent
      · cases holds.symm.trans found
        exact ⟨reserved, closes⟩
    refine ⟨fun other seen' desired' ready => ?_, fun other record returns => ?_, ?_,
      final_cons advancing.final fun record holds terminal => absurd (open_ record holds).1 terminal⟩
    · have own : other ≠ thread := by
        rintro rfl
        rw [Function.update_self] at ready
        cases ready
      rw [Function.update_of_ne own] at ready
      obtain ⟨prepared, looked, succeeds⟩ := advancing.ready other seen' desired' ready
      refine ⟨prepared, (if_neg (Ne.symm own)).trans looked, ?_⟩
      rw [after]
      rcases prepares with ⟨absent, -⟩ | ⟨existing, found, reserved, closes⟩
      · rw [unchanged, absent] at succeeds
        rcases succeeds with blank | same | ⟨final, holds, -⟩
        · exact .inl blank
        · exact .inl same.symm
        · cases holds
      · exact .inr (.inr ⟨desired, rfl, closes.terminal⟩)
    · rw [after]
      by_cases own : other = thread
      · subst own
        rw [Function.update_self] at returns
        cases returns
        exact .inl rfl
      · rw [Function.update_of_ne own] at returns
        rcases advancing.returned other record returns with holds | ⟨final, holds, -, closes⟩
        · obtain ⟨reserved, closes⟩ := open_ record holds
          exact .inr ⟨desired, rfl, reserved, closes⟩
        · exact absurd (open_ final holds).1 closes.terminal
    · exact .inr ⟨thread, desired, Function.update_self .., after⟩
  · refine advancing.quiet (after.trans already.symm) (fun record => ?_) (fun _ _ => nofun) ?_
    · rw [at_]
      exact LedgerPhase.noConfusion
    · rintro record ⟨⟩
      exact .inl already

/-- **One turn.** -/
theorem Advancing.step (advancing : Advancing key turns states) {op : LedgerOp} {answer : op.Answer}
    {phase : LedgerPhase} (answered : ledgerEnvironment.answers (filesAfter turns) op answer)
    (move : LedgerMove key (states thread) op answer phase)
    (inStep : InStep turns ⟨thread, op, answer⟩) :
    Advancing key (⟨thread, op, answer⟩ :: turns) (Function.update states thread phase) := by
  generalize at_ : states thread = current at move
  have silent : current = .begun ∨ (∃ seen desired, current = .ready seen desired) →
      ∀ record, states thread ≠ .returns record := by
    rintro (rfl | ⟨seen, desired, rfl⟩) record returns
    · cases at_.symm.trans returns
    · cases at_.symm.trans returns
  cases move with
  | found record =>
    refine advancing.quiet rfl (silent (.inl rfl)) (by rintro _ _ ⟨⟩) ?_
    rintro record ⟨⟩
    rcases answered with found | unreadable
    · exact .inl found.symm
    · cases unreadable
  | @ready _ desired prepares =>
    refine advancing.quiet rfl (silent (.inl rfl)) ?_ (by rintro _ ⟨⟩)
    rintro seen desired ⟨⟩
    refine ⟨prepares, if_pos rfl, ?_⟩
    rcases answered with found | unreadable
    · exact .inr (.inl found.symm)
    · rcases prepares with ⟨absent, -⟩ | ⟨existing, found, -⟩
      · cases unreadable.symm.trans absent
      · cases unreadable.symm.trans found
  | refused seen =>
    exact advancing.quiet rfl (silent (.inl rfl)) (by rintro _ _ ⟨⟩) (by rintro _ ⟨⟩)
  | replaced seen desired => exact advancing.replaced at_ inStep
  | failed seen desired =>
    exact advancing.quiet rfl (silent (.inr ⟨_, _, rfl⟩)) (by rintro _ _ ⟨⟩) (by rintro _ ⟨⟩)

end Advancing

/-! ### Runs -/

section

variable {sha : Sha256} {attempt : String × String} {calls : Nat → LedgerCall}
  {threads : Nat → LedgerProgram UsageAttemptRecord} {turns : List (Turn ledgerSignature)}

/-- **Runs whose replacements are in step.** -/
theorem advancing_of_inStep (one : ∀ thread, (calls thread).attempt = attempt)
    (run : LedgerRun sha calls threads turns) (inStep : Always InStep turns) :
    ∃ states, (∀ thread, Follows (ledgerProtocol (ledgerKey sha attempt.1 attempt.2))
        (states thread) (threads thread) Returns) ∧
      Advancing (ledgerKey sha attempt.1 attempt.2) turns states := by
  obtain ⟨states, follows, advancing⟩ := run.invariant
    (P := fun _ => ledgerProtocol (ledgerKey sha attempt.1 attempt.2)) (Q := fun _ => Returns)
    (fun turns states =>
      Always InStep turns → Advancing (ledgerKey sha attempt.1 attempt.2) turns states)
    (fun thread => one thread ▸ ledgerCall_follows sha (calls thread))
    (fun _ => advancing_start _)
    fun turns states thread op answer phase before answered move always =>
      (before always.2).step answered move always.1
  exact ⟨states, follows, advancing inStep⟩

theorem returns_of_done {key : String} {phase : LedgerPhase} {record : UsageAttemptRecord}
    {program : LedgerProgram UsageAttemptRecord}
    (follows : Follows (ledgerProtocol key) phase program Returns) (ended : program = .done record) :
    phase = .returns record := by
  subst ended
  exact follows

theorem done_of_returns {key : String} {record : UsageAttemptRecord}
    {program : LedgerProgram UsageAttemptRecord}
    (follows : Follows (ledgerProtocol key) (.returns record) program Returns) :
    program = .done record := by
  cases program with
  | done answer =>
    cases follows
    rfl
  | raise error => rcases follows with begun | lost <;> contradiction
  | ask op next =>
    cases op with
    | read key =>
      obtain ⟨phase, move, -⟩ := follows .absent
      cases move
    | replace key record =>
      obtain ⟨phase, move, -⟩ := follows true
      cases move

theorem finalisedOnce_of_inStep (one : ∀ thread, (calls thread).attempt = attempt)
    (run : LedgerRun sha calls threads turns) (inStep : Always InStep turns) :
    FinalisedOnce (ledgerKey sha attempt.1 attempt.2) threads turns := by
  obtain ⟨states, follows, advancing⟩ := advancing_of_inStep one run inStep
  refine ⟨advancing.final, fun thread record ended => ?_⟩
  exact advancing.returned thread record (returns_of_done (follows thread) ended)

/-- **A replacement out of step breaks the guarantee**, where all before it were in step. -/
theorem inStep_of_finalised (one : ∀ thread, (calls thread).attempt = attempt)
    (before : LedgerRun sha calls threads turns) (inStep : Always InStep turns) {thread : Nat}
    {op : LedgerOp} {answer : op.Answer} {next : op.Answer → LedgerProgram UsageAttemptRecord}
    (asks : threads thread = .ask (S := ledgerSignature) op next)
    (finalised : FinalisedOnce (ledgerKey sha attempt.1 attempt.2)
      (Function.update threads thread (next answer)) (⟨thread, op, answer⟩ :: turns)) :
    InStep turns ⟨thread, op, answer⟩ := by
  obtain ⟨states, follows, advancing⟩ := advancing_of_inStep one before inStep
  have asking := follows thread
  rw [asks] at asking
  obtain ⟨phase, move, further⟩ := asking answer
  generalize at_ : states thread = current at move
  cases move with
  | found | ready | refused | failed => trivial
  | replaced seen desired =>
    set key := ledgerKey sha attempt.1 attempt.2
    obtain ⟨prepares, read, succeeds⟩ := advancing.ready thread seen desired at_
    have after : filesAfter (⟨thread, .replace key desired, true⟩ :: turns) key = .holds desired :=
      filesAfter_replaced ..
    rcases advancing.writer with absent | ⟨writer, record, wrote, holds⟩
    · -- the file is absent, so it was when the call looked
      left
      rcases succeeds with blank | same | ⟨final, holds, -⟩
      · rw [absent, read, blank]
      · rw [same, read]
      · cases absent.symm.trans holds
    by_cases same : record = desired
    · exact .inr (same ▸ holds)
    by_cases terminal : record.phase = .reserved
    · rcases succeeds with blank | unchanged | ⟨final, found, closed⟩
      · -- the call that wrote the record has returned it, and is overwritten by a reservation
        have apart : writer ≠ thread := by
          rintro rfl
          cases at_.symm.trans wrote
        have ended : ∀ program, Function.update threads thread program writer = .done record := by
          intro program
          rw [Function.update_of_ne apart]
          exact done_of_returns (wrote ▸ follows writer)
        have reserved : desired.phase = .reserved := by
          rcases prepares with ⟨-, reserved⟩ | ⟨existing, found, -⟩
          · exact reserved
          · cases blank.symm.trans found
        rcases finalised.returned writer record (ended _) with kept | ⟨final, kept, -, closes⟩
        · cases after.symm.trans kept
          exact absurd rfl same
        · cases after.symm.trans kept
          exact absurd reserved closes.terminal
      · exact .inl (unchanged.trans read.symm)
      · cases holds.symm.trans found
        exact absurd terminal closed
    · -- a terminal record does not stay
      cases after.symm.trans (finalised.final [_] turns record rfl holds terminal)
      exact absurd rfl same

/-- **An interleaving keeps the guarantee exactly where all its replacements are in step.** -/
theorem finalisedThroughout_iff (sha : Sha256) (attempt : String × String) (calls : Nat → LedgerCall)
    (one : ∀ thread, (calls thread).attempt = attempt)
    (threads : Nat → LedgerProgram UsageAttemptRecord) (turns : List (Turn ledgerSignature))
    (run : LedgerRun sha calls threads turns) :
    FinalisedThroughout sha (ledgerKey sha attempt.1 attempt.2) calls turns ↔
      Always InStep turns := by
  constructor
  · intro throughout
    induction run with
    | start => trivial
    | @turn threads turns op next before thread answer asks answered ih =>
      have earlier : Always InStep turns :=
        ih fun newer older threads split => throughout (_ :: newer) older threads (by rw [split]; rfl)
      refine ⟨inStep_of_finalised one before earlier asks ?_, earlier⟩
      exact throughout [] _ _ rfl (before.turn thread answer asks answered)
  · rintro inStep newer older threads rfl run
    exact finalisedOnce_of_inStep one run (inStep.suffix (List.suffix_append newer older))

end

/-! ### Calls out of step -/

theorem ledgerTurn {sha : Sha256} {calls : Nat → LedgerCall}
    {threads : Nat → LedgerProgram UsageAttemptRecord} {turns : List (Turn ledgerSignature)}
    (before : LedgerRun sha calls threads turns) (thread : Nat) (op : LedgerOp) (answer : op.Answer)
    {next : op.Answer → LedgerProgram UsageAttemptRecord}
    (asks : threads thread = .ask (S := ledgerSignature) op next)
    (answered : ledgerEnvironment.answers (filesAfter turns) op answer) :
    LedgerRun sha calls (Function.update threads thread (next answer))
      (⟨thread, op, answer⟩ :: turns) :=
  before.turn thread answer asks answered

def reservation : UsageAttemptRecord where
  operationId := "operation"
  attemptId := "attempt"
  provider := "provider"
  model := "model"
  requestHash := "request"
  phase := .reserved
  estimate := .obj []
  createdAt := "2025-01-01T00:00:00Z"
  matchesEvidence := ⟨fun _ => ⟨rfl, rfl, rfl⟩, fun other => absurd rfl other⟩

def twoEnds : Nat → LedgerCall
  | 0 => .reserve reservation
  | 1 => .finalize "operation" "attempt" (.obj []) none "2025-01-01T00:00:01Z" []
  | _ => .block "operation" "attempt" "2025-01-01T00:00:02Z" ["cancelled"]

theorem twoEnds_attempt (thread : Nat) : (twoEnds thread).attempt = ("operation", "attempt") := by
  rcases thread with _ | _ | thread <;> rfl

/-- The file of the attempt. -/
abbrev endsKey : String := ledgerKey Aflow.sha256 "operation" "attempt"

theorem endsReserved : ∃ threads, LedgerRun Aflow.sha256 twoEnds threads
      [⟨0, .replace endsKey reservation, true⟩, ⟨0, .read endsKey, .absent⟩] ∧
    (∀ thread, thread ≠ 0 → threads thread = (twoEnds thread).program Aflow.sha256) ∧
    filesAfter [⟨0, .replace endsKey reservation, true⟩, ⟨0, .read endsKey, .absent⟩] endsKey =
      .holds reservation := by
  have begun : LedgerRun Aflow.sha256 twoEnds _ [] := .start
  have free := ledgerTurn begun 0 (.read endsKey) .absent rfl (.inl rfl)
  have reserved := ledgerTurn free 0 (.replace endsKey reservation) true rfl trivial
  refine ⟨_, reserved, fun thread other => ?_, filesAfter_replaced ..⟩
  rw [Function.update_of_ne other, Function.update_of_ne other]

/-- **A finalisation and a block that read the reservation before either replaces it**, both return
a record of theirs, and only one of the two is persisted. -/
theorem finalised_twice : ∃ threads turns, LedgerRun Aflow.sha256 twoEnds threads turns ∧
    ∃ first second, threads 1 = .done first ∧ threads 2 = .done second ∧ first.phase = .finalized ∧
      second.phase = .blocked ∧ ¬ FinalisedOnce endsKey threads turns := by
  obtain ⟨threads, reserved, asks, holds⟩ := endsReserved
  have one := ledgerTurn reserved 1 (.read endsKey) (.holds reservation) (asks 1 (by decide))
    (.inl holds.symm)
  have both := ledgerTurn one 2 (.read endsKey) (.holds reservation) (asks 2 (by decide))
    (.inl holds.symm)
  have final := ledgerTurn both 1 (.replace endsKey _) true rfl trivial
  have again := ledgerTurn final 2 (.replace endsKey _) true rfl trivial
  refine ⟨_, _, again, _, _, rfl, rfl, rfl, rfl, fun once => ?_⟩
  rcases once.returned 1 _ rfl with kept | ⟨record, -, reserved, -⟩
  · have blocked := (filesAfter_replaced ..).symm.trans kept
    cases congrArg UsageAttemptRecord.phase (LedgerFile.holds.inj blocked)
  · cases reserved

/-- One after the other, the attempt is finalised and the block is refused. -/
theorem finalised_inStep : ∃ threads turns, LedgerRun Aflow.sha256 twoEnds threads turns ∧
    threads 2 = .raise ⟨"usage attempt is already terminal"⟩ ∧
    FinalisedThroughout Aflow.sha256 endsKey twoEnds turns := by
  obtain ⟨threads, reserved, asks, holds⟩ := endsReserved
  have read := ledgerTurn reserved 1 (.read endsKey) (.holds reservation) (asks 1 (by decide))
    (.inl holds.symm)
  have final := ledgerTurn read 1 (.replace endsKey _) true rfl trivial
  have late := ledgerTurn final 2 (.read endsKey) (.holds _) (asks 2 (by decide))
    (.inl (filesAfter_replaced ..).symm)
  refine ⟨_, _, late, rfl, ?_⟩
  refine (finalisedThroughout_iff Aflow.sha256 ("operation", "attempt") twoEnds twoEnds_attempt _ _
    late).mpr ⟨trivial, ?_, trivial, ?_, trivial, trivial⟩
  · exact .inl holds
  · exact .inl rfl

end Audisor.Usage
