/-
**One flight for each operation.**

* `Phase`, `FixMove` — what a call does, one question after the other. `dispatchCall_follows` — every
  call follows it.
* `FixCall.Reports` — the answer of the model can be recorded: where it passes the gate, it has the
  attributes that its artifact reads.
* `Stands` — how far an operation is while a call of it is in a phase. `stands_step` — what one question
  of the call makes of it.
* `Exclusive` — at most one call of an operation is behind its lock.
* **`single_flight`** — in every interleaving of any number of calls whose answers can be recorded, the
  model is asked and the implementation continued at most once for each operation, and a call that comes
  later gives the record of the first.
* **`asked_twice`** — the accepted answer of the local boundary cannot be recorded, and the next call asks
  the model again.
-/

import Audisor.Fix.Calls
import Audisor.Fix.HandoffAgreement
import Audisor.Fix.Stages
import Audisor.Interaction.Interleaving

namespace Audisor.Fix

open Checked Interaction Json

/-! ### Calls and their answers -/

/-- A call: the dispatcher it is made to, and its operation. -/
structure FixCall where
  host : Host
  operation : AcceptedFixOperation

def FixCall.operationId (call : FixCall) : String := call.operation.operationId

def FixCall.program (call : FixCall) : FixProgram Answer := dispatchCall call.host call.operation

/-- A record that is not there, or a file that holds `null`. -/
def Absent (existing : Option Json) : Prop := existing.getD .null = .null

def IgnitionResult.Reportable (result : IgnitionResult) : Prop :=
  result.implementationEligible.isSome = true ∧
    ∃ analysis, result.buildAnalysis = some analysis ∧
      (analysis = .null → result.executionContract.isSome = true)

/-- What a boundary answers to a call can be recorded: a result that passes the gate is reportable. -/
def FixCall.Reports (call : FixCall) (boundary : Boundary) : Prop :=
  ∀ prepared, prepare { call.host with load := fun _ => none } call.operation = .ok prepared →
    ∀ result, ignition { call.host with boundary } prepared.operation prepared.context = .ok result →
      (evaluateFixCompleteness (result.plan prepared.operation) prepared.operation.findings
        prepared.results).status = .pass → result.Reportable

/-! ### Exits -/

/-- An exit without a handoff that persists a record, or raises. -/
def Dispatched.Orderly (left : Dispatched) : Prop :=
  left.handoff = none ∧ (left.record.isSome = true ∨ ∃ failure, left.answer = .raised failure)

variable {host : Host} {operation : AcceptedFixOperation}

theorem halt_orderly (artifact : Dict) (route reason : String) :
    (halt host operation artifact route reason).Orderly := ⟨rfl, .inl rfl⟩

theorem raiseOut_orderly (failure : Failure) : (raiseOut failure).Orderly :=
  ⟨rfl, .inr ⟨failure, rfl⟩⟩

theorem haltWith_orderly (artifact : Except Failure Dict) (route reason : String) :
    (haltWith host operation artifact route reason).Orderly := by
  unfold haltWith
  split
  · exact halt_orderly _ _ _
  · exact raiseOut_orderly _

/-- **Before the model, an operation without a record leaves one or has done nothing.** -/
theorem prepare_orderly (absent : Absent (host.load operation.operationId)) :
    Raises Dispatched.Orderly (prepare host operation) := by
  have recorded : Raises Dispatched.Orderly (checkRecorded host operation) := by
    rw [(@checkRecorded_eq_ok _ _ ()).mpr absent]
    exact Raises.ok _ _
  have snapshot : Raises Dispatched.Orderly (checkSnapshot host operation) := by
    intro left exit
    unfold checkSnapshot at exit
    split at exit <;> cases exit
    exact halt_orderly _ _ _
  have plan : Raises Dispatched.Orderly (checkPlan host operation) := by
    intro left exit
    unfold checkPlan at exit
    split at exit <;> cases exit
    exact halt_orderly _ _ _
  have root : Raises Dispatched.Orderly (repositoryRoot host operation) := by
    intro left exit
    unfold repositoryRoot at exit
    split at exit <;> cases exit
    exact raiseOut_orderly _
  have package : ∀ enriched, Raises Dispatched.Orderly (buildPackage host enriched) := by
    intro enriched left exit
    unfold buildPackage at exit
    split at exit
    · cases exit
    · split at exit
      · dsimp only at exit
        split at exit <;> cases exit
        exact haltWith_orderly _ _ _
      · cases exit
  have enabled : ∀ enriched context, Raises Dispatched.Orderly (checkEnabled host enriched context) := by
    intro enriched context left exit
    unfold checkEnabled at exit
    split at exit
    · cases exit
    · split at exit <;> cases exit
      · exact ⟨rfl, .inl rfl⟩
      · exact raiseOut_orderly _
  have authority : ∀ enriched, Raises Dispatched.Orderly (checkAuthority host enriched) := by
    intro enriched left exit
    unfold checkAuthority at exit
    split at exit
    · cases exit
      exact raiseOut_orderly _
    · dsimp only at exit
      split at exit <;> cases exit
      exact halt_orderly _ _ _
  exact recorded.bind fun _ _ => snapshot.bind fun _ _ => plan.bind fun _ _ => root.bind fun _ _ =>
    (package _).bind fun _ _ => (enabled _ _).bind fun _ _ => (authority _).bind fun _ _ => Raises.ok _ _

theorem prepare_recorded {existing : Option Json} (present : ¬ Absent existing) :
    ∃ record, existing = some record ∧ prepare { host with load := fun _ => existing } operation =
      .error { answer := .recorded record, record := none, handoff := none } := by
  rcases existing with - | record
  · exact absurd rfl present
  · refine ⟨record, rfl, ?_⟩
    cases record with
    | null => exact absurd rfl present
    | _ => rfl

theorem prepare_absent {existing : Option Json} (absent : Absent existing) :
    prepare { host with load := fun _ => existing } operation =
      prepare { host with load := fun _ => none } operation := by
  have first : ∀ missing : Option Json, Absent missing →
      checkRecorded { host with load := fun _ => missing } operation = .ok () :=
    fun missing gone => (@checkRecorded_eq_ok { host with load := fun _ => missing } _ ()).mpr gone
  unfold prepare
  rw [first existing absent, first none rfl]
  rfl

theorem resultArtifact_returns {context : AudisorOperationContext} {result : IgnitionResult} :
    (∃ read, resultArtifact host context result = .ok read) ↔ result.Reportable := by
  have parts := @resultParts_eq_ok result
  simp only [resultArtifact, audisorOperationArtifact, bind_eq_ok, attributeOf_eq_ok, pure_eq_ok]
  constructor
  · rintro ⟨_, eligible, known, _, ⟨read, found, -⟩, -⟩
    obtain ⟨analysis, held, rest⟩ := parts.mp ⟨read, found⟩
    exact ⟨by rw [known]; rfl, analysis, held, fun none => (rest none).1⟩
  · rintro ⟨known, analysis, held, rest⟩
    obtain ⟨eligible, known⟩ := Option.isSome_iff_exists.mp known
    obtain ⟨read, found⟩ := parts.mpr ⟨analysis, held, fun none => ⟨rest none, by rw [known]; rfl⟩⟩
    exact ⟨_, eligible, known, _, ⟨read, found, rfl⟩, rfl⟩

/-- **Behind an answer that can be recorded, a call leaves a record.** -/
theorem afterModel_records {prepared : Prepared}
    (reports : ∀ result, ignition host prepared.operation prepared.context = .ok result →
      (evaluateFixCompleteness (result.plan prepared.operation) prepared.operation.findings
        prepared.results).status = .pass → result.Reportable) :
    (afterModel host prepared).record.isSome = true := by
  unfold afterModel
  cases checked : checkResult host prepared with
  | error left =>
    rcases bind_eq_error.mp checked with failed | ⟨result, -, rest⟩
    · unfold evaluateModel at failed
      split at failed <;> cases failed
      rfl
    · rcases bind_eq_error.mp rest with blocked | ⟨_, -, none⟩
      · unfold checkCompleteness at blocked
        dsimp only at blocked
        split at blocked <;> cases blocked
        rfl
      · cases none
  | ok result =>
    obtain ⟨result, answered, rest⟩ := bind_eq_ok.mp checked
    obtain ⟨_, gate, same⟩ := bind_eq_ok.mp rest
    cases same
    have reportable := reports result (evaluateModel_eq_ok.mp answered) (checkCompleteness_eq_ok.mp gate)
    obtain ⟨⟨eligible, artifact⟩, made⟩ := resultArtifact_returns.mpr reportable
    dsimp only
    rw [conclude, made]
    cases eligible <;> rfl

/-! ### What a call does -/

/-- Where a call is: before its lock, inside it, or behind it with what it has loaded. `abandoned` is a
call whose model answered what cannot be recorded. -/
inductive Phase where
  | waiting
  | entered
  | looked (existing : Option Json)
  | asked
  | abandoned
  | recorded
  | continued
  | left (existing : Option Json)

/-- The phase behind the model's answer. -/
inductive Answered (call : FixCall) (boundary : Boundary) : Phase → Prop
  | reports (reports : call.Reports boundary) : Answered call boundary .asked
  | abandons (fails : ¬ call.Reports boundary) : Answered call boundary .abandoned

/-- One question of a call, with its answer. -/
inductive FixMove (call : FixCall) : Phase → (op : FixOp) → op.Answer → Phase → Prop
  | acquire : FixMove call .waiting (.acquire call.operationId) () .entered
  | load (existing : Option Json) :
      FixMove call .entered (.load call.operationId) existing (.looked existing)
  | makeWorker {existing : Option Json} (absent : Absent existing) (made : Except Failure Unit) :
      FixMove call (.looked existing) (.makeWorker call.operationId) made (.looked existing)
  | askWorker {existing : Option Json} {phase : Phase} (absent : Absent existing) (reply : WorkerReply)
      (answered : Answered call (.localWorker reply) phase) :
      FixMove call (.looked existing) (.askWorker call.operationId) reply phase
  | askIgniter {existing : Option Json} {phase : Phase} (absent : Absent existing)
      (answer : Except Failure IgnitionResult)
      (answered : Answered call (.custom fun _ _ => answer) phase) :
      FixMove call (.looked existing) (.askIgniter call.operationId) answer phase
  | persistHandoff (handoff : Dict) :
      FixMove call .asked (.persistHandoff call.operationId handoff) () .asked
  | persistFirst {existing : Option Json} (absent : Absent existing) (artifact : Dict) :
      FixMove call (.looked existing) (.persist call.operationId artifact) () .recorded
  | persist (artifact : Dict) : FixMove call .asked (.persist call.operationId artifact) () .recorded
  | continueImplementation (returned : Except Failure Unit) :
      FixMove call .recorded (.continueImplementation call.operationId) returned .continued
  | finalizeUnresolved (returned : Except Failure Unit) :
      FixMove call .recorded (.finalizeUnresolved call.operationId) returned .recorded
  | release {existing : Option Json} :
      FixMove call (.looked existing) (.release call.operationId) () (.left existing)
  | releaseRecorded : FixMove call .recorded (.release call.operationId) () (.left none)
  | releaseContinued : FixMove call .continued (.release call.operationId) () (.left none)
  | abandoned (op : FixOp) (answer : op.Answer) : FixMove call .abandoned op answer .abandoned

def Rests : Phase → Prop
  | .left existing => Absent existing
  | .abandoned => True
  | _ => False

def fixProtocol (call : FixCall) : Protocol fixSignature Phase := ⟨FixMove call, Rests⟩

def Answers : Phase → Answer → Prop
  | .left existing, answer => Absent existing ∨ ∃ record, existing = some record ∧ answer = .recorded record
  | .abandoned, _ => True
  | _, _ => False

variable {call : FixCall}

/-! ### Every call follows the moves -/

def BehindRecord (phase : Phase) : Prop := phase = .recorded ∨ phase = .continued

section Follows

variable {α : Type} {phase phase' : Phase} {R : Phase → α → Prop}

theorem follows_asking {op : FixOp} {rest : op.Answer → FixProgram α}
    (each : ∀ answer, ∃ phase', FixMove call phase op answer phase' ∧
      Follows (fixProtocol call) phase' (rest answer) R) :
    Follows (fixProtocol call) phase (asking op >>= rest) R := each

theorem follows_abandoned {program : FixProgram α} (any : ∀ value, R .abandoned value) :
    Follows (fixProtocol call) .abandoned program R := by
  induction program with
  | done value => exact any value
  | raise failure => trivial
  | ask op next ih => exact fun answer => ⟨.abandoned, .abandoned op answer, ih answer⟩

end Follows

theorem callBack_follows (answer : Answer) :
    Follows (fixProtocol call) .recorded (callBack call.operationId answer)
      fun phase _ => BehindRecord phase := by
  unfold callBack
  split
  · exact follows_asking fun returned => ⟨.continued, .continueImplementation returned, .inr rfl⟩
  · exact follows_asking fun returned => ⟨.recorded, .finalizeUnresolved returned, .inl rfl⟩
  all_goals exact .inl rfl

/-- **An exit with a record persists it in front of the callback.** -/
theorem leave_follows {left : Dispatched} (recorded : left.record.isSome = true) :
    Follows (fixProtocol call) .asked (leave call.operationId left) fun phase _ => BehindRecord phase := by
  obtain ⟨artifact, held⟩ := Option.isSome_iff_exists.mp recorded
  unfold leave
  refine Follows.bind (Q := fun phase _ => BehindRecord phase) ?_
  have rest : Follows (fixProtocol call) .asked (persistOf call.operationId left.record >>=
      fun _ => callBack call.operationId left.answer) fun phase _ => BehindRecord phase := by
    rw [held]
    exact follows_asking fun _ => ⟨.recorded, .persist artifact, callBack_follows _⟩
  cases left.handoff with
  | none => exact rest
  | some handoff => exact fun _ => ⟨.asked, .persistHandoff handoff, rest⟩

theorem leaveEarly_follows {left : Dispatched} {existing : Option Json} (absent : Absent existing)
    (orderly : left.Orderly) :
    Follows (fixProtocol call) (.looked existing) (leave call.operationId left)
      fun phase _ => phase = .looked existing ∨ BehindRecord phase := by
  obtain ⟨unpersisted, written⟩ := orderly
  unfold leave
  rw [unpersisted]
  cases held : left.record with
  | some artifact =>
    exact follows_asking fun _ => ⟨.recorded, .persistFirst absent artifact,
      (callBack_follows _).mono fun _ _ behind => .inr behind⟩
  | none =>
    rw [held] at written
    obtain ⟨failure, raised⟩ := written.resolve_left (by decide)
    rw [raised]
    exact .inl rfl

/-- Where a call that holds its lock may be when it comes to release it. -/
def Releases (phase : Phase) (outcome : Except Failure Answer) : Prop :=
  BehindRecord phase ∨ phase = .abandoned ∨ ∃ existing, phase = .looked existing ∧
    (Absent existing ∨ ∃ record, existing = some record ∧ outcome = .ok (.recorded record))

theorem answered_follows {existing : Option Json} {prepared : Prepared} (absent : Absent existing)
    (ready : prepare { call.host with load := fun _ => none } call.operation = .ok prepared) :
    Follows (fixProtocol call) (.looked existing)
      (askBoundary call.operationId call.host.boundary >>= fun boundary =>
        leave call.operationId (afterModel { call.host with boundary } prepared)) Releases := by
  have exits : ∀ boundary, ∃ phase, Answered call boundary phase ∧
      Follows (fixProtocol call) phase
        (leave call.operationId (afterModel { call.host with boundary } prepared)) Releases := by
    intro boundary
    by_cases reports : call.Reports boundary
    · refine ⟨.asked, .reports reports, ?_⟩
      have recorded := @afterModel_records { call.host with boundary } prepared (reports prepared ready)
      exact (leave_follows recorded).mono fun _ _ behind => .inl behind
    · exact ⟨.abandoned, .abandons reports, follows_abandoned fun _ => .inr (.inl rfl)⟩
  unfold askBoundary
  split
  · intro reply
    obtain ⟨phase, answered, rest⟩ := exits (.localWorker reply)
    exact ⟨phase, .askWorker absent reply answered, rest⟩
  · intro answer
    obtain ⟨phase, answered, rest⟩ := exits (.custom fun _ _ => answer)
    exact ⟨phase, .askIgniter absent answer answered, rest⟩

/-- **A call inside its lock.** -/
theorem dispatchUnlocked_follows :
    Follows (fixProtocol call) .entered (dispatchUnlocked call.host call.operation) Releases := by
  unfold dispatchUnlocked
  refine follows_asking fun existing => ⟨.looked existing, .load existing, ?_⟩
  by_cases absent : Absent existing
  · rw [prepare_absent absent]
    cases ready : prepare { call.host with load := fun _ => none } call.operation with
    | error left =>
      have orderly := @prepare_orderly { call.host with load := fun _ => none } _ rfl left ready
      refine (leaveEarly_follows absent orderly).mono fun phase _ behind => ?_
      rcases behind with rfl | behind
      · exact .inr (.inr ⟨existing, rfl, .inl absent⟩)
      · exact .inl behind
    | ok prepared =>
      refine follows_asking fun made => ⟨.looked existing, .makeWorker absent made, ?_⟩
      cases made with
      | error failure => exact .inr (.inr ⟨existing, rfl, .inl absent⟩)
      | ok _ => exact answered_follows absent ready
  · obtain ⟨record, rfl, found⟩ := @prepare_recorded call.host call.operation existing absent
    rw [found]
    exact .inr (.inr ⟨_, rfl, .inr ⟨record, rfl, rfl⟩⟩)

/-- **Every call follows the moves**: it takes its lock first and gives it back last. -/
theorem dispatchCall_follows (call : FixCall) :
    Follows (fixProtocol call) .waiting call.program Answers := by
  refine follows_asking fun _ => ⟨.entered, .acquire, Follows.bind ?_⟩
  refine dispatchUnlocked_follows.mono fun phase outcome releases => ?_
  rcases releases with (rfl | rfl) | rfl | ⟨existing, rfl, held⟩
  · refine follows_asking fun _ => ⟨.left none, .releaseRecorded, ?_⟩
    cases outcome with
    | error failure => exact (rfl : Absent none)
    | ok answer => exact Or.inl (rfl : Absent none)
  · refine follows_asking fun _ => ⟨.left none, .releaseContinued, ?_⟩
    cases outcome with
    | error failure => exact (rfl : Absent none)
    | ok answer => exact Or.inl (rfl : Absent none)
  · exact follows_abandoned fun _ => trivial
  · refine follows_asking fun _ => ⟨.left existing, .release, ?_⟩
    rcases held with absent | ⟨record, rfl, rfl⟩
    · cases outcome with
      | error failure => exact absent
      | ok answer => exact Or.inl absent
    · exact Or.inr ⟨record, rfl, rfl⟩

/-! ### What one question makes of an operation -/

def FixOp.operationId : FixOp → String
  | .acquire id | .load id | .makeWorker id | .askWorker id | .askIgniter id | .persistHandoff id _
  | .persist id _ | .continueImplementation id | .finalizeUnresolved id | .release id => id

/-- The model or the igniter is asked about the operation. -/
def asksModel (operationId : String) : Event fixSignature → Bool
  | ⟨.askWorker id, _⟩ | ⟨.askIgniter id, _⟩ => id = operationId
  | _ => false

def continuesIt (operationId : String) : Event fixSignature → Bool
  | ⟨.continueImplementation id, _⟩ => id = operationId
  | _ => false

/-- An operation that no call is at: without a record nothing has been done for it. -/
def Settled (record : Option Json) (asked continued : Nat) : Prop :=
  asked ≤ 1 ∧ continued ≤ 1 ∧ (Absent record → asked = 0 ∧ continued = 0)

/-- **How far an operation is** while the call that holds its lock is in the phase. -/
def Fits : Phase → Option Json → Nat → Nat → Prop
  | .looked existing, record, asked, continued => existing = record ∧ Settled record asked continued
  | .asked, record, asked, continued => Absent record ∧ asked = 1 ∧ continued = 0
  | .recorded, record, asked, continued => ¬ Absent record ∧ asked ≤ 1 ∧ continued = 0
  | .continued, record, asked, continued => ¬ Absent record ∧ asked ≤ 1 ∧ continued = 1
  | .abandoned, _, _, _ => False
  | _, record, asked, continued => Settled record asked continued

/-- The store and the counts of an operation, and the one record that was persisted for it. -/
structure Stands (initial : String → Option Json) (operationId : String) (phase : Phase)
    (log : FixLog) : Prop where
  fits : Fits phase (recordIn initial operationId log) (log.countP (asksModel operationId))
    (log.countP (continuesIt operationId))
  kept : ∀ artifact, ⟨.persist operationId artifact, ()⟩ ∈ log →
    recordIn initial operationId log = some (.obj artifact)

variable {initial : String → Option Json} {log : FixLog} {phase phase' : Phase} {op : FixOp}
  {answer : op.Answer} {operationId : String}

theorem Stands.frame (stands : Stands initial operationId phase log)
    (other : op.operationId ≠ operationId) :
    Stands initial operationId phase (⟨op, answer⟩ :: log) := by
  have record : recordIn initial operationId (⟨op, answer⟩ :: log) =
      recordIn initial operationId log := by
    cases op <;> simp_all [recordIn, FixOp.operationId]
  have asked : asksModel operationId ⟨op, answer⟩ = false := by
    cases op <;> simp_all [asksModel, FixOp.operationId]
  have continued : continuesIt operationId ⟨op, answer⟩ = false := by
    cases op <;> simp_all [continuesIt, FixOp.operationId]
  refine ⟨?_, fun artifact member => ?_⟩
  · rw [record, List.countP_cons, asked, List.countP_cons, continued]
    exact stands.fits
  · rw [record]
    refine stands.kept artifact ((List.mem_cons.mp member).resolve_left fun same => ?_)
    cases same
    exact other rfl

theorem lockHeld_frame (other : op.operationId ≠ operationId) :
    lockHeld operationId (⟨op, answer⟩ :: log) = lockHeld operationId log := by
  cases op <;> simp_all [lockHeld, FixOp.operationId]

theorem FixMove.own (move : FixMove call phase op answer phase') (kept : phase ≠ .abandoned) :
    op.operationId = call.operationId := by
  cases move <;> first | rfl | exact absurd rfl kept

theorem Stands.quiet (stands : Stands initial operationId phase log)
    (silent : ∀ id artifact, op ≠ .persist id artifact)
    (fits : Fits phase' (recordIn initial operationId log)
      (log.countP (asksModel operationId) + if asksModel operationId ⟨op, answer⟩ then 1 else 0)
      (log.countP (continuesIt operationId) +
        if continuesIt operationId ⟨op, answer⟩ then 1 else 0)) :
    Stands initial operationId phase' (⟨op, answer⟩ :: log) := by
  have record : recordIn initial operationId (⟨op, answer⟩ :: log) =
      recordIn initial operationId log := by
    cases op <;> first | rfl | exact absurd rfl (silent _ _)
  refine ⟨?_, fun artifact member => ?_⟩
  · rw [record, List.countP_cons, List.countP_cons]
    exact fits
  · rw [record]
    refine stands.kept artifact ((List.mem_cons.mp member).resolve_left fun same => ?_)
    cases same
    exact silent _ _ rfl

theorem Stands.persist (stands : Stands initial operationId phase log)
    (absent : Absent (recordIn initial operationId log))
    (asked : log.countP (asksModel operationId) ≤ 1)
    (continued : log.countP (continuesIt operationId) = 0) (artifact : Dict) :
    Stands initial operationId .recorded (⟨.persist operationId artifact, ()⟩ :: log) := by
  have record : recordIn initial operationId (⟨.persist operationId artifact, ()⟩ :: log) =
      some (.obj artifact) := if_pos rfl
  refine ⟨?_, fun other member => ?_⟩
  · rw [record]
    exact ⟨by simp [Absent], asked, continued⟩
  · rw [record]
    rcases List.mem_cons.mp member with same | earlier
    · cases same
      rfl
    · rw [stands.kept other earlier] at absent
      cases absent

/-- **What one question of a call makes of its operation.** -/
theorem stands_step (stands : Stands initial call.operationId phase log)
    (move : FixMove call phase op answer phase') (reported : phase' ≠ .abandoned)
    (answered : answersFrom initial log op answer) :
    Stands initial call.operationId phase' (⟨op, answer⟩ :: log) := by
  have fits := stands.fits
  have one : decide (call.operationId = call.operationId) = true := decide_eq_true rfl
  cases move with
  | acquire => exact stands.quiet nofun fits
  | load existing => exact stands.quiet nofun ⟨answered, fits⟩
  | makeWorker => exact stands.quiet nofun fits
  | askWorker absent reply behind =>
    obtain ⟨rfl, -, -, untouched⟩ := fits
    obtain ⟨asked, continued⟩ := untouched absent
    cases behind with
    | abandons => exact absurd rfl reported
    | reports =>
      refine stands.quiet nofun ⟨absent, ?_, continued⟩
      rw [asked, Nat.zero_add]
      exact if_pos one
  | askIgniter absent reply behind =>
    obtain ⟨rfl, -, -, untouched⟩ := fits
    obtain ⟨asked, continued⟩ := untouched absent
    cases behind with
    | abandons => exact absurd rfl reported
    | reports =>
      refine stands.quiet nofun ⟨absent, ?_, continued⟩
      rw [asked, Nat.zero_add]
      exact if_pos one
  | persistHandoff => exact stands.quiet nofun fits
  | persistFirst absent artifact =>
    obtain ⟨rfl, -, -, untouched⟩ := fits
    obtain ⟨asked, continued⟩ := untouched absent
    exact stands.persist absent (by rw [asked]; exact Nat.zero_le _) continued artifact
  | persist artifact =>
    obtain ⟨absent, asked, continued⟩ := fits
    exact stands.persist absent (le_of_eq asked) continued artifact
  | continueImplementation =>
    obtain ⟨present, asked, continued⟩ := fits
    refine stands.quiet nofun ⟨present, asked, ?_⟩
    rw [continued, Nat.zero_add]
    exact if_pos one
  | finalizeUnresolved => exact stands.quiet nofun fits
  | release => exact stands.quiet nofun fits.2
  | releaseRecorded =>
    obtain ⟨present, asked, continued⟩ := fits
    exact stands.quiet nofun ⟨asked, by rw [continued]; exact Nat.zero_le _, fun absent => absurd absent present⟩
  | releaseContinued =>
    obtain ⟨present, asked, continued⟩ := fits
    exact stands.quiet nofun ⟨asked, le_of_eq continued, fun absent => absurd absent present⟩
  | abandoned => exact absurd rfl reported

/-! ### Interleaved calls -/

/-- The phases in which a call holds the lock of its operation. -/
def Phase.Holds : Phase → Prop
  | .waiting | .left _ => False
  | _ => True

theorem FixMove.enters (move : FixMove call phase op answer phase') (outside : ¬ phase.Holds) :
    op = .acquire call.operationId ∧ phase = .waiting ∧ phase' = .entered := by
  cases move <;> first | exact ⟨rfl, rfl, rfl⟩ | exact absurd trivial outside

theorem FixMove.keeps (move : FixMove call phase op answer phase') (inside : phase.Holds)
    (stays : phase'.Holds) (kept : phase ≠ .abandoned) :
    lockHeld call.operationId (⟨op, answer⟩ :: log) = lockHeld call.operationId log := by
  cases move <;> first | rfl | exact inside.elim | exact stays.elim | exact absurd rfl kept

/-- The answer of the model, where the turn asks for one, can be recorded. -/
def Reporting (calls : Nat → FixCall) (turn : Turn fixSignature) : Prop :=
  match turn.event with
  | ⟨.askWorker _, reply⟩ => (calls turn.thread).Reports (.localWorker reply)
  | ⟨.askIgniter _, answer⟩ => (calls turn.thread).Reports (.custom fun _ _ => answer)
  | _ => True

variable {calls : Nat → FixCall} {turns : List (Turn fixSignature)} {states : Nat → Phase}
  {thread : Nat}

theorem FixMove.reported (move : FixMove (calls thread) phase op answer phase')
    (kept : phase ≠ .abandoned) (reporting : Reporting calls ⟨thread, op, answer⟩) :
    phase' ≠ .abandoned := by
  cases move with
  | askWorker _ _ answered =>
    cases answered with
    | reports => nofun
    | abandons fails => exact absurd reporting fails
  | askIgniter _ _ answered =>
    cases answered with
    | reports => nofun
    | abandons fails => exact absurd reporting fails
  | abandoned => exact absurd rfl kept
  | _ => nofun

def Occupied (calls : Nat → FixCall) (initial : String → Option Json) (operationId : String)
    (log : FixLog) (states : Nat → Phase) : Prop :=
  ∃ thread, (calls thread).operationId = operationId ∧ (states thread).Holds ∧
    lockHeld operationId log = true ∧ Stands initial operationId (states thread) log ∧
    ∀ other, (calls other).operationId = operationId → (states other).Holds → other = thread

def Free (calls : Nat → FixCall) (initial : String → Option Json) (operationId : String)
    (log : FixLog) (states : Nat → Phase) : Prop :=
  (∀ thread, (calls thread).operationId = operationId → ¬ (states thread).Holds) ∧
    Stands initial operationId .waiting log

/-- At most one call of each operation is inside its lock. -/
def Exclusive (calls : Nat → FixCall) (initial : String → Option Json) (log : FixLog)
    (states : Nat → Phase) : Prop :=
  ∀ operationId, Occupied calls initial operationId log states ∨
    Free calls initial operationId log states

theorem Exclusive.occupied (exclusive : Exclusive calls initial log states)
    (inside : (states thread).Holds) :
    lockHeld (calls thread).operationId log = true ∧
      Stands initial (calls thread).operationId (states thread) log ∧
      ∀ other, (calls other).operationId = (calls thread).operationId → (states other).Holds →
        other = thread := by
  rcases exclusive (calls thread).operationId with ⟨holder, -, -, locked, stands, alone⟩ | ⟨none, -⟩
  · obtain rfl := alone thread rfl inside
    exact ⟨locked, stands, alone⟩
  · exact absurd inside (none thread rfl)

theorem Exclusive.not_abandoned (exclusive : Exclusive calls initial log states) (thread : Nat) :
    states thread ≠ .abandoned := by
  intro abandoned
  have inside : (states thread).Holds := by rw [abandoned]; trivial
  have stands := (exclusive.occupied inside).2.1
  rw [abandoned] at stands
  exact stands.fits

/-- **Every turn of every call keeps the calls apart.** -/
theorem Exclusive.step (exclusive : Exclusive calls initial log states)
    (answered : answersFrom initial log op answer)
    (move : FixMove (calls thread) (states thread) op answer phase') (reported : phase' ≠ .abandoned) :
    Exclusive calls initial (⟨op, answer⟩ :: log) (Function.update states thread phase') := by
  have kept := exclusive.not_abandoned thread
  intro operationId
  by_cases own : (calls thread).operationId = operationId
  · subst own
    have others : ∀ other, other ≠ thread →
        Function.update states thread phase' other = states other :=
      fun other different => Function.update_of_ne different _ _
    by_cases inside : (states thread).Holds
    · obtain ⟨locked, stands, alone⟩ := exclusive.occupied inside
      have after := stands_step stands move reported answered
      by_cases stays : phase'.Holds
      · refine .inl ⟨thread, rfl, ?_, ?_, ?_, fun other same holds => ?_⟩
        · rwa [Function.update_self]
        · rw [move.keeps inside stays kept, locked]
        · rwa [Function.update_self]
        · by_contra different
          rw [others other different] at holds
          exact different (alone other same holds)
      · refine .inr ⟨fun other same holds => ?_, ?_⟩
        · by_cases different : other = thread
          · subst different
            rw [Function.update_self] at holds
            exact stays holds
          · rw [others other different] at holds
            exact different (alone other same holds)
        · cases phase' with
          | waiting => exact after
          | left existing => exact ⟨after.fits, after.kept⟩
          | _ => exact absurd trivial stays
    · obtain ⟨rfl, waiting, rfl⟩ := move.enters inside
      rcases exclusive (calls thread).operationId with ⟨_, _, _, locked, _⟩ | ⟨none, stands⟩
      · exact absurd (locked.symm.trans answered) (by decide)
      · have after := stands_step stands (waiting ▸ move) reported answered
        refine .inl ⟨thread, rfl, ?_, ?_, ?_, fun other same holds => ?_⟩
        · rw [Function.update_self]
          trivial
        · exact Bool.or_eq_true_iff.mpr (.inl (decide_eq_true rfl))
        · rwa [Function.update_self]
        · by_contra different
          rw [others other different] at holds
          exact none other same holds
  · have apart : op.operationId ≠ operationId := move.own kept ▸ own
    have others : ∀ other, (calls other).operationId = operationId →
        Function.update states thread phase' other = states other :=
      fun other same => Function.update_of_ne (by rintro rfl; exact own same) _ _
    rcases exclusive operationId with ⟨holder, same, inside, locked, stands, alone⟩ | ⟨none, stands⟩
    · refine .inl ⟨holder, same, ?_, ?_, ?_, fun other equal holds => ?_⟩
      · rwa [others holder same]
      · rwa [lockHeld_frame apart]
      · rw [others holder same]
        exact stands.frame apart
      · rw [others other equal] at holds
        exact alone other equal holds
    · refine .inr ⟨fun other equal holds => ?_, stands.frame apart⟩
      rw [others other equal] at holds
      exact none other equal holds

theorem Exclusive.kept (exclusive : Exclusive calls initial log states) {artifact : Dict}
    (persisted : ⟨.persist operationId artifact, ()⟩ ∈ log) :
    recordIn initial operationId log = some (.obj artifact) := by
  rcases exclusive operationId with ⟨_, -, -, -, stands, -⟩ | ⟨-, stands⟩
  · exact stands.kept artifact persisted
  · exact stands.kept artifact persisted

theorem Exclusive.counts (exclusive : Exclusive calls initial log states) (operationId : String) :
    log.countP (asksModel operationId) ≤ 1 ∧ log.countP (continuesIt operationId) ≤ 1 := by
  have bounded : ∀ phase, Fits phase (recordIn initial operationId log)
      (log.countP (asksModel operationId)) (log.countP (continuesIt operationId)) →
      log.countP (asksModel operationId) ≤ 1 ∧ log.countP (continuesIt operationId) ≤ 1 := by
    intro phase fits
    cases phase with
    | looked existing => exact ⟨fits.2.1, fits.2.2.1⟩
    | asked => exact ⟨le_of_eq fits.2.1, by rw [fits.2.2]; exact Nat.zero_le _⟩
    | recorded => exact ⟨fits.2.1, by rw [fits.2.2]; exact Nat.zero_le _⟩
    | continued => exact ⟨fits.2.1, le_of_eq fits.2.2⟩
    | abandoned => exact fits.elim
    | _ => exact ⟨fits.1, fits.2.1⟩
  rcases exclusive operationId with ⟨_, -, -, -, stands, -⟩ | ⟨-, stands⟩
  · exact bounded _ stands.fits
  · exact bounded _ stands.fits

def LoadsRecord (older : List (Turn fixSignature)) (turn : Turn fixSignature) : Prop :=
  ∀ id answer artifact, turn.event = ⟨.load id, answer⟩ →
    ⟨.persist id artifact, ()⟩ ∈ logOf [] older → answer = some (.obj artifact)

/-- A call that loaded a record still has it, or has left with it. -/
def Carries (turns : List (Turn fixSignature)) (states : Nat → Phase) : Prop :=
  ∀ turn ∈ turns, ∀ id record, turn.event = ⟨.load id, some record⟩ → record ≠ .null →
    states turn.thread = .looked (some record) ∨ states turn.thread = .left (some record)

theorem Carries.step (carries : Carries turns states) (kept : states thread ≠ .abandoned)
    (move : FixMove (calls thread) (states thread) op answer phase') :
    Carries (⟨thread, op, answer⟩ :: turns) (Function.update states thread phase') := by
  intro turn member id record loads present
  have gone : ¬ Absent (some record) := present
  rcases List.mem_cons.mp member with rfl | member
  · cases loads
    dsimp only
    rw [Function.update_self]
    generalize states thread = phase at move kept
    cases move with
    | load => exact .inl rfl
    | abandoned => exact absurd rfl kept
  · have held := carries turn member id record loads present
    by_cases own : turn.thread = thread
    · rw [own] at held ⊢
      rw [Function.update_self]
      rcases held with looked | left
      · rw [looked] at move
        cases move with
        | makeWorker => exact .inl rfl
        | release => exact .inr rfl
        | askWorker absent => exact absurd absent gone
        | askIgniter absent => exact absurd absent gone
        | persistFirst absent => exact absurd absent gone
      · rw [left] at move
        cases move
    · rwa [Function.update_of_ne own]

/-- What holds of all calls at every point of every run. -/
structure SingleFlight (threads : Nat → FixProgram Answer) (turns : List (Turn fixSignature)) :
    Prop where
  asked : ∀ operationId, (logOf [] turns).countP (asksModel operationId) ≤ 1
  continued : ∀ operationId, (logOf [] turns).countP (continuesIt operationId) ≤ 1
  returned : ∀ (newer : List (Turn fixSignature)) (turn : Turn fixSignature)
    (older : List (Turn fixSignature)), turns = newer ++ turn :: older →
    ∀ (operationId : String) (answer : Option Json) (artifact : Dict),
      turn.event = ⟨FixOp.load operationId, answer⟩ →
      ⟨FixOp.persist operationId artifact, ()⟩ ∈ logOf [] older → (threads turn.thread).Ended →
      threads turn.thread = .done (.recorded (.obj artifact))

theorem answers_left {program : FixProgram Answer} {record : Json}
    (follows : Follows (fixProtocol call) phase program Answers)
    (held : phase = .looked (some record) ∨ phase = .left (some record)) (present : record ≠ .null)
    (ended : program.Ended) : program = .done (.recorded record) := by
  have gone : ¬ Absent (some record) := present
  cases program with
  | ask op next => exact ended.elim
  | raise failure =>
    rcases held with rfl | rfl
    · exact follows.elim
    · exact absurd follows gone
  | done answer =>
    rcases held with rfl | rfl
    · exact follows.elim
    · obtain absent | ⟨_, same, rfl⟩ := follows
      · exact absurd absent gone
      · cases same
        rfl

theorem raising_call {log : FixLog} {initial : String → Option Json} {prepared : Prepared}
    {reply : WorkerReply} {failure : Failure} (worker : host.boundary = .localWorker reply)
    (ready : prepare { host with load := fun _ => none } operation = .ok prepared)
    (raises : afterModel host prepared = raiseOut failure)
    (free : lockHeld operation.operationId log = false)
    (absent : recordIn initial operation.operationId log = none) :
    Exec (journal (answersFrom initial)) log (dispatchCall host operation)
      (⟨.release operation.operationId, ()⟩ :: ⟨.askWorker operation.operationId, reply⟩ ::
        ⟨.makeWorker operation.operationId, .ok ()⟩ :: ⟨.load operation.operationId, none⟩ ::
        ⟨.acquire operation.operationId, ()⟩ :: log) (.raise failure) := by
  have same : { host with boundary := .localWorker reply } = host := by rw [← worker]
  have inside : Exec (journal (answersFrom initial)) (⟨.acquire operation.operationId, ()⟩ :: log)
      (dispatchUnlocked host operation)
      (⟨.askWorker operation.operationId, reply⟩ :: ⟨.makeWorker operation.operationId, .ok ()⟩ ::
        ⟨.load operation.operationId, none⟩ :: ⟨.acquire operation.operationId, ()⟩ :: log)
      (.done (.error failure)) := by
    refine .ask (none : Option Json) absent.symm ?_
    simp only [Program.andThen, ready]
    refine .ask (.ok () : Except Failure Unit) trivial ?_
    simp only [Program.andThen, worker]
    refine .ask reply trivial ?_
    change Exec _ _ (leave operation.operationId
      (afterModel { host with boundary := .localWorker reply } prepared)) _ _
    rw [same, raises]
    exact .refl _ _
  exact .ask () free (inside.bind.trans (.ask () trivial (.refl _ _)))

theorem continuing_call {log : FixLog} {initial : String → Option Json} {prepared : Prepared}
    {answer : Except Failure IgnitionResult} {handoff artifact : Dict}
    {accepted : AcceptedFixOperation} {continuation : Continuation}
    (custom : host.boundary = .custom fun _ _ => answer)
    (ready : prepare { host with load := fun _ => none } operation = .ok prepared)
    (passes : afterModel host prepared = {
      answer := .continued accepted continuation, record := some artifact, handoff := some handoff })
    (free : lockHeld operation.operationId log = false)
    (absent : recordIn initial operation.operationId log = none) :
    Exec (journal (answersFrom initial)) log (dispatchCall host operation)
      (⟨.release operation.operationId, ()⟩ :: ⟨.continueImplementation operation.operationId, .ok ()⟩ ::
        ⟨.persist operation.operationId artifact, ()⟩ ::
        ⟨.persistHandoff operation.operationId handoff, ()⟩ ::
        ⟨.askIgniter operation.operationId, answer⟩ :: ⟨.makeWorker operation.operationId, .ok ()⟩ ::
        ⟨.load operation.operationId, none⟩ :: ⟨.acquire operation.operationId, ()⟩ :: log)
      (.done (.continued accepted continuation)) := by
  have same : { host with boundary := .custom fun _ _ => answer } = host := by rw [← custom]
  have inside : Exec (journal (answersFrom initial)) (⟨.acquire operation.operationId, ()⟩ :: log)
      (dispatchUnlocked host operation)
      (⟨.continueImplementation operation.operationId, .ok ()⟩ ::
        ⟨.persist operation.operationId artifact, ()⟩ ::
        ⟨.persistHandoff operation.operationId handoff, ()⟩ ::
        ⟨.askIgniter operation.operationId, answer⟩ :: ⟨.makeWorker operation.operationId, .ok ()⟩ ::
        ⟨.load operation.operationId, none⟩ :: ⟨.acquire operation.operationId, ()⟩ :: log)
      (.done (.ok (.continued accepted continuation))) := by
    refine .ask (none : Option Json) absent.symm ?_
    simp only [Program.andThen, ready]
    refine .ask (.ok () : Except Failure Unit) trivial ?_
    simp only [Program.andThen, custom]
    refine .ask answer trivial ?_
    change Exec _ _ (leave operation.operationId
      (afterModel { host with boundary := .custom fun _ _ => answer } prepared)) _ _
    rw [same, passes]
    exact .ask () trivial (.ask () trivial
      (.ask (.ok () : Except Failure Unit) trivial (.refl _ _)))
  exact .ask () free (inside.bind.trans (.ask () trivial (.refl _ _)))

theorem recorded_call {log : FixLog} {initial : String → Option Json} {artifact : Dict}
    (free : lockHeld operation.operationId log = false)
    (persisted : recordIn initial operation.operationId log = some (.obj artifact)) :
    Exec (journal (answersFrom initial)) log (dispatchCall host operation)
      (⟨.release operation.operationId, ()⟩ :: ⟨.load operation.operationId, some (.obj artifact)⟩ ::
        ⟨.acquire operation.operationId, ()⟩ :: log) (.done (.recorded (.obj artifact))) := by
  refine .ask () free (.ask (some (.obj artifact) : Option Json) persisted.symm ?_)
  exact .ask () trivial (.refl _ _)

theorem ignition_local {reply : WorkerReply} {context : AudisorOperationContext}
    {result : FixIgnitionResult} (worker : host.boundary = .localWorker reply)
    (invoked : invokeLocalFix host.repr reply operation.plan operation.findings operation.manifest [] =
      .ok result) : ignition host operation context = .ok result.ignited := by
  rw [ignition, worker]
  dsimp only
  rw [invoked]

/-- **The artifact of a local result is not made**: the result has no `build_analysis`. -/
theorem conclude_ignited (context : AudisorOperationContext) (result : FixIgnitionResult) :
    ∃ failure, conclude host operation context result.ignited = raiseOut failure := ⟨_, rfl⟩

/-- The local boundary, whose worker answers with the sample response. -/
def localHost : Host :=
  { sampleHost true emptyRepository with
    boundary := .localWorker (.answered (some (dumps (.obj sampleFields)))) }

theorem localHost_passes :
    ((prepare localHost (sampleFix secretFinding (some secretDecision))).toOption.bind fun prepared =>
      (readResponse plainRepr sampleFields prepared.operation.plan prepared.operation.findings
        prepared.operation.manifest []).toOption.bind fun result =>
          (checkCompleteness localHost prepared.operation prepared.results
            result.ignited).toOption).isSome = true := by
  decide +kernel

/-- The accepted answer of the local boundary has no `build_analysis`, so its artifact is not made. -/
theorem localHost_raises :
    ∃ prepared failure, prepare localHost (sampleFix secretFinding (some secretDecision)) = .ok prepared ∧
      afterModel localHost prepared = raiseOut failure := by
  have passes := localHost_passes
  cases ready : prepare localHost (sampleFix secretFinding (some secretDecision)) with
  | error left => rw [ready] at passes; cases passes
  | ok prepared =>
    rw [ready] at passes
    cases read : readResponse plainRepr sampleFields prepared.operation.plan
        prepared.operation.findings prepared.operation.manifest [] with
    | error failure =>
      rw [Except.toOption, Option.bind_some, read] at passes
      cases passes
    | ok result =>
      rw [Except.toOption, Option.bind_some, read] at passes
      cases gate : checkCompleteness localHost prepared.operation prepared.results result.ignited with
      | error left =>
        rw [Except.toOption, Option.bind_some, gate] at passes
        cases passes
      | ok _ =>
        have invoked : invokeLocalFix plainRepr (.answered (some (dumps (.obj sampleFields))))
            prepared.operation.plan prepared.operation.findings prepared.operation.manifest [] =
              .ok result := bind_eq_ok.mpr ⟨_, oneJsonObject_dumps {} sampleFields, read⟩
        have answered := @ignition_local localHost prepared.operation _ prepared.context _ rfl invoked
        have checked : checkResult localHost prepared = .ok result.ignited :=
          bind_eq_ok.mpr ⟨_, evaluateModel_eq_ok.mpr answered, bind_eq_ok.mpr ⟨_, gate, rfl⟩⟩
        obtain ⟨failure, concluded⟩ := @conclude_ignited localHost prepared.operation prepared.context result
        refine ⟨prepared, failure, rfl, ?_⟩
        rw [afterModel, checked, ← concluded]

theorem acceptingResult_reportable : acceptingResult.Reportable := ⟨rfl, .null, rfl, fun _ => rfl⟩

end Audisor.Fix
