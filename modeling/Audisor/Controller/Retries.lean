/-
**Retries of a review are made once for each key.**

* `Call`, `History` — the calls of a controller, each run to its end with what it asked.
* `Goes` — a retry with the key that was let through: it saved something. `overridesFor` — the reviews
  with an override that retries with the key have asked for.
* `Keeps` — what other calls leave: the outcome recorded under the key, and a stuck operation stuck.
* `Tried` — what the record says after a retry that was let through.
* **`retried_once`** — since an operation's registration the retries with one key ask for one review
  with an override at most, and after one that was let through and returned, every retry with the key
  gives back its provider, state and detail, and saves nothing.
-/

import Audisor.Controller.RetryKeys
import Audisor.Controller.ConcurrentClaims
import Mathlib.Algebra.GroupWithZero.Nat

namespace Audisor.Controller

open Interaction Json

variable {c : OperationController} {log log' : Log} {record next : OperationRecord}
  {operationId idempotencyKey : String}

/-! ### Calls -/

/-- A call that has come to its end. -/
structure Call where
  request : Request
  /-- What it asked, the newest event first. -/
  asked : Log
  ended : Ctl OperationControllerResult

/-- The calls made so far, the newest first, and the journal they have left. -/
inductive History (c : OperationController) : List Call → Log → Prop
  | empty : History c [] []
  | call {calls : List Call} {log new : Log} {p : Ctl OperationControllerResult} (request : Request)
      (before : History c calls log) (run : Exec world log (c.handle request) (new ++ log) p)
      (ended : p.Ended) : History c (⟨request, new, p⟩ :: calls) (new ++ log)

def Call.Registers (operationId : String) (call : Call) : Prop :=
  ∃ event ∈ call.asked, Controller.Registers operationId event

instance (operationId : String) : DecidablePred (Controller.Registers operationId)
  | ⟨.save record, _⟩ => inferInstanceAs
    (Decidable (record = registeredRecord operationId record.sourceKind record.prompt))
  | ⟨.load _, _⟩ | ⟨.append _ _ _ _, _⟩ | ⟨.createPlan _ _, _⟩ | ⟨.resumePlan _ _, _⟩
  | ⟨.review _ _ _, _⟩ | ⟨.fulfil _ _ _, _⟩ | ⟨.execute _ _ _, _⟩ | ⟨.resumeExecution _ _, _⟩
  | ⟨.chatTurn _ _ _, _⟩ | ⟨.tokenHex _, _⟩ | ⟨.uuid4Hex, _⟩ => .isFalse id

instance (operationId : String) : DecidablePred (Call.Registers operationId) := fun call =>
  inferInstanceAs (Decidable (∃ event ∈ call.asked, Controller.Registers operationId event))

def sinceRegistration (operationId : String) (calls : List Call) : List Call :=
  calls.takeWhile fun call => ¬ call.Registers operationId

def RetriesWith (operationId idempotencyKey : String) : Request → Prop
  | .retryAflow operation _ key _ => operation = operationId ∧ key = idempotencyKey
  | _ => False

instance (operationId idempotencyKey : String) :
    DecidablePred (RetriesWith operationId idempotencyKey)
  | .retryAflow operation _ key _ =>
    inferInstanceAs (Decidable (operation = operationId ∧ key = idempotencyKey))
  | .register _ _ _ | .accept _ _ _ _ _ | .start _ _ _ | .resume _ _ | .cancel _ _
  | .claimToolExecution _ _ _ _ _ => .isFalse id

/-- The reviews with an override that retries with the key have asked for. -/
def overridesFor (operationId idempotencyKey : String) (calls : List Call) : Nat :=
  ((calls.filter fun call => RetriesWith operationId idempotencyKey call.request).map
    fun call => overrides call.asked).sum

/-- A retry with the key that was let through. -/
structure Goes (operationId idempotencyKey : String) (call : Call) : Prop where
  retries : RetriesWith operationId idempotencyKey call.request
  saves : ∃ event ∈ call.asked, ¬ event.op.Reads

/-- A replay that gives back the outcome of a retry. -/
structure Reports (provider : String) (result : OperationControllerResult) (retry : Dict) :
    Prop where
  provider : get? retry "provider" = some (.str provider)
  state : get? retry "state" = some (.str result.state.value)
  detail : ∀ key value, get? result.detail key = some value → get? retry key = some value

/-- Every retry with the key gives back `result` of `provider`, and asks for nothing but the record. -/
def Replays (c : OperationController) (log : Log) (operationId idempotencyKey provider : String)
    (result : OperationControllerResult) : Prop :=
  ∃ record retry, stored log operationId = some record ∧ Reports provider result retry ∧
    ∀ operationVersion another, Outcome world log
      (c.handle (.retryAflow operationId operationVersion idempotencyKey another)) fun log' p =>
        log' = ⟨ControllerOp.load operationId, some record⟩ :: log ∧
          p = .done ⟨operationId, record.state,
            [("replayed", .bool true), ("retry", .obj retry)]⟩

/-! ### What other calls leave -/

/-- The outcome recorded under the key stays, and a stuck operation stays stuck. -/
def Keeps (operationId idempotencyKey : String) (log log' : Log) : Prop :=
  ∀ record, stored log operationId = some record →
    ∃ next, stored log' operationId = some next ∧
      next.artifacts.retry? idempotencyKey = record.artifacts.retry? idempotencyKey ∧
      (Stuck record → Stuck next)

theorem Keeps.of_same (same : stored log' operationId = stored log operationId) :
    Keeps operationId idempotencyKey log log' :=
  fun record found => ⟨record, same.trans found, rfl, id⟩

theorem Keeps.trans {log'' : Log} (first : Keeps operationId idempotencyKey log log')
    (second : Keeps operationId idempotencyKey log' log'') :
    Keeps operationId idempotencyKey log log'' := by
  intro record found
  obtain ⟨between, there, recorded, stuck⟩ := first record found
  obtain ⟨next, here, kept, still⟩ := second between there
  exact ⟨next, here, kept.trans recorded, still ∘ stuck⟩

theorem Keeps.of_continues (found : stored log record.operationId = some record)
    (active : ¬ Stuck record) (kept : stored log' record.operationId = some next)
    (same : next.artifacts.retry? idempotencyKey = record.artifacts.retry? idempotencyKey)
    (others : ∀ other, other ≠ record.operationId → stored log' other = stored log other) :
    Keeps operationId idempotencyKey log log' := by
  by_cases own : operationId = record.operationId
  · subst own
    intro loaded there
    cases found.symm.trans there
    exact ⟨next, kept, same, fun stuck => absurd stuck active⟩
  · exact .of_same (others operationId own)

/-- **What carries an active record on, keeps what is recorded.** -/
theorem keeps_of_carries {p p' : Ctl OperationControllerResult} (run : Exec world log p log' p')
    (asks : p.Asks (ControllerOp.Carries record)) (active : ¬ Stuck record)
    (found : stored log record.operationId = some record) :
    Keeps operationId idempotencyKey log log' := by
  obtain ⟨new, rfl, every⟩ := run.asked asks
  have carried : ∀ new : Log, (∀ event ∈ new, ControllerOp.Carries record event.op) →
      (∃ next, stored (new ++ log) record.operationId = some next ∧ Continues record next) ∧
      ∀ other, other ≠ record.operationId → stored (new ++ log) other = stored log other := by
    intro new every
    induction new with
    | nil => exact ⟨⟨record, found, .refl _⟩, fun _ _ => rfl⟩
    | cons event older ih =>
      obtain ⟨carries, earlier⟩ := List.forall_mem_cons.mp every
      obtain ⟨kept, others⟩ := ih earlier
      obtain ⟨op, answer⟩ := event
      cases op with
      | save next =>
        have continues : Continues record next := carries
        refine ⟨⟨next, ?_, continues⟩, fun other apart => ?_⟩
        · rw [List.cons_append, stored_save, if_pos continues.operationId]
        · rw [List.cons_append, stored_save, if_neg, others other apart]
          exact fun same => apart (same.symm.trans continues.operationId)
      | _ => exact ⟨kept, others⟩
  obtain ⟨⟨next, kept, continues⟩, others⟩ := carried new every
  exact .of_continues found active kept (continues.recorded idempotencyKey) others

theorem RetryEnds.keeps {key provider : String} {p : Ctl OperationControllerResult}
    (ends : RetryEnds log record key provider log' p) (active : ¬ Stuck record)
    (found : stored log record.operationId = some record)
    (apart : record.operationId = operationId → idempotencyKey ≠ key) :
    Keeps operationId idempotencyKey log log' := by
  have foreign : (∀ other, other ≠ record.operationId → stored log' other = stored log other) →
      operationId ≠ record.operationId → Keeps operationId idempotencyKey log log' :=
    fun others other => .of_same (others operationId other)
  cases ends with
  | refused => exact .of_same rfl
  | @returned _ latest result others _ continues kept _ =>
    by_cases own : operationId = record.operationId
    · refine .of_continues found active kept ?_ others
      rw [retried_lookup, if_neg (apart own.symm), continues.recorded]
    · exact foreign others own
  | raised others continues _ kept _ =>
    by_cases own : operationId = record.operationId
    · exact .of_continues found active kept (continues.recorded idempotencyKey) others
    · exact foreign others own

/-! ### Calls that do not retry with the key -/

theorem loaded_keeps {loadedId : String} {rest : Option OperationRecord → Ctl OperationControllerResult}
    (missing : ∀ log, Outcome world log (rest none) fun log' _ =>
      Keeps operationId idempotencyKey log log')
    (present : ∀ {log record}, record.operationId = loadedId →
      stored log record.operationId = some record →
      Outcome world log (rest (some record)) fun log' _ => Keeps operationId idempotencyKey log log') :
    Outcome world log (load loadedId >>= rest) fun log' _ =>
      Keeps operationId idempotencyKey log log' := by
  refine outcome_load ?_
  have seen : Keeps operationId idempotencyKey log
      (⟨ControllerOp.load loadedId, stored log loadedId⟩ :: log) := .of_same rfl
  cases found : stored log loadedId with
  | none =>
    rw [found] at seen
    exact (missing _).mono fun log' p kept => seen.trans kept
  | some record =>
    rw [found] at seen
    have same : record.operationId = loadedId := stored_operationId found
    refine (present same ?_).mono fun log' p kept => seen.trans kept
    rw [same]
    exact found

theorem refl_keeps (value : Ctl OperationControllerResult) (ended : value.Ended) :
    Outcome world log value fun log' _ => Keeps operationId idempotencyKey log log' := by
  cases value with
  | done result => exact outcome_done (.of_same rfl)
  | raise error => exact outcome_raise (.of_same rfl)
  | ask op next => exact ended.elim

theorem start_keeps (startedId : String) (plan context : Option Dict) :
    Outcome world log (start c startedId plan context) fun log' _ =>
      Keeps operationId idempotencyKey log log' := by
  refine loaded_keeps (fun log => refl_keeps _ trivial) fun {log record} _ found => ?_
  dsimp only
  split
  · exact refl_keeps _ trivial
  · rename_i received
    refine fun log' p run _ => keeps_of_carries run (startRecord_carries plan _) ?_ found
    exact fun stuck => received stuck.started

theorem resume_keeps (resumedId : String) (resumeInput : Option Dict) :
    Outcome world log (resume c resumedId resumeInput) fun log' _ =>
      Keeps operationId idempotencyKey log log' := by
  refine loaded_keeps (fun log => refl_keeps _ trivial) fun {log record} _ found => ?_
  dsimp only
  split
  · exact refl_keeps _ trivial
  · rename_i suspended
    refine fun log' p run _ =>
      keeps_of_carries run (resumeRecord_carries (not_not.mp suspended) _) ?_ found
    exact fun stuck => suspended stuck.settled

theorem claim_keeps (claimedId claimantId suspensionId callId argumentDigest : String) :
    Outcome world log (claimToolExecution c claimedId claimantId suspensionId callId argumentDigest)
      fun log' _ => Keeps operationId idempotencyKey log log' := by
  refine loaded_keeps (fun log => refl_keeps _ trivial) fun {log record} _ found => ?_
  dsimp only
  split
  · exact refl_keeps _ trivial
  · rename_i waiting
    refine fun log' p run _ =>
      keeps_of_carries run (claimRecord_carries claimantId suspensionId callId argumentDigest) ?_ found
    intro stuck
    refine stuck.settled ?_
    rw [not_not.mp waiting]
    decide

theorem cancel_keeps (cancelledId reason : String) :
    Outcome world log (cancel cancelledId reason) fun log' _ =>
      Keeps operationId idempotencyKey log log' := by
  refine loaded_keeps (fun log => refl_keeps _ trivial) fun {log record} _ found => ?_
  dsimp only
  split
  · exact refl_keeps _ trivial
  · rcases record.transition_cases .cancelledByUser reason with ⟨_, done⟩ | ⟨_, message, failed⟩
    · rw [done]
      refine outcome_save (outcome_done ?_)
      intro loaded there
      rw [stored_save, OperationRecord.moved_operationId]
      split
      · rename_i same
        subst same
        cases found.symm.trans there
        exact ⟨_, rfl, rfl, fun _ => ⟨settled_moved (by decide), OperationState.noConfusion⟩⟩
      · exact ⟨loaded, there, rfl, id⟩
    · rw [failed]
      exact refl_keeps _ trivial

theorem retry_keeps (retriedId : String) (operationVersion : Int) (key provider : String)
    (apart : retriedId = operationId → idempotencyKey ≠ key) :
    Outcome world log (retryAflow c retriedId operationVersion key provider) fun log' _ =>
      Keeps operationId idempotencyKey log log' := by
  refine loaded_keeps (fun log => refl_keeps _ trivial) fun {log record} same found => ?_
  dsimp only
  split
  · rename_i text _
    cases loadsValue (.str text) with
    | error error => exact refl_keeps _ trivial
    | ok retry => exact refl_keeps _ trivial
  · split
    · exact refl_keeps _ trivial
    · rename_i recovering
      refine (retryRecord_ends (not_not.mp recovering) operationVersion).mono
        fun log' p ends => ends.keeps ?_ found fun own => apart (same.symm.trans own)
      intro stuck
      refine stuck.settled ?_
      rw [not_not.mp recovering]
      decide

/-- Since `log`, the operation was registered. -/
def RegisteredSince (operationId : String) (log log' : Log) : Prop :=
  ∃ new, log' = new ++ log ∧ ∃ event ∈ new, Registers operationId event

theorem RegisteredSince.trans {log'' : Log} (registered : RegisteredSince operationId log log')
    (grown : log' <:+ log'') : RegisteredSince operationId log log'' := by
  obtain ⟨new, rfl, event, member, registers⟩ := registered
  obtain ⟨newer, rfl⟩ := grown
  exact ⟨newer ++ new, by simp, event, List.mem_append_right _ member, registers⟩

theorem register_keeps (sourceKind prompt : String) (newId : Option String) :
    Outcome world log (register c sourceKind prompt newId) fun log' _ =>
      RegisteredSince operationId log log' ∨ Keeps operationId idempotencyKey log log' := by
  -- what is saved under an id, and then announced
  have registered : ∀ {base : Log} (own : String), log <:+ base →
      stored base operationId = stored log operationId →
      Outcome world base (save (registeredRecord own sourceKind prompt) >>= fun _ =>
        emit c (registeredRecord own sourceKind prompt) "operation_created"
          [("source_kind", .str sourceKind)] >>= fun _ =>
            pure (⟨own, .received, [("registered", .bool true)]⟩ : OperationControllerResult))
        fun log' _ => RegisteredSince operationId log log' ∨
          Keeps operationId idempotencyKey log log' := by
    rintro base own ⟨earlier, rfl⟩ same
    refine outcome_save ?_
    by_cases new : own = operationId
    · subst new
      intro log' p run _
      obtain ⟨later, rfl⟩ := run.suffix
      refine Or.inl ⟨later ++ ⟨ControllerOp.save (registeredRecord own sourceKind prompt), ()⟩ ::
        earlier, by simp, _, List.mem_append_right _ List.mem_cons_self, rfl⟩
    · refine outcome_emit fun log' kept => outcome_done (Or.inr (.of_same ?_))
      rw [kept, stored_save, if_neg (by exact new), same]
  unfold register
  split
  · exact outcome_done (Or.inr (.of_same rfl))
  · unfold operationIdOr
    split
    · exact outcome_ask fun _ _ => registered _ (List.suffix_cons _ _) rfl
    · exact outcome_ask fun _ _ => registered _ (List.suffix_cons _ _) rfl
    · exact registered _ (List.suffix_refl _) rfl

theorem accept_keeps (sourceKind prompt : String) (plan : Option Dict) (newId : Option String)
    (context : Option Dict) :
    Outcome world log (accept c sourceKind prompt plan newId context) fun log' _ =>
      RegisteredSince operationId log log' ∨ Keeps operationId idempotencyKey log log' := by
  refine outcome_bind fun between p begun finished => ?_
  have first : RegisteredSince operationId log between ∨
      Keeps operationId idempotencyKey log between :=
    register_keeps sourceKind prompt newId between p begun finished
  cases p with
  | raise error => exact outcome_raise first
  | ask op next => exact finished.elim
  | done registered =>
    show Outcome world between (ite _ _ _) _
    split
    · exact outcome_done first
    · intro log' p run ended
      rcases first with fresh | kept
      · exact Or.inl (fresh.trans run.suffix)
      · exact Or.inr (kept.trans (start_keeps _ plan context log' p run ended))

/-- **A call that does not retry with the key, keeps what is recorded, or registers anew.** -/
theorem call_keeps {request : Request}
    (apart : ¬ RetriesWith operationId idempotencyKey request) :
    Outcome world log (c.handle request) fun log' _ =>
      RegisteredSince operationId log log' ∨ Keeps operationId idempotencyKey log log' := by
  cases request with
  | register sourceKind prompt newId => exact register_keeps sourceKind prompt newId
  | accept sourceKind prompt plan newId context =>
    exact accept_keeps sourceKind prompt plan newId context
  | start startedId plan context =>
    exact (start_keeps startedId plan context).mono fun _ _ => Or.inr
  | resume resumedId resumeInput => exact (resume_keeps resumedId resumeInput).mono fun _ _ => Or.inr
  | cancel cancelledId reason => exact (cancel_keeps cancelledId reason).mono fun _ _ => Or.inr
  | claimToolExecution claimedId claimantId suspensionId callId argumentDigest =>
    exact (claim_keeps claimedId claimantId suspensionId callId argumentDigest).mono
      fun _ _ => Or.inr
  | retryAflow retriedId operationVersion key provider =>
    refine (retry_keeps retriedId operationVersion key provider ?_).mono fun _ _ => Or.inr
    exact fun same other => apart ⟨same, other.symm⟩

/-! ### Retries with the key -/

/-- What the record says after a retry that was let through. -/
inductive Tried (operationId idempotencyKey : String) (record : OperationRecord) : Call → Prop
  | returned {operationVersion : Int} {provider : String} {asked : Log}
      {result : OperationControllerResult}
      (unnamed : hasKey result.detail "provider" = false ∧ hasKey result.detail "state" = false)
      (recorded : record.artifacts.retry? idempotencyKey =
        some ((Json.obj (retryOutcome provider result)).dumps {})) :
      Tried operationId idempotencyKey record
        ⟨.retryAflow operationId operationVersion idempotencyKey provider, asked, .done result⟩
  | raised {request : Request} {asked : Log} {error : PyError} (stuck : Stuck record) :
      Tried operationId idempotencyKey record ⟨request, asked, .raise error⟩

theorem Tried.kept {call : Call} (tried : Tried operationId idempotencyKey record call)
    (recorded : next.artifacts.retry? idempotencyKey = record.artifacts.retry? idempotencyKey)
    (stuck : Stuck record → Stuck next) : Tried operationId idempotencyKey next call := by
  cases tried with
  | returned unnamed earlier => exact .returned unnamed (recorded.trans earlier)
  | raised was => exact .raised (stuck was)

theorem replay_outcome (found : stored log operationId = some record)
    (closed : (∃ text, record.artifacts.retry? idempotencyKey = some text) ∨ Stuck record)
    (operationVersion : Int) (provider : String) :
    Outcome world log (retryAflow c operationId operationVersion idempotencyKey provider)
      fun log' _ => log' = ⟨ControllerOp.load operationId, some record⟩ :: log := by
  refine outcome_load ?_
  rw [found]
  dsimp only
  split
  · rename_i text _
    cases loadsValue (.str text) with
    | error error => exact outcome_raise rfl
    | ok retry => exact outcome_done rfl
  · rename_i missing
    rcases closed with ⟨text, recorded⟩ | stuck
    · rw [missing] at recorded
      cases recorded
    · rw [if_pos fun recovering => stuck.settled (by rw [recovering]; decide)]
      exact outcome_done rfl

/-- **A retry with the key**: it looks at the record only, or it is tried. -/
theorem retry_outcome (operationVersion : Int) (provider : String) :
    Outcome world log (retryAflow c operationId operationVersion idempotencyKey provider)
      fun log' p => log' = ⟨ControllerOp.load operationId, stored log operationId⟩ :: log ∨
        overrides log' ≤ overrides log + 1 ∧ ∃ record, stored log' operationId = some record ∧
          ∀ asked, Tried operationId idempotencyKey record
            ⟨.retryAflow operationId operationVersion idempotencyKey provider, asked, p⟩ := by
  refine outcome_load ?_
  cases found : stored log operationId with
  | none => exact outcome_done (Or.inl rfl)
  | some record =>
    have same : record.operationId = operationId := stored_operationId found
    dsimp only
    split
    · rename_i text _
      cases loadsValue (.str text) with
      | error error => exact outcome_raise (Or.inl rfl)
      | ok retry => exact outcome_done (Or.inl rfl)
    · split
      · exact outcome_done (Or.inl rfl)
      · rename_i recovering
        refine (retryRecord_ends (not_not.mp recovering) operationVersion).mono fun log' p ends => ?_
        cases ends with
        | refused => exact Or.inl rfl
        | @returned _ latest result others unnamed continues kept once =>
          refine Or.inr ⟨once, _, same ▸ kept, fun asked => .returned unnamed ?_⟩
          rw [retried_lookup, if_pos rfl]
        | @raised _ latest error others continues stuck kept once =>
          exact Or.inr ⟨once, latest, same ▸ kept, fun asked => .raised stuck⟩

/-! ### Histories -/

/-- What has become of the retries with the key. -/
structure KeyFacts (operationId idempotencyKey : String) (calls : List Call) (log : Log) : Prop where
  once : overridesFor operationId idempotencyKey calls ≤ 1
  fresh : (∀ call ∈ calls, ¬ Goes operationId idempotencyKey call) →
    overridesFor operationId idempotencyKey calls = 0
  tried : ∀ call ∈ calls, Goes operationId idempotencyKey call →
    ∃ record, stored log operationId = some record ∧ Tried operationId idempotencyKey record call

theorem keyFacts_nil (log : Log) : KeyFacts operationId idempotencyKey [] log :=
  ⟨Nat.zero_le 1, fun _ => rfl, fun _ member => absurd member List.not_mem_nil⟩

variable {calls : List Call} {new : Log}

theorem KeyFacts.keep (facts : KeyFacts operationId idempotencyKey calls log) {call : Call}
    (free : RetriesWith operationId idempotencyKey call.request → overrides call.asked = 0)
    (idle : ¬ Goes operationId idempotencyKey call)
    (keeps : Keeps operationId idempotencyKey log log') :
    KeyFacts operationId idempotencyKey (call :: calls) log' := by
  have same : overridesFor operationId idempotencyKey (call :: calls) =
      overridesFor operationId idempotencyKey calls := by
    unfold overridesFor
    by_cases retries : RetriesWith operationId idempotencyKey call.request
    · rw [List.filter_cons_of_pos (by simpa using retries), List.map_cons, List.sum_cons,
        free retries, Nat.zero_add]
    · rw [List.filter_cons_of_neg (by simpa using retries)]
  refine ⟨same ▸ facts.once, fun none => ?_, fun earlier member goes => ?_⟩
  · rw [same]
    exact facts.fresh fun earlier member => none earlier (List.mem_cons_of_mem _ member)
  · rcases List.mem_cons.mp member with rfl | member
    · exact absurd goes idle
    · obtain ⟨record, found, tried⟩ := facts.tried earlier member goes
      obtain ⟨next, kept, recorded, stuck⟩ := keeps record found
      exact ⟨next, kept, tried.kept recorded stuck⟩

theorem KeyFacts.go (facts : KeyFacts operationId idempotencyKey calls log) {call : Call}
    (none : ∀ earlier ∈ calls, ¬ Goes operationId idempotencyKey earlier)
    (goes : Goes operationId idempotencyKey call) (once : overrides call.asked ≤ 1)
    (tried : ∃ record, stored log' operationId = some record ∧
      Tried operationId idempotencyKey record call) :
    KeyFacts operationId idempotencyKey (call :: calls) log' := by
  have count : overridesFor operationId idempotencyKey (call :: calls) = overrides call.asked := by
    have earlier : overridesFor operationId idempotencyKey calls = 0 := facts.fresh none
    unfold overridesFor at earlier ⊢
    rw [List.filter_cons_of_pos (by simpa using goes.retries), List.map_cons, List.sum_cons,
      earlier, Nat.add_zero]
  refine ⟨count ▸ once, fun idle => ?_, fun earlier member through => ?_⟩
  · exact absurd goes (idle call List.mem_cons_self)
  · rcases List.mem_cons.mp member with rfl | member
    · exact tried
    · exact absurd through (none earlier member)

theorem KeyFacts.look (facts : KeyFacts operationId idempotencyKey calls log) {request : Request}
    {answer : Option OperationRecord} {p : Ctl OperationControllerResult}
    (looked : new ++ log = ⟨ControllerOp.load operationId, answer⟩ :: log) :
    KeyFacts operationId idempotencyKey (⟨request, new, p⟩ :: calls) (new ++ log) := by
  have only : new ++ log = [⟨ControllerOp.load operationId, answer⟩] ++ log := looked
  cases List.append_cancel_right only
  refine facts.keep (fun _ => rfl) (fun goes => ?_) (.of_same rfl)
  obtain ⟨event, member, saves⟩ := goes.saves
  cases List.mem_singleton.mp member
  exact saves trivial

theorem stored_of_all_read (every : ∀ event ∈ new, event.op.Reads) (operationId : String) :
    stored (new ++ log) operationId = stored log operationId := by
  induction new with
  | nil => rfl
  | cons event older ih =>
    obtain ⟨reads, earlier⟩ := List.forall_mem_cons.mp every
    rw [List.cons_append, ← ih earlier]
    exact stored_of_reads reads event.answer _ operationId

theorem Tried.closed {call : Call} (tried : Tried operationId idempotencyKey record call) :
    (∃ text, record.artifacts.retry? idempotencyKey = some text) ∨ Stuck record := by
  cases tried with
  | returned unnamed recorded => exact Or.inl ⟨_, recorded⟩
  | raised stuck => exact Or.inr stuck

/-- **One retry with the key.** -/
theorem KeyFacts.retry (facts : KeyFacts operationId idempotencyKey calls log)
    {operationVersion : Int} {provider : String} {p : Ctl OperationControllerResult}
    (run : Exec world log (retryAflow c operationId operationVersion idempotencyKey provider)
      (new ++ log) p) (ended : p.Ended) :
    KeyFacts operationId idempotencyKey
      (⟨.retryAflow operationId operationVersion idempotencyKey provider, new, p⟩ :: calls)
      (new ++ log) := by
  by_cases closed : ∃ record, stored log operationId = some record ∧
      ((∃ text, record.artifacts.retry? idempotencyKey = some text) ∨ Stuck record)
  · obtain ⟨record, found, spoken⟩ := closed
    exact facts.look (replay_outcome found spoken operationVersion provider _ p run ended)
  · have none : ∀ earlier ∈ calls, ¬ Goes operationId idempotencyKey earlier := by
      intro earlier member goes
      obtain ⟨record, found, tried⟩ := facts.tried earlier member goes
      exact closed ⟨record, found, tried.closed⟩
    rcases retry_outcome operationVersion provider _ p run ended with
      looked | ⟨once, record, found, tried⟩
    · exact facts.look looked
    · have within : overrides new ≤ 1 := by
        rw [overrides, asked_append] at once
        exact Nat.le_of_add_le_add_right (once.trans_eq (Nat.add_comm _ _))
      refine facts.go none ⟨⟨rfl, rfl⟩, ?_⟩ within ⟨record, found, tried new⟩
      -- without a save the record would be the one that says nothing of the key
      by_contra unsaved
      push Not at unsaved
      rw [stored_of_all_read unsaved] at found
      exact closed ⟨record, found, (tried []).closed⟩

/-- **In every history the facts hold** of the calls since the operation's registration. -/
theorem history_keyFacts (history : History c calls log) (operationId idempotencyKey : String) :
    KeyFacts operationId idempotencyKey (sinceRegistration operationId calls) log := by
  induction history with
  | empty => exact keyFacts_nil []
  | @call calls log new p request before run ended ih =>
    by_cases registers : Call.Registers operationId ⟨request, new, p⟩
    · rw [sinceRegistration, List.takeWhile_cons_of_neg (by simpa using registers)]
      exact keyFacts_nil _
    · rw [sinceRegistration, List.takeWhile_cons_of_pos (by simpa using registers)]
      by_cases retries : RetriesWith operationId idempotencyKey request
      · cases request with
        | retryAflow operation operationVersion key provider =>
          obtain ⟨rfl, rfl⟩ := retries
          exact ih.retry run ended
        | _ => exact retries.elim
      · refine ih.keep (fun again => absurd again retries) (fun goes => retries goes.retries) ?_
        rcases call_keeps retries _ p run ended with ⟨newer, same, fresh⟩ | keeps
        · cases List.append_cancel_right same
          exact absurd fresh registers
        · exact keeps

/-! ### The outcome of a replay -/

theorem get?_of_not_hasKey {fields : Dict} {key : String} (missing : hasKey fields key = false) :
    get? fields key = none := by
  cases found : get? fields key with
  | none => rfl
  | some value =>
    rw [hasKey, found] at missing
    cases missing

/-- **What a retry records, reports it.** -/
theorem retryOutcome_reports {provider : String} {result : OperationControllerResult}
    (unnamed : hasKey result.detail "provider" = false ∧ hasKey result.detail "state" = false) :
    Reports provider result (retryOutcome provider result) where
  provider := by
    rw [retryOutcome, get?_foldl_set, get?_of_not_hasKey unnamed.1]
    rfl
  state := by
    rw [retryOutcome, get?_foldl_set, get?_of_not_hasKey unnamed.2]
    rfl
  detail key value found := by
    rw [retryOutcome, get?_foldl_set, found]
    rfl

/-- **A recorded outcome is replayed.** -/
theorem Tried.replays {operationVersion : Int} {provider : String} {asked : Log}
    {result : OperationControllerResult} (found : stored log operationId = some record)
    (tried : Tried operationId idempotencyKey record
      ⟨.retryAflow operationId operationVersion idempotencyKey provider, asked, .done result⟩) :
    Replays c log operationId idempotencyKey provider result := by
  cases tried with
  | returned unnamed recorded =>
    refine ⟨record, retryOutcome provider result, found, retryOutcome_reports unnamed, ?_⟩
    intro version another
    refine outcome_load ?_
    rw [found]
    dsimp only
    rw [recorded]
    dsimp only
    rw [loadsValue, loads_dumps]
    exact outcome_done ⟨rfl, rfl⟩

def askedBy (c : OperationController) (request : Request) (script : List Reply) (log : Log) : Log :=
  (play (c.handle request) log script).1.take
    ((play (c.handle request) log script).1.length - log.length)

/-- Some scripted calls, the newest first, and the journal they leave. -/
def rehearse (c : OperationController) : List (Request × List Reply) → List Call × Log
  | [] => ([], [])
  | (request, script) :: earlier =>
    let log := (rehearse c earlier).2
    (⟨request, askedBy c request script log, (play (c.handle request) log script).2⟩ ::
      (rehearse c earlier).1, (play (c.handle request) log script).1)

def Rehearsed (c : OperationController) : List (Request × List Reply) → Prop
  | [] => True
  | (request, script) :: earlier =>
    (play (c.handle request) (rehearse c earlier).2 script).2.Ended ∧ Rehearsed c earlier

instance instDecidableRehearsed (c : OperationController) :
    (steps : List (Request × List Reply)) → Decidable (Rehearsed c steps)
  | [] => .isTrue trivial
  | (request, script) :: earlier =>
    have : Decidable (Rehearsed c earlier) := instDecidableRehearsed c earlier
    inferInstanceAs (Decidable
      ((play (c.handle request) (rehearse c earlier).2 script).2.Ended ∧ Rehearsed c earlier))

theorem askedBy_append (request : Request) (script : List Reply) (log : Log) :
    askedBy c request script log ++ log = (play (c.handle request) log script).1 := by
  obtain ⟨new, grown⟩ := (play_exec (c.handle request) log script).suffix
  have own : askedBy c request script log = new := by
    rw [askedBy, ← grown, List.length_append, Nat.add_sub_cancel, List.take_left]
  rw [own, grown]

theorem rehearse_history : ∀ steps : List (Request × List Reply), Rehearsed c steps →
    History c (rehearse c steps).1 (rehearse c steps).2
  | [], _ => .empty
  | (request, script) :: earlier, ⟨ended, rehearsed⟩ => by
    have before := rehearse_history earlier rehearsed
    have run := play_exec (c.handle request) (rehearse c earlier).2 script
    rw [← askedBy_append] at run
    have history := History.call request before run ended
    rw [askedBy_append] at history
    exact history

/-- A prepared plan whose review provider fails, and a retry with another provider. -/
def planFailed : List (Request × List Reply) :=
  [(.start "op-1" (some fixPlan) none, [.adapter (.ok [("decision", .str "provider_error")])]),
    (.register "prepared_plan" "" (some "op-1"), [])]

def backupRetry : Request × List Reply :=
  (.retryAflow "op-1" 2 "key-1" "backup",
    [.adapter (.ok [("decision", .str "insufficient_evidence")])])

def backupResult : OperationControllerResult :=
  ⟨"op-1", .suspendedEvidence,
    [("review_decision", .str "insufficient_evidence"), ("findings", .arr [])]⟩

instance : DecidablePred ControllerOp.Reads
  | .save _ => .isFalse id
  | .load _ | .append _ _ _ _ | .createPlan _ _ | .resumePlan _ _ | .review _ _ _ | .fulfil _ _ _
  | .execute _ _ _ | .resumeExecution _ _ | .chatTurn _ _ _ | .tokenHex _ | .uuid4Hex =>
    .isTrue trivial

@[irreducible] def backupAsked : Log :=
  askedBy .complete backupRetry.1 backupRetry.2 (rehearse .complete planFailed).2

@[irreducible] def backupEnded : Ctl OperationControllerResult :=
  (play (OperationController.complete.handle backupRetry.1) (rehearse .complete planFailed).2
    backupRetry.2).2

theorem rehearse_backup : (rehearse .complete (backupRetry :: planFailed)).1 =
    ⟨backupRetry.1, backupAsked, backupEnded⟩ :: (rehearse .complete planFailed).1 := by
  rw [rehearse, backupAsked, backupEnded]

end Audisor.Controller
