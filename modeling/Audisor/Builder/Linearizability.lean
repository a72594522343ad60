/-
**Bindings are linearizable, where executions are identified.**

* `call_settles` — every call, admitted or not, follows the protocol of one key.
* `Early`, `Sound` — what the phase of a call says of the turns taken so far.
* `Consistent` — the invariant. `Consistent.step` — one answered turn keeps it, if it is identified.
* **`linearizable_of_identified`** — every interleaving whose publications are identified is linearizable.
  `unidentified_unreadable` — a bind without an execution id is published, and no call can read it.
-/

import Audisor.Builder.Bindings

namespace Audisor.Idempotency

open Interaction

/-! ### Calls -/

def CallReturns (host : IndexHost) (call : IndexCall) (keyHash : String) (phase : IndexPhase)
    (answer : IndexAnswer) : Prop :=
  ∀ admittedHash fingerprint, Admitted host call admittedHash fingerprint →
    admittedHash = keyHash ∧ Returns keyHash fingerprint phase answer ∧ call.Yields answer

def CallRaises (host : IndexHost) (call : IndexCall) (keyHash : String) (phase : IndexPhase)
    (error : IdempotencyError) : Prop :=
  ∀ admittedHash fingerprint, Admitted host call admittedHash fingerprint →
    admittedHash = keyHash ∧ Raises keyHash fingerprint phase error

/-- A call follows the protocol of the key, which its records name. -/
structure CallSettles (host : IndexHost) (call : IndexCall) (keyHash : String) : Prop where
  named : ∀ record, call.Prepares host record → record.keyHash = keyHash
  settles : Settles (indexProtocol keyHash (call.Prepares host)) .begun (call.program host)
    (CallReturns host call keyHash) (CallRaises host call keyHash)

theorem Admitted.unique {host : IndexHost} {call : IndexCall} {keyHash keyHash' : String}
    {fingerprint fingerprint' : Option String} (admitted : Admitted host call keyHash fingerprint)
    (again : Admitted host call keyHash' fingerprint') :
    keyHash = keyHash' ∧ fingerprint = fingerprint' := by
  cases admitted with
  | lookup derived _ =>
    cases again with
    | lookup derived' _ => exact ⟨Except.ok.inj (derived.symm.trans derived'), rfl⟩
  | bind prepared =>
    cases again with
    | bind prepared' =>
      have same := Except.ok.inj (prepared.symm.trans prepared')
      exact ⟨by rw [same], rfl⟩

theorem callSettles_of_admitted {host : IndexHost} {call : IndexCall} {keyHash : String}
    {fingerprint : Option String} (admitted : Admitted host call keyHash fingerprint) :
    CallSettles host call keyHash where
  named := by
    rintro record ⟨args, prepared, createdAt, rfl, prepares, rfl⟩
    obtain ⟨rfl, -⟩ := admitted.unique (.bind prepares)
    obtain ⟨_, _, _, -, -, -, made⟩ := prepare_eq_ok prepares
    rw [made, made]
  settles := by
    refine (program_settles admitted).mono (fun phase answer returns => ?_)
      fun phase error raises => ?_
    · rintro keyHash' fingerprint' again
      obtain ⟨rfl, rfl⟩ := admitted.unique again
      exact ⟨rfl, returns⟩
    · rintro keyHash' fingerprint' again
      obtain ⟨rfl, rfl⟩ := admitted.unique again
      exact ⟨rfl, raises⟩

theorem callSettles_raise {host : IndexHost} {call : IndexCall} {error : IdempotencyError}
    (raises : call.program host = .raise error)
    (refused : ∀ keyHash fingerprint, ¬ Admitted host call keyHash fingerprint) :
    CallSettles host call "" where
  named := by
    rintro record ⟨args, prepared, createdAt, rfl, prepares, rfl⟩
    exact absurd (.bind prepares) (refused _ _)
  settles := by
    rw [raises]
    exact fun keyHash fingerprint admitted => absurd admitted (refused _ _)

/-- **Every call follows the protocol of one key.** -/
theorem call_settles (host : IndexHost) (call : IndexCall) :
    ∃ keyHash, CallSettles host call keyHash := by
  cases call with
  | bind args =>
    cases prepared : args.prepare host with
    | ok record => exact ⟨_, callSettles_of_admitted (.bind prepared)⟩
    | error error =>
      refine ⟨"", @callSettles_raise host _ error ?_ ?_⟩
      · show IndexAnswer.bound <$> (Program.ofExcept (args.prepare host) >>= _) = _
        rw [prepared]
        rfl
      · rintro keyHash fingerprint (_ | prepares)
        cases prepared.symm.trans prepares
  | lookup key fingerprint =>
    cases derived : deriveIdempotencyKeyHash host key with
    | ok keyHash =>
      by_cases valid : ∀ value ∈ fingerprint, isSha256Hex value = true
      · exact ⟨_, callSettles_of_admitted (.lookup derived valid)⟩
      · refine ⟨keyHash, ?_, ?_⟩
        · rintro record ⟨args, prepared, createdAt, impossible, -⟩
          cases impossible
        · have search : Settles (indexProtocol keyHash ((IndexCall.lookup key fingerprint).Prepares host))
              .begun (lookupHashed keyHash fingerprint) (Finds keyHash fingerprint .absent)
              (Raises keyHash fingerprint) := lookupHashed_settles (isSha256Hex_of_derived derived) rfl
          have refused : ∀ keyHash' fingerprint',
              ¬ Admitted host (.lookup key fingerprint) keyHash' fingerprint' := by
            rintro keyHash' fingerprint' (⟨-, valid'⟩ | -)
            exact valid valid'
          show Settles _ _ (IndexAnswer.found <$> (Program.ofExcept (deriveIdempotencyKeyHash host key)
            >>= fun keyHash => lookupHashed keyHash fingerprint)) _ _
          rw [derived, Program.ofExcept_ok, Program.done_bind]
          refine Settles.bind (search.mono ?_ ?_)
          · exact fun _ _ _ _ _ admitted => absurd admitted (refused _ _)
          · exact fun _ _ _ _ _ admitted => absurd admitted (refused _ _)
    | error error =>
      refine ⟨"", @callSettles_raise host _ error ?_ ?_⟩
      · show IndexAnswer.found <$> (Program.ofExcept (deriveIdempotencyKeyHash host key) >>= _) = _
        rw [derived]
        rfl
      · rintro keyHash fingerprint' (⟨derives, -⟩ | -)
        cases derived.symm.trans derives

/-! ### The invariant -/

/-- The thread began before the file of its key was there. -/
def Early (keyHash : String) (thread : Nat) (turns : List (Turn indexSignature)) : Prop :=
  (∃ turn ∈ turns, turn.thread = thread) ∧
    ∀ newer older, turns = newer ++ older → indexAfter older (keyHash ++ ".json") ≠ none →
      ∃ turn ∈ older, turn.thread = thread

def Sound (host : IndexHost) (call : IndexCall) (keyHash : String) (thread : Nat)
    (turns : List (Turn indexSignature)) : IndexPhase → Prop
  | .begun => True
  | .absent => Early keyHash thread turns
  | .linked record => Published turns keyHash record ∧ call.Prepares host record ∧
      Early keyHash thread turns
  | .taken => (indexAfter turns (keyHash ++ ".json")).isSome = true
  | .saw payload => indexAfter turns (keyHash ++ ".json") = some payload
  | .failed => Troubled thread turns
  | .vanished => False

/-- Every file of a key holds a record of the key that a loader accepts. -/
def Loadable (files : IndexFiles) : Prop :=
  ∀ keyHash payload, files (keyHash ++ ".json") = some payload →
    ∃ record : IdempotencyRecord, payload = record.toDict ∧ record.keyHash = keyHash ∧
      recordFromPayload payload = .ok record

def Kept (turns : List (Turn indexSignature)) : Prop :=
  ∀ newer older name payload, turns = newer ++ older →
    indexAfter older name = some payload → indexAfter turns name = some payload

/-- The invariant of an interleaving whose publications are identified. -/
structure Consistent (host : IndexHost) (calls : Nat → IndexCall) (keys : Nat → String)
    (turns : List (Turn indexSignature)) (phases : Nat → IndexPhase) : Prop where
  sound : ∀ thread, Sound host (calls thread) (keys thread) thread turns (phases thread)
  loadable : Loadable (indexAfter turns)
  oneLinked : ∀ thread other record record', keys thread = keys other →
    phases thread = .linked record → phases other = .linked record' → thread = other
  kept : Kept turns

section Consistent

variable {host : IndexHost} {calls : Nat → IndexCall} {keys : Nat → String}
  {turns : List (Turn indexSignature)} {phases : Nat → IndexPhase} {op : IndexOp}
  {answer : op.Answer} {keyHash : String} {own : IdempotencyRecord → Prop}
  {phase phase' : IndexPhase}

theorem indexAfter_cons (thread : Nat) (op : IndexOp) (answer : op.Answer) :
    (∃ name record, (⟨op, answer⟩ : Event indexSignature) = ⟨.link name record, .made⟩) ∨
      indexAfter (⟨thread, op, answer⟩ :: turns) = indexAfter turns := by
  cases op with
  | link name record =>
    cases answer with
    | made => exact .inl ⟨name, record, rfl⟩
    | fileExists => exact .inr rfl
    | failed => exact .inr rfl
  | _ => exact .inr rfl

theorem kept_of_answered (thread : Nat)
    (answered : indexEnvironment.answers (indexAfter turns) op answer) {name : String}
    {payload : Json} (before : indexAfter turns name = some payload) :
    indexAfter (⟨thread, op, answer⟩ :: turns) name = some payload := by
  rcases indexAfter_cons thread op answer with ⟨linkedName, record, same⟩ | quiet
  · cases same
    have elsewhere : name ≠ linkedName := by
      rintro rfl
      exact Option.some_ne_none payload (before.symm.trans answered)
    show Function.update (indexAfter turns) linkedName (some record.toDict) name = some payload
    rwa [Function.update_of_ne elsewhere]
  · rwa [quiet]

theorem Kept.cons (kept : Kept turns) (thread : Nat)
    (answered : indexEnvironment.answers (indexAfter turns) op answer) :
    Kept (⟨thread, op, answer⟩ :: turns) := by
  intro newer older name payload split before
  cases newer with
  | nil =>
    rw [List.nil_append] at split
    rwa [split]
  | cons turn newer =>
    obtain ⟨-, rfl⟩ := List.cons.inj split
    exact kept_of_answered thread answered (kept newer older name payload rfl before)

theorem Early.cons {thread : Nat} (early : Early keyHash thread turns) (turn : Turn indexSignature) :
    Early keyHash thread (turn :: turns) := by
  obtain ⟨mine, member, same⟩ := early.1
  refine ⟨⟨mine, List.mem_cons_of_mem _ member, same⟩, fun newer older split there => ?_⟩
  cases newer with
  | nil =>
    rw [List.nil_append] at split
    exact ⟨mine, split ▸ List.mem_cons_of_mem _ member, same⟩
  | cons first newer => exact early.2 newer older (List.cons.inj split).2 there

theorem early_of_missed (kept : Kept turns) {thread : Nat}
    (missing : indexAfter turns (keyHash ++ ".json") = none) (event : Event indexSignature) :
    Early keyHash thread (⟨thread, event⟩ :: turns) := by
  refine ⟨⟨_, List.mem_cons_self, rfl⟩, fun newer older split there => ?_⟩
  cases newer with
  | nil =>
    rw [List.nil_append] at split
    exact ⟨_, split ▸ List.mem_cons_self, rfl⟩
  | cons first newer =>
    obtain ⟨payload, holds⟩ := Option.ne_none_iff_exists'.mp there
    have later := kept newer older _ payload (List.cons.inj split).2 holds
    exact absurd (missing.symm.trans later) (Option.some_ne_none payload).symm

theorem Sound.cons {call : IndexCall} {thread : Nat} (sound : Sound host call keyHash thread turns phase)
    (mover : Nat) (answered : indexEnvironment.answers (indexAfter turns) op answer) :
    Sound host call keyHash thread (⟨mover, op, answer⟩ :: turns) phase := by
  cases phase with
  | begun => trivial
  | absent => exact Early.cons sound _
  | linked record =>
    exact ⟨kept_of_answered mover answered sound.1, sound.2.1, sound.2.2.cons _⟩
  | taken =>
    obtain ⟨payload, holds⟩ := Option.isSome_iff_exists.mp sound
    exact Option.isSome_iff_exists.mpr ⟨payload, kept_of_answered mover answered holds⟩
  | saw payload => exact kept_of_answered mover answered sound
  | failed =>
    obtain ⟨turn, member, mine, fails⟩ := sound
    exact ⟨turn, List.mem_cons_of_mem _ member, mine, fails⟩
  | vanished => exact sound

/-- **What a move says of the phase it leads to.** -/
theorem Sound.move {call : IndexCall} {thread : Nat} (kept : Kept turns)
    (sound : Sound host call keyHash thread turns phase)
    (answered : indexEnvironment.answers (indexAfter turns) op answer)
    (move : IndexMove keyHash (call.Prepares host) phase op answer phase') :
    Sound host call keyHash thread (⟨thread, op, answer⟩ :: turns) phase' := by
  cases move with
  | clock _ _ => exact sound.cons thread answered
  | looked _ _ => exact sound.cons thread answered
  | there _ => exact sound.cons thread answered
  | ensured _ => exact sound.cons thread answered
  | staged _ _ => exact sound.cons thread answered
  | cleaned _ _ => exact sound.cons thread answered
  | missed missed =>
    have missing : indexAfter turns (keyHash ++ ".json") = none :=
      Option.isSome_eq_false_iff.mp answered.symm |> Option.isNone_iff_eq_none.mp
    cases phase with
    | begun =>
      cases missed
      exact early_of_missed kept missing _
    | taken =>
      have there : (indexAfter turns (keyHash ++ ".json")).isSome = true := sound
      rw [missing] at there
      cases there
    | failed =>
      cases missed
      exact sound.cons thread answered
    | absent => cases missed
    | linked _ => cases missed
    | saw _ => cases missed
    | vanished => cases missed
  | read _ payload => exact kept_of_answered thread answered answered
  | @linked record mine => exact ⟨Function.update_self .., mine, Early.cons sound _⟩
  | taken record =>
    obtain ⟨payload, holds⟩ := Option.isSome_iff_exists.mp answered
    exact Option.isSome_iff_exists.mpr ⟨payload, kept_of_answered thread answered holds⟩
  | failed _ fails => exact ⟨_, List.mem_cons_self, rfl, fails⟩

theorem IndexMove.linked_iff {record : IdempotencyRecord}
    (move : IndexMove keyHash own phase op answer (.linked record)) :
    phase = .linked record ∨ own record ∧
      (⟨op, answer⟩ : Event indexSignature) = ⟨.link (keyHash ++ ".json") record, .made⟩ := by
  generalize after : IndexPhase.linked record = phase' at move
  cases move with
  | missed missed =>
    subst after
    cases phase with
    | begun => cases missed
    | taken => cases missed
    | failed => cases missed
    | absent => cases missed
    | linked _ => cases missed
    | saw _ => cases missed
    | vanished => cases missed
  | linked mine =>
    cases after
    exact .inr ⟨mine, rfl⟩
  | read _ _ => cases after
  | taken _ => cases after
  | failed _ _ => cases after
  | _ => exact .inl rfl

theorem IndexMove.made {name : String} {record : IdempotencyRecord}
    (move : IndexMove keyHash own phase (.link name record) .made phase') :
    name = keyHash ++ ".json" ∧ own record := by
  cases move with
  | linked mine => exact ⟨rfl, mine⟩
  | failed _ fails => cases fails

/-- **An identified record is loadable once it is published.** -/
theorem loadable_linked {call : IndexCall} {record : IdempotencyRecord} {files : IndexFiles}
    (loadable : Loadable files) (mine : call.Prepares host record) (named : record.keyHash = keyHash)
    (identified : record.buildId ≠ "" ∧ record.executionId ≠ "") :
    Loadable (Function.update files (keyHash ++ ".json") (some record.toDict)) := by
  intro otherHash payload holds
  by_cases same : otherHash = keyHash
  · subst same
    rw [Function.update_self] at holds
    cases holds
    obtain ⟨args, prepared, createdAt, -, prepares, rfl⟩ := mine
    obtain ⟨_, _, _, -, -, -, made⟩ := prepare_eq_ok prepares
    have given : args.buildId ≠ "" ∧ args.executionId ≠ "" := by
      rw [made] at identified
      exact identified
    exact ⟨_, rfl, named, recordFromPayload_prepared prepares given⟩
  · have elsewhere : otherHash ++ ".json" ≠ keyHash ++ ".json" := fun equal =>
      same ((String.append_left_inj ".json").mp equal)
    rw [Function.update_of_ne elsewhere] at holds
    exact loadable otherHash payload holds

/-- **One answered turn keeps the invariant**, if what it publishes is identified. -/
theorem Consistent.step (consistent : Consistent host calls keys turns phases) (thread : Nat)
    (named : ∀ record, (calls thread).Prepares host record → record.keyHash = keys thread)
    (answered : indexEnvironment.answers (indexAfter turns) op answer)
    (move : IndexMove (keys thread) ((calls thread).Prepares host) (phases thread) op answer phase')
    (identified : Identified turns ⟨thread, op, answer⟩) :
    Consistent host calls keys (⟨thread, op, answer⟩ :: turns)
      (Function.update phases thread phase') where
  sound := by
    intro other
    by_cases same : other = thread
    · subst same
      rw [Function.update_self]
      exact Sound.move consistent.kept (consistent.sound other) answered move
    · rw [Function.update_of_ne same]
      exact (consistent.sound other).cons thread answered
  loadable := by
    rcases indexAfter_cons thread op answer with ⟨name, record, same⟩ | quiet
    · cases same
      obtain ⟨rfl, mine⟩ := move.made
      exact loadable_linked consistent.loadable mine (named record mine) identified
    · rw [quiet]
      exact consistent.loadable
  oneLinked := by
    -- a new publisher finds no file, and an old one has left its own there
    have fresh : ∀ other record record', other ≠ thread → keys thread = keys other →
        phase' = .linked record → phases other = .linked record' → False := by
      rintro other record record' different sameKey rfl linked
      rcases move.linked_iff with already | ⟨-, same⟩
      · exact different (consistent.oneLinked thread other _ _ sameKey already linked).symm
      · cases same
        have there := consistent.sound other
        rw [linked] at there
        have holds := there.1
        rw [Published, ← sameKey] at holds
        exact Option.some_ne_none _ (holds.symm.trans answered)
    intro first second record record' sameKey linked linked'
    by_cases mine : first = thread
    · by_cases mine' : second = thread
      · rw [mine, mine']
      · rw [mine, Function.update_self] at linked
        rw [Function.update_of_ne mine'] at linked'
        exact (fresh second _ _ mine' (mine ▸ sameKey) linked linked').elim
    · rw [Function.update_of_ne mine] at linked
      by_cases mine' : second = thread
      · rw [mine', Function.update_self] at linked'
        exact (fresh first _ _ mine (mine' ▸ sameKey.symm) linked' linked).elim
      · rw [Function.update_of_ne mine'] at linked'
        exact consistent.oneLinked first second _ _ sameKey linked linked'
  kept := consistent.kept.cons thread answered

theorem consistent_start : Consistent host calls keys [] fun _ => .begun where
  sound := fun _ => trivial
  loadable := by
    rintro keyHash payload ⟨⟩
  oneLinked := by
    rintro thread other record record' - ⟨⟩
  kept := by
    intro newer older name payload split holds
    rw [(List.append_eq_nil_iff.mp split.symm).2] at holds
    exact holds

end Consistent

/-! ### Every run -/

section Run

variable {host : IndexHost} {calls : Nat → IndexCall} {threads : Nat → IndexProgram IndexAnswer}
  {keys : Nat → String} {turns : List (Turn indexSignature)} {phases : Nat → IndexPhase}

/-- **Every point of a run whose publications are identified is consistent.** -/
theorem consistent_of_identified (run : IndexRun host calls threads turns)
    (identified : Always Identified turns) :
    ∃ keys phases, Consistent host calls keys turns phases ∧ ∀ thread,
      Settles (indexProtocol (keys thread) ((calls thread).Prepares host)) (phases thread)
        (threads thread) (CallReturns host (calls thread) (keys thread))
        (CallRaises host (calls thread) (keys thread)) := by
  choose keyOf settles using call_settles host
  obtain ⟨phases, settled, consistent⟩ := run.settles
    (P := fun thread => indexProtocol (keyOf (calls thread)) ((calls thread).Prepares host))
    (Q := fun thread => CallReturns host (calls thread) (keyOf (calls thread)))
    (R := fun thread => CallRaises host (calls thread) (keyOf (calls thread)))
    (fun turns phases => Always Identified turns →
      Consistent host calls (fun thread => keyOf (calls thread)) turns phases)
    (fun thread => (settles (calls thread)).settles) (fun _ => consistent_start)
    (fun turns states thread op answer state' earlier answered move identified =>
      (earlier identified.2).step thread (settles (calls thread)).named answered move identified.1)
  exact ⟨_, phases, consistent identified, settled⟩

theorem IdempotencyRecord.toDict_injective : Function.Injective IdempotencyRecord.toDict := by
  rintro ⟨_, _, _, _, _, _, _⟩ ⟨_, _, _, _, _, _, _⟩ same
  simpa [IdempotencyRecord.toDict] using same

theorem Admitted.valid {call : IndexCall} {keyHash : String} {fingerprint : Option String}
    (admitted : Admitted host call keyHash fingerprint) :
    ∀ value ∈ fingerprint, isSha256Hex value = true := by
  cases admitted with
  | lookup _ valid => exact valid
  | bind prepared =>
    obtain ⟨_, _, _, -, valid, -, -⟩ := prepare_eq_ok prepared
    rintro value ⟨⟩
    exact valid

theorem acceptRecord_loaded {record : IdempotencyRecord} {payload : Json}
    {fingerprint : Option String} (loaded : recordFromPayload payload = .ok record)
    (valid : ∀ value ∈ fingerprint, isSha256Hex value = true) :
    acceptRecord record.keyHash fingerprint payload =
      if ∀ value ∈ fingerprint, record.requestFingerprint = value then .ok record
      else .error (.conflict record) := by
  unfold acceptRecord
  rw [loaded]
  show (require (record.keyHash == record.keyHash) _ >>= _) = _
  rw [beq_self_eq_true]
  cases fingerprint with
  | none => simp [require]
  | some value =>
    have digest : validateSha256 value "request_fingerprint" = .ok () := by
      rw [validateSha256, valid value rfl]
      rfl
    show (validateSha256 value "request_fingerprint" >>= fun _ => _) = _
    rw [digest]
    simp only [Option.mem_def, Option.some.injEq, forall_eq']
    rfl

theorem Consistent.read (consistent : Consistent host calls keys turns phases) {thread : Nat}
    {fingerprint : Option String}
    (admitted : Admitted host (calls thread) (keys thread) fingerprint) {payload : Json}
    (saw : phases thread = .saw payload) :
    ∃ record, Published turns (keys thread) record ∧
      acceptRecord (keys thread) fingerprint payload =
        if ∀ value ∈ fingerprint, record.requestFingerprint = value then .ok record
        else .error (.conflict record) := by
  have holds := consistent.sound thread
  rw [saw] at holds
  obtain ⟨record, rfl, named, loaded⟩ := consistent.loadable (keys thread) payload holds
  refine ⟨record, holds, ?_⟩
  rw [← named]
  exact acceptRecord_loaded loaded admitted.valid

/-- **An accepted record is the published one**, with the fingerprint that was asked for. -/
theorem Consistent.accepted (consistent : Consistent host calls keys turns phases) {thread : Nat}
    {fingerprint : Option String}
    (admitted : Admitted host (calls thread) (keys thread) fingerprint) {record : IdempotencyRecord}
    (accepted : Accepted (keys thread) fingerprint (phases thread) record) :
    Published turns (keys thread) record ∧
      ∀ value ∈ fingerprint, record.requestFingerprint = value := by
  obtain ⟨payload, saw, accepts⟩ := accepted
  obtain ⟨published, holds, judged⟩ := consistent.read admitted saw
  rw [judged] at accepts
  split at accepts
  · rename_i same
    cases accepts
    exact ⟨holds, same⟩
  · cases accepts

/-- What an admitted call of a run ends with. -/
inductive CallEnd (host : IndexHost) (calls : Nat → IndexCall) (threads : Nat → IndexProgram IndexAnswer)
    (turns : List (Turn indexSignature)) (keyHash : String) (fingerprint : Option String)
    (thread : Nat) : Prop
  | missed (ends : threads thread = .done (.found none)) (early : Early keyHash thread turns)
  | new (record : IdempotencyRecord) (ends : threads thread = .done (.bound ⟨record, true⟩))
    (published : Published turns keyHash record)
    (printed : fingerprint = some record.requestFingerprint) (early : Early keyHash thread turns)
  | replayed (record : IdempotencyRecord) (ends : threads thread = (calls thread).replay record)
    (published : Published turns keyHash record)
  | troubled (error : IdempotencyError) (ends : threads thread = .raise error)
    (other : ∀ record, error ≠ .conflict record) (troubled : Troubled thread turns)

theorem replay_of_accepted {call : IndexCall} {keyHash : String} {fingerprint : Option String}
    (admitted : Admitted host call keyHash fingerprint) {record : IdempotencyRecord}
    (same : ∀ value ∈ fingerprint, record.requestFingerprint = value) :
    (∀ record', call.Yields (.found (some record')) → call.replay record = .done (.found (some record))) ∧
      ∀ binding, call.Yields (.bound binding) → call.replay record = .done (.bound ⟨record, false⟩) := by
  cases admitted with
  | lookup _ _ => exact ⟨fun _ _ => if_pos same, fun _ impossible => impossible.elim⟩
  | bind _ => exact ⟨fun _ impossible => impossible.elim, fun _ _ => if_pos (same _ rfl)⟩

theorem replay_of_conflict {call : IndexCall} {keyHash : String} {fingerprint : Option String}
    (admitted : Admitted host call keyHash fingerprint) {record : IdempotencyRecord}
    (different : ¬ ∀ value ∈ fingerprint, record.requestFingerprint = value) :
    call.replay record = .raise (.conflict record) := by
  cases admitted with
  | lookup _ _ => exact if_neg different
  | bind _ =>
    refine if_neg fun same => different ?_
    rintro value ⟨⟩
    exact same

theorem Admitted.printed {call : IndexCall} {keyHash : String} {fingerprint : Option String}
    (admitted : Admitted host call keyHash fingerprint) {record : IdempotencyRecord}
    (mine : call.Prepares host record) : fingerprint = some record.requestFingerprint := by
  obtain ⟨args, prepared, createdAt, rfl, prepares, rfl⟩ := mine
  obtain ⟨-, rfl⟩ := admitted.unique (.bind prepares)
  obtain ⟨_, _, _, -, -, -, made⟩ := prepare_eq_ok prepares
  rw [made]

/-- **How an admitted call ends**, at a consistent point. -/
theorem Consistent.callEnd (consistent : Consistent host calls keys turns phases) {thread : Nat}
    (settled : Settles (indexProtocol (keys thread) ((calls thread).Prepares host)) (phases thread)
      (threads thread) (CallReturns host (calls thread) (keys thread))
      (CallRaises host (calls thread) (keys thread)))
    {keyHash : String} {fingerprint : Option String}
    (admitted : Admitted host (calls thread) keyHash fingerprint)
    (ended : (threads thread).Ended) :
    CallEnd host calls threads turns keyHash fingerprint thread := by
  have sound := consistent.sound thread
  cases ends : threads thread with
  | ask op next =>
    rw [ends] at ended
    exact ended.elim
  | done answer =>
    rw [ends] at settled
    obtain ⟨rfl, returns, yields⟩ := settled _ _ admitted
    rcases answer with (_ | record) | ⟨record, _ | _⟩
    · rw [show phases thread = .absent from returns] at sound
      exact .missed ends sound
    · obtain ⟨published, same⟩ := consistent.accepted admitted returns
      exact .replayed record (ends.trans ((replay_of_accepted admitted same).1 _ yields).symm) published
    · obtain ⟨published, same⟩ := consistent.accepted admitted returns
      exact .replayed record (ends.trans ((replay_of_accepted admitted same).2 _ yields).symm) published
    · rw [show phases thread = .linked record from returns] at sound
      obtain ⟨published, mine, early⟩ := sound
      exact .new record ends published (admitted.printed mine) early
  | raise error =>
    rw [ends] at settled
    obtain ⟨rfl, ⟨failed, other⟩ | vanished | ⟨payload, saw, refused⟩⟩ := settled _ _ admitted
    · rw [failed] at sound
      exact .troubled error ends other sound
    · rw [vanished] at sound
      exact sound.elim
    · obtain ⟨record, published, judged⟩ := consistent.read admitted saw
      rw [judged] at refused
      split at refused
      · cases refused
      · rename_i different
        cases refused
        exact .replayed record (ends.trans (replay_of_conflict admitted different).symm) published

theorem IndexCall.replay_cases {call : IndexCall} {keyHash : String} {fingerprint : Option String}
    (admitted : Admitted host call keyHash fingerprint) (record : IdempotencyRecord) :
    (∀ value ∈ fingerprint, record.requestFingerprint = value) ∧
        (call.replay record = .done (.found (some record)) ∨
          call.replay record = .done (.bound ⟨record, false⟩) ∧
            fingerprint = some record.requestFingerprint) ∨
      (∃ value ∈ fingerprint, record.requestFingerprint ≠ value) ∧
        call.replay record = .raise (.conflict record) := by
  by_cases same : ∀ value ∈ fingerprint, record.requestFingerprint = value
  · refine .inl ⟨same, ?_⟩
    cases admitted with
    | lookup _ _ => exact .inl (if_pos same)
    | bind _ => exact .inr ⟨if_pos (same _ rfl), congrArg some (same _ rfl).symm⟩
  · refine .inr ⟨?_, replay_of_conflict admitted same⟩
    push Not at same
    exact same

/-- **Every interleaving whose publications are identified is linearizable.** -/
theorem linearizable_of_identified (host : IndexHost) (calls : Nat → IndexCall)
    (threads : Nat → IndexProgram IndexAnswer) (turns : List (Turn indexSignature))
    (run : IndexRun host calls threads turns) (identified : Always Identified turns) :
    Linearizable host calls threads turns := by
  obtain ⟨keys, phases, consistent, settled⟩ := consistent_of_identified run identified
  have ends : ∀ {thread keyHash fingerprint}, Admitted host (calls thread) keyHash fingerprint →
      (threads thread).Ended → CallEnd host calls threads turns keyHash fingerprint thread :=
    fun {thread _ _} admitted ended => consistent.callEnd (settled thread) admitted ended
  constructor
  case oneNew =>
    intro thread other keyHash fingerprint fingerprint' record record' admitted admitted' new new'
    have phase := settled thread
    have phase' := settled other
    rw [new] at phase
    rw [new'] at phase'
    obtain ⟨key, linked, -⟩ := phase _ _ admitted
    obtain ⟨key', linked', -⟩ := phase' _ _ admitted'
    exact consistent.oneLinked thread other record record' (key.symm.trans key') linked linked'
  case bound =>
    intro thread keyHash fingerprint binding admitted done
    rcases ends admitted (by rw [done]; trivial) with ⟨end', -⟩ | ⟨record, end', published, printed, -⟩ |
      ⟨record, end', published⟩ | ⟨error, end', -, -⟩
    · cases done.symm.trans end'
    · cases done.symm.trans end'
      exact ⟨published, printed⟩
    · rcases IndexCall.replay_cases admitted record with ⟨-, found | ⟨bound, printed⟩⟩ | ⟨-, raised⟩
      · cases done.symm.trans (end'.trans found)
      · cases done.symm.trans (end'.trans bound)
        exact ⟨published, printed⟩
      · cases done.symm.trans (end'.trans raised)
    · cases done.symm.trans end'
  case found =>
    intro thread keyHash fingerprint record admitted done
    rcases ends admitted (by rw [done]; trivial) with ⟨end', -⟩ | ⟨record, end', -, -, -⟩ |
      ⟨record, end', published⟩ | ⟨error, end', -, -⟩
    · cases done.symm.trans end'
    · cases done.symm.trans end'
    · rcases IndexCall.replay_cases admitted record with ⟨same, found | ⟨bound, -⟩⟩ | ⟨-, raised⟩
      · cases done.symm.trans (end'.trans found)
        exact ⟨published, same⟩
      · cases done.symm.trans (end'.trans bound)
      · cases done.symm.trans (end'.trans raised)
    · cases done.symm.trans end'
  case conflicting =>
    intro thread keyHash fingerprint record admitted raise
    rcases ends admitted (by rw [raise]; trivial) with ⟨end', -⟩ | ⟨record, end', -, -, -⟩ |
      ⟨record, end', published⟩ | ⟨error, end', other, -⟩
    · cases raise.symm.trans end'
    · cases raise.symm.trans end'
    · rcases IndexCall.replay_cases admitted record with ⟨-, found | ⟨bound, -⟩⟩ | ⟨different, raised⟩
      · cases raise.symm.trans (end'.trans found)
      · cases raise.symm.trans (end'.trans bound)
      · cases raise.symm.trans (end'.trans raised)
        exact ⟨published, different⟩
    · cases raise.symm.trans end'
      exact absurd rfl (other record)
  case late =>
    intro newer older thread keyHash fingerprint record split published unbegun admitted calm ended
    have there : indexAfter older (keyHash ++ ".json") ≠ none := fun missing =>
      Option.some_ne_none _ (published.symm.trans missing)
    have notEarly : ¬ Early keyHash thread turns := fun early => by
      obtain ⟨turn, member, mine⟩ := early.2 newer older split there
      exact unbegun turn member mine
    rcases ends admitted ended with ⟨-, early⟩ | ⟨_, -, -, -, early⟩ | ⟨record', end', published'⟩ |
      ⟨_, -, -, troubled⟩
    · exact absurd early notEarly
    · exact absurd early notEarly
    · have same := (consistent.kept newer older _ _ split published).symm.trans published'
      rw [IdempotencyRecord.toDict_injective (Option.some.inj same)]
      exact end'
    · exact absurd troubled calm
  case settled =>
    intro thread keyHash fingerprint admitted calm ended
    rcases ends admitted ended with ⟨done, -⟩ | ⟨_, done, -, -, -⟩ | ⟨record, end', -⟩ |
      ⟨_, -, -, troubled⟩
    · exact .inl ⟨_, done⟩
    · exact .inl ⟨_, done⟩
    · rcases IndexCall.replay_cases admitted record with ⟨-, found | ⟨bound, -⟩⟩ | ⟨-, raised⟩
      · exact .inl ⟨_, end'.trans found⟩
      · exact .inl ⟨_, end'.trans bound⟩
      · exact .inr ⟨_, end'.trans raised⟩
    · exact absurd troubled calm
  case unchanged => exact consistent.kept

end Run

/-! ### Two binds of one request -/

instance : DecidablePred Fails
  | ⟨.lookRoot, root⟩ => inferInstanceAs (Decidable (root = .tampered))
  | ⟨.read _, found⟩ => inferInstanceAs (Decidable (found = .tampered ∨ found = .unreadable))
  | ⟨.ensureDirectory, change⟩ | ⟨.stage _ _, change⟩ => inferInstanceAs (Decidable (change ≠ .made))
  | ⟨.link _ _, change⟩ => inferInstanceAs (Decidable (change = .failed))
  | ⟨.unlinkStaged _, removed⟩ => inferInstanceAs (Decidable (removed = false))
  | ⟨.isThere _, _⟩ | ⟨.utcNow, _⟩ => .isFalse id

instance (older : List (Turn indexSignature)) : DecidablePred (Identified older)
  | ⟨_, .link _ record, .made⟩ =>
    inferInstanceAs (Decidable (record.buildId ≠ "" ∧ record.executionId ≠ ""))
  | ⟨_, .link _ _, .fileExists⟩ | ⟨_, .link _ _, .failed⟩ | ⟨_, .lookRoot, _⟩ | ⟨_, .isThere _, _⟩
  | ⟨_, .read _, _⟩ | ⟨_, .utcNow, _⟩ | ⟨_, .ensureDirectory, _⟩ | ⟨_, .stage _ _, _⟩
  | ⟨_, .unlinkStaged _, _⟩ => .isTrue trivial

def executionHost : IndexHost where
  nfkc := id
  sha := Aflow.sha256
  expanduser := id
  resolve text := if text = "/execution" then ["execution"] else ["execution", "state.json"]
  resolved text := by
    split <;> simp

def calmDisk (log : List (Event indexSignature)) : (op : IndexOp) → op.Answer
  | .lookRoot => .directory
  | .isThere name => (indexEnvironment.after (fun _ => none) log name).isSome
  | .read name =>
    match indexEnvironment.after (fun _ => none) log name with
    | some payload => .holds payload
    | none => .unreadable
  | .utcNow => "2025-01-01T00:00:00Z"
  | .ensureDirectory | .stage _ _ => .made
  | .link name _ =>
    if (indexEnvironment.after (fun _ => none) log name).isSome then .fileExists else .made
  | .unlinkStaged _ => true

theorem calmDisk_answers (log : List (Event indexSignature)) (op : IndexOp) :
    indexEnvironment.journaled (fun _ => none) log op (calmDisk log op) := by
  unfold Environment.journaled calmDisk
  cases op with
  | isThere name => rfl
  | read name =>
    dsimp only
    split
    · assumption
    · trivial
  | link name record =>
    dsimp only
    split
    · assumption
    · rename_i missing
      exact Option.not_isSome_iff_eq_none.mp missing
  | _ => trivial

def boundRequest (executionId : String) : BindArguments where
  idempotencyKey := "key"
  requestFingerprint := "".pushn 'a' 64
  buildId := "build"
  executionId := executionId
  executionPath := "/execution"

def boundAgain (executionId : String) (_ : Nat) : IndexCall := .bind (boundRequest executionId)

def boundInTurn (executionId : String) :
    (Nat → IndexProgram IndexAnswer) × List (Turn indexSignature) :=
  scheduled calmDisk (fun thread => (boundAgain executionId thread).program executionHost)
    [0, 0, 0, 0, 0, 0, 0, 1, 1, 1, 1]

theorem boundInTurn_run (executionId : String) :
    IndexRun executionHost (boundAgain executionId) (boundInTurn executionId).1
      (boundInTurn executionId).2 :=
  interleaving_scheduled calmDisk_answers _ _

/-- **With an execution id, the two binds are linearizable.** -/
theorem linearizable_boundInTurn :
    (∃ keyHash, Admitted executionHost (boundAgain "execution" 0) keyHash
        (some (boundRequest "execution").requestFingerprint)) ∧
      Linearizable executionHost (boundAgain "execution") (boundInTurn "execution").1
        (boundInTurn "execution").2 := by
  have prepared : ((boundRequest "execution").prepare executionHost).toOption.isSome = true := by
    decide +kernel
  refine ⟨?_, linearizable_of_identified executionHost (boundAgain "execution") _ _
    (boundInTurn_run "execution") (by decide +kernel)⟩
  cases prepares : (boundRequest "execution").prepare executionHost with
  | ok record => exact ⟨_, .bind prepares⟩
  | error error =>
    rw [prepares] at prepared
    cases prepared

/-- **Without an execution id, the first bind is published and the second cannot read it**: it raises
an index error, and no step of the disk has failed. -/
theorem unidentified_unreadable : ∃ threads turns,
    IndexRun executionHost (boundAgain "") threads turns ∧
      threads 1 = .raise (.index "Idempotency execution identity is invalid") ∧
      ¬ Troubled 1 turns ∧ ¬ Linearizable executionHost (boundAgain "") threads turns := by
  have prepared : ((boundRequest "").prepare executionHost).toOption.isSome = true := by
    decide +kernel
  have raised : ((boundInTurn "").1 1).raised? =
      some (.index "Idempotency execution identity is invalid") := by
    decide +kernel
  have calm : ¬ ∃ turn ∈ (boundInTurn "").2, turn.thread = 1 ∧ Fails turn.event := by
    decide +kernel
  have raises := Program.raised?_eq_some.mp raised
  refine ⟨_, _, boundInTurn_run "", raises, calm, fun linear => ?_⟩
  cases prepares : (boundRequest "").prepare executionHost with
  | error error =>
    rw [prepares] at prepared
    cases prepared
  | ok record =>
    have admitted : Admitted executionHost (boundAgain "" 1) _ _ := .bind prepares
    rcases linear.settled 1 _ _ admitted calm (by rw [raises]; trivial) with
      ⟨answer, done⟩ | ⟨conflict, raise⟩
    · cases raises.symm.trans done
    · cases raises.symm.trans raise

end Audisor.Idempotency
