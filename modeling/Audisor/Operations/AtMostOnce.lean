/-
**Bound once, and claimed once.**

* `SharedPhase` — what a call knows of the file of its operation, and what it has begun to write.
  `sharedCall_follows` — every call goes through the phases.
* `AtMostOnce` — at most one bind is new, at most one claim is granted, and what was consumed is not
  claimable again.
* `Undisturbed` — a call truncates the file only where no other has written since it last looked.
* **`atMostOnce_of_undisturbed`** — in every interleaving in which every write is undisturbed.
  `bound_twice` — two binds that look before either writes are both new.
-/

import Audisor.Operations.SharedStore

namespace Audisor.Operations

open Interaction Json

/-! ### Phases -/

/-- Where a call is. -/
inductive SharedPhase where
  | blind
  | knows (seen : SharedFile)
  | writing (record : SharedRecord)
  | written

def SharedPhase.Wrote (phase : SharedPhase) : Prop :=
  (∃ record, phase = .writing record) ∨ phase = .written

theorem not_wrote {phase : SharedPhase}
    (early : ∀ record, phase ≠ .writing record ∧ phase ≠ .written) : ¬ phase.Wrote := by
  rintro (⟨record, writing⟩ | written)
  · exact (early record).1 writing
  · exact (early {}).2 written

theorem not_wrote_knows {seen : SharedFile} : ¬ (SharedPhase.knows seen).Wrote :=
  not_wrote fun _ => ⟨nofun, nofun⟩

/-- What a call makes of what it has seen; `none` where it does not write. -/
def SharedCall.update (operationId : String) (seen : SharedFile) : SharedCall → Option SharedRecord
  | .bind requestHash metadata =>
    match seen with
    | .absent =>
      some { operationId := some operationId, canonicalRequestHash := some requestHash
             metadata := some metadata }
    | .torn | .holds _ => none
  | .load => none
  | .persistResponse response =>
    match seen with
    | .absent => some { storedResponse := some response }
    | .torn => none
    | .holds record => some { record with storedResponse := some response }
  | .claimContinuation _ requestHash =>
    match seen with
    | .absent | .torn => none
    | .holds record =>
      if record.canonicalRequestHash = some requestHash ∧ record.continuationConsumed = false then
        some { record with continuationConsumed := true }
      else none

/-- The moves of a call for an operation. -/
inductive SharedMove (name operationId : String) (call : SharedCall) :
    SharedPhase → (op : SharedOp) → op.Answer → SharedPhase → Prop
  | absent {phase : SharedPhase} (early : ∀ record, phase ≠ .writing record ∧ phase ≠ .written) :
    SharedMove name operationId call phase (.pathExists name) false (.knows .absent)
  | there {phase : SharedPhase} (early : ∀ record, phase ≠ .writing record ∧ phase ≠ .written) :
    SharedMove name operationId call phase (.pathExists name) true .blind
  | read {phase : SharedPhase} (early : ∀ record, phase ≠ .writing record ∧ phase ≠ .written)
    (found : SharedFile) : SharedMove name operationId call phase (.read name) found (.knows found)
  | truncate {seen : SharedFile} {record : SharedRecord}
    (update : call.update operationId seen = some record) :
    SharedMove name operationId call (.knows seen) (.truncate name) () (.writing record)
  | write (record : SharedRecord) :
    SharedMove name operationId call (.writing record) (.write name record) () .written
  | acquire (phase : SharedPhase) (owner : Nat) :
    SharedMove name operationId call phase (.acquire owner) () phase
  | release (phase : SharedPhase) (owner : Nat) :
    SharedMove name operationId call phase (.release owner) () phase

def sharedProtocol (name operationId : String) (call : SharedCall) :
    Protocol sharedSignature SharedPhase where
  Move := SharedMove name operationId call
  Rest := fun _ => True

def Tells (call : SharedCall) (phase : SharedPhase) : SharedAnswer → Prop
  | .new => (∃ requestHash metadata, call = .bind requestHash metadata) ∧ phase = .written
  | .claimed => (∃ owner requestHash, call = .claimContinuation owner requestHash) ∧ phase = .written
  | _ => True

theorem early_blind (record : SharedRecord) :
    SharedPhase.blind ≠ .writing record ∧ SharedPhase.blind ≠ .written := ⟨nofun, nofun⟩

variable {name operationId : String}

theorem follows_writeRecord {call : SharedCall} {seen : SharedFile} {record : SharedRecord}
    (update : call.update operationId seen = some record) :
    Follows (sharedProtocol name operationId call) (.knows seen) (writeRecord name record)
      fun phase _ => phase = .written :=
  fun _ => ⟨_, .truncate update, fun _ => ⟨_, .write record, rfl⟩⟩

theorem follows_read {α : Type} {call : SharedCall} {next : SharedFile → SharedProgram α}
    {Q : SharedPhase → α → Prop}
    (rest : ∀ found, Follows (sharedProtocol name operationId call) (.knows found) (next found) Q) :
    Follows (sharedProtocol name operationId call) .blind (sharedStep (.read name) >>= next) Q :=
  fun found => ⟨_, .read early_blind found, rest found⟩

theorem follows_pathExists {α : Type} {call : SharedCall} {next : Bool → SharedProgram α}
    {Q : SharedPhase → α → Prop}
    (absent : Follows (sharedProtocol name operationId call) (.knows .absent) (next false) Q)
    (there : Follows (sharedProtocol name operationId call) .blind (next true) Q) :
    Follows (sharedProtocol name operationId call) .blind
      (sharedStep (.pathExists name) >>= next) Q := by
  rintro (_ | _)
  · exact ⟨_, .absent early_blind, absent⟩
  · exact ⟨_, .there early_blind, there⟩

theorem follows_acquire {α : Type} {call : SharedCall} {owner : Nat} {next : SharedProgram α}
    {phase : SharedPhase} {Q : SharedPhase → α → Prop}
    (rest : Follows (sharedProtocol name operationId call) phase next Q) :
    Follows (sharedProtocol name operationId call) phase
      (sharedStep (.acquire owner) >>= fun _ => next) Q :=
  fun _ => ⟨_, .acquire _ _, rest⟩

theorem claimUnlocked_follows (owner : Nat) (requestHash : String) :
    Follows (sharedProtocol name operationId (.claimContinuation owner requestHash)) .blind
      (SharedOperationStore.claimUnlocked name operationId requestHash)
      fun phase result => ∀ answer, result = .ok answer →
        Tells (.claimContinuation owner requestHash) phase answer := by
  refine follows_pathExists (fun _ absent => nomatch absent) (follows_read fun found => ?_)
  cases found with
  | absent => exact fun _ absent => nomatch absent
  | torn => exact fun _ absent => nomatch absent
  | holds record =>
    show Follows _ _ (ite _ _ _) _
    split
    · exact fun _ absent => nomatch absent
    · rename_i same
      split
      · exact fun _ absent => nomatch absent
      · rename_i unconsumed
        have update : (SharedCall.claimContinuation owner requestHash).update operationId
            (.holds record) = some { record with continuationConsumed := true } :=
          if_pos ⟨not_not.mp same, Bool.eq_false_iff.mpr unconsumed⟩
        refine Follows.bind ((follows_writeRecord update).mono fun phase _ written => ?_)
        rintro _ ⟨⟩
        exact ⟨⟨_, _, rfl⟩, written⟩

/-- **Every call goes through the phases.** -/
theorem sharedCall_follows (call : SharedCall) :
    Follows (sharedProtocol name operationId call) .blind (call.program name operationId)
      (Tells call) := by
  cases call with
  | bind requestHash metadata =>
    refine follows_pathExists ?_ (follows_read fun found => ?_)
    · refine Follows.bind ((follows_writeRecord rfl).mono fun phase _ written => ?_)
      exact ⟨⟨_, _, rfl⟩, written⟩
    · cases found with
      | absent => trivial
      | torn => trivial
      | holds record =>
        show Follows _ _ (ite _ _ _) _
        split <;> trivial
  | load =>
    refine follows_pathExists trivial (follows_read fun found => ?_)
    cases found <;> trivial
  | persistResponse response =>
    refine follows_pathExists ?_ (follows_read fun found => ?_)
    · exact Follows.bind ((follows_writeRecord rfl).mono fun _ _ _ => trivial)
    · cases found with
      | absent => trivial
      | torn => trivial
      | holds record => exact Follows.bind ((follows_writeRecord rfl).mono fun _ _ _ => trivial)
  | claimContinuation owner requestHash =>
    refine follows_acquire ?_
    refine Follows.bind ((claimUnlocked_follows owner requestHash).mono fun phase result tells _ => ?_)
    refine ⟨phase, .release _ _, ?_⟩
    cases result with
    | ok answer => exact tells answer rfl
    | error raised => trivial

/-! ### Runs -/

def looks (event : Event sharedSignature) : Prop :=
  match event.op with
  | .pathExists _ | .read _ => True
  | _ => False

def changes (turn : Turn sharedSignature) : Prop :=
  match turn.event.op with
  | .truncate _ | .write _ _ => True
  | _ => False

/-- **A file is truncated only where no other call has changed it** since the call last looked. -/
def Undisturbed (older : List (Turn sharedSignature)) (turn : Turn sharedSignature) : Prop :=
  match turn.event.op with
  | .truncate _ => ¬ Overtaken looks changes turn.thread older
  | _ => True

section

variable (first : SharedFiles) (name : String)

def fileAfter (turns : List (Turn sharedSignature)) : SharedFile :=
  (sharedEnvironment.after first (logOf [] turns)).files name

/-- The file holds a record whose continuation is consumed. -/
def SharedFile.Consumed (file : SharedFile) : Prop :=
  ∃ record, file = .holds record ∧ record.continuationConsumed = true

def SharedFile.Claimable (file : SharedFile) : Prop :=
  ∃ record, file = .holds record ∧ record.continuationConsumed = false

/-- **The guarantee of the store.** -/
structure AtMostOnce (threads : Nat → SharedProgram SharedAnswer)
    (turns : List (Turn sharedSignature)) : Prop where
  oneNew : ∀ thread other, threads thread = .done .new → threads other = .done .new →
    thread = other
  oneClaim : ∀ thread other, threads thread = .done .claimed → threads other = .done .claimed →
    thread = other
  consumed : ∀ newer older, turns = newer ++ older → (fileAfter first name older).Consumed →
    ¬ (fileAfter first name turns).Claimable

end

/-! ### The invariant -/

def SharedCall.IsBind (call : SharedCall) : Prop :=
  ∃ requestHash metadata, call = .bind requestHash metadata

def SharedCall.IsClaim (call : SharedCall) : Prop :=
  ∃ owner requestHash, call = .claimContinuation owner requestHash

/-- The mark of the claim is in the file, or in a record that is being written. -/
def Marked (file : SharedFile) (states : Nat → SharedPhase) : Prop :=
  file.Consumed ∨ ∃ thread record, states thread = .writing record ∧ record.continuationConsumed = true

/-- **The invariant of undisturbed runs**, of the file and the phases. -/
structure Orderly (calls : Nat → SharedCall) (file : SharedFile) (states : Nat → SharedPhase) :
    Prop where
  torn : ∀ thread record, states thread = .writing record → file = .torn
  oneWriter : ∀ thread other record another, states thread = .writing record →
    states other = .writing another → thread = other
  bound : ∀ thread, (calls thread).IsBind → (states thread).Wrote → file ≠ .absent
  oneBind : ∀ thread other, (calls thread).IsBind → (calls other).IsBind →
    (states thread).Wrote → (states other).Wrote → thread = other
  marked : ∀ thread, (calls thread).IsClaim → (states thread).Wrote → Marked file states
  oneClaim : ∀ thread other, (calls thread).IsClaim → (calls other).IsClaim →
    (states thread).Wrote → (states other).Wrote → thread = other

section

variable {calls : Nat → SharedCall} {file : SharedFile} {states : Nat → SharedPhase} {thread : Nat}

/-- **What a call writes**, after what it has seen. -/
theorem SharedCall.update_cases {call : SharedCall} {seen : SharedFile} {record : SharedRecord}
    (update : call.update operationId seen = some record) :
    seen ≠ .torn ∧ (call.IsBind → seen = .absent) ∧
      (call.IsClaim → ¬ seen.Consumed ∧ seen ≠ .absent ∧ record.continuationConsumed = true) ∧
      (seen.Consumed → record.continuationConsumed = true) := by
  unfold SharedFile.Consumed
  cases call with
  | bind requestHash metadata =>
    cases seen with
    | absent => exact ⟨nofun, fun _ => rfl, nofun, nofun⟩
    | torn => cases update
    | holds found => cases update
  | load => cases update
  | persistResponse response =>
    cases seen with
    | absent => exact ⟨nofun, nofun, nofun, nofun⟩
    | torn => cases update
    | holds found =>
      cases update
      refine ⟨nofun, nofun, nofun, ?_⟩
      rintro ⟨record, ⟨⟩, consumed⟩
      exact consumed
  | claimContinuation owner requestHash =>
    cases seen with
    | absent => cases update
    | torn => cases update
    | holds found =>
      by_cases free : found.canonicalRequestHash = some requestHash ∧
          found.continuationConsumed = false
      · have written : some { found with continuationConsumed := true } = some record :=
          (if_pos free).symm.trans update
        cases written
        refine ⟨nofun, nofun, fun _ => ⟨?_, nofun, rfl⟩, fun _ => rfl⟩
        rintro ⟨record, ⟨⟩, consumed⟩
        rw [free.2] at consumed
        cases consumed
      · cases (if_neg free).symm.trans update

theorem Orderly.looked (orderly : Orderly calls file states) {phase : SharedPhase}
    (before : ¬ (states thread).Wrote) (after : ¬ phase.Wrote) :
    Orderly calls file (Function.update states thread phase) ∧
      (Marked file states → Marked file (Function.update states thread phase)) := by
  have same : ∀ other, (states other).Wrote ∨ (Function.update states thread phase other).Wrote →
      Function.update states thread phase other = states other := by
    intro other wrote
    by_cases own : other = thread
    · rw [own, Function.update_self] at wrote
      exact absurd wrote (not_or.mpr ⟨before, after⟩)
    · exact Function.update_of_ne own _ _
  have back : ∀ other, (Function.update states thread phase other).Wrote → (states other).Wrote :=
    fun other wrote => same other (.inr wrote) ▸ wrote
  have writes : ∀ other record, Function.update states thread phase other = .writing record →
      states other = .writing record :=
    fun other record writing => (same other (.inr (.inl ⟨record, writing⟩))).symm.trans writing
  have kept : Marked file states → Marked file (Function.update states thread phase) := by
    rintro (consumed | ⟨other, record, writing, consumed⟩)
    · exact .inl consumed
    · exact .inr ⟨other, record, (same other (.inl (.inl ⟨record, writing⟩))).trans writing, consumed⟩
  refine ⟨⟨?_, ?_, ?_, ?_, ?_, ?_⟩, kept⟩
  · exact fun other record writing => orderly.torn other record (writes other record writing)
  · exact fun one two record another first second =>
      orderly.oneWriter one two record another (writes one record first) (writes two another second)
  · exact fun other binds wrote => orderly.bound other binds (back other wrote)
  · exact fun one two binds also first second =>
      orderly.oneBind one two binds also (back one first) (back two second)
  · exact fun other claims wrote => kept (orderly.marked other claims (back other wrote))
  · exact fun one two claims also first second =>
      orderly.oneClaim one two claims also (back one first) (back two second)

theorem one_of_update {κ : Type} {states : Nat → κ} {phase : κ} {kind : Nat → Prop}
    {begun : κ → Prop} (one : ∀ first second, kind first → kind second → begun (states first) →
      begun (states second) → first = second)
    (first : ∀ other, kind thread → kind other → other ≠ thread → ¬ begun (states other)) :
    ∀ one two, kind one → kind two → begun (Function.update states thread phase one) →
      begun (Function.update states thread phase two) → one = two := by
  intro one' two kindOne kindTwo begunOne begunTwo
  by_cases own : one' = thread
  · by_cases also : two = thread
    · rw [own, also]
    · rw [Function.update_of_ne also] at begunTwo
      exact absurd begunTwo (first two (own ▸ kindOne) kindTwo also)
  · rw [Function.update_of_ne own] at begunOne
    by_cases also : two = thread
    · exact absurd begunOne (first one' (also ▸ kindTwo) kindOne own)
    · rw [Function.update_of_ne also] at begunTwo
      exact one one' two kindOne kindTwo begunOne begunTwo

/-- **The truncation** of a file that is as the call has seen it: no other is writing. -/
theorem Orderly.truncated (orderly : Orderly calls file states) {record : SharedRecord}
    (update : (calls thread).update operationId file = some record) :
    Orderly calls .torn (Function.update states thread (.writing record)) ∧
      (Marked file states → Marked .torn (Function.update states thread (.writing record))) := by
  obtain ⟨whole, binds, claims, keeps⟩ := SharedCall.update_cases update
  have idle : ∀ other record, states other ≠ .writing record :=
    fun other record writing => whole (orderly.torn other record writing)
  have own : ∀ other another, Function.update states thread (.writing record) other =
      .writing another → other = thread := by
    intro other another writing
    by_contra apart
    rw [Function.update_of_ne apart] at writing
    exact idle other another writing
  have consumed : Marked file states → file.Consumed := by
    rintro (consumed | ⟨other, another, writing, -⟩)
    · exact consumed
    · exact absurd writing (idle other another)
  have kept : record.continuationConsumed = true →
      Marked .torn (Function.update states thread (.writing record)) :=
    fun consumed => .inr ⟨thread, record, Function.update_self _ _ _, consumed⟩
  refine ⟨⟨fun _ _ _ => rfl, ?_, fun _ _ _ => nofun, ?_, ?_, ?_⟩,
    fun marked => kept (keeps (consumed marked))⟩
  · exact fun one two _ _ first second => (own one _ first).trans (own two _ second).symm
  · refine one_of_update orderly.oneBind fun other mine theirs _ wrote => ?_
    exact orderly.bound other theirs wrote (binds mine)
  · intro other claim wrote
    by_cases same : other = thread
    · exact kept (claims (same ▸ claim)).2.2
    · rw [Function.update_of_ne same] at wrote
      exact kept (keeps (consumed (orderly.marked other claim wrote)))
  · refine one_of_update orderly.oneClaim fun other mine theirs _ wrote => ?_
    exact (claims mine).1 (consumed (orderly.marked other theirs wrote))

/-- **The write** after it: what is marked is in the record. -/
theorem Orderly.wrote (orderly : Orderly calls file states) {record : SharedRecord}
    (writing : states thread = .writing record) :
    Orderly calls (.holds record) (Function.update states thread .written) ∧
      (Marked file states → Marked (.holds record) (Function.update states thread .written)) := by
  have torn := orderly.torn thread record writing
  have idle : ∀ other another, Function.update states thread .written other ≠ .writing another := by
    intro other another writes
    by_cases own : other = thread
    · rw [own, Function.update_self] at writes
      cases writes
    · rw [Function.update_of_ne own] at writes
      exact own (orderly.oneWriter other thread another record writes writing)
  have back : ∀ other, (Function.update states thread .written other).Wrote →
      (states other).Wrote := by
    intro other wrote
    by_cases own : other = thread
    · exact own ▸ .inl ⟨record, writing⟩
    · rwa [Function.update_of_ne own] at wrote
  have kept : Marked file states →
      Marked (.holds record) (Function.update states thread .written) := by
    rintro (⟨found, same, -⟩ | ⟨other, another, writes, consumed⟩)
    · rw [torn] at same
      cases same
    · have own := orderly.oneWriter other thread another record writes writing
      rw [own, writing] at writes
      cases writes
      exact .inl ⟨record, rfl, consumed⟩
  refine ⟨⟨fun other another writes => absurd writes (idle other another),
    fun one _ another _ writes => absurd writes (idle one another), fun _ _ _ => nofun, ?_, ?_, ?_⟩,
    kept⟩
  · exact fun one two binds also first second =>
      orderly.oneBind one two binds also (back one first) (back two second)
  · exact fun other claim wrote => kept (orderly.marked other claim (back other wrote))
  · exact fun one two claims also first second =>
      orderly.oneClaim one two claims also (back one first) (back two second)

end

/-! ### Undisturbed runs -/

section

variable {first : SharedFiles} {calls : Nat → SharedCall}

/-- **What holds along an undisturbed run**: the phases are orderly, a call that nobody has overtaken
knows the file, and a mark stays. -/
structure Undisturbing (first : SharedFiles) (name : String) (calls : Nat → SharedCall)
    (turns : List (Turn sharedSignature)) (states : Nat → SharedPhase) : Prop where
  orderly : Orderly calls (fileAfter first name turns) states
  known : ∀ thread seen, states thread = .knows seen → ¬ Overtaken looks changes thread turns →
    fileAfter first name turns = seen
  keeps : ∀ newer older, turns = newer ++ older → (fileAfter first name older).Consumed →
    Marked (fileAfter first name turns) states

theorem keeps_cons {turns : List (Turn sharedSignature)} {turn : Turn sharedSignature}
    {states states' : Nat → SharedPhase}
    (keeps : ∀ newer older, turns = newer ++ older → (fileAfter first name older).Consumed →
      Marked (fileAfter first name turns) states)
    (step : Marked (fileAfter first name turns) states →
      Marked (fileAfter first name (turn :: turns)) states') :
    ∀ newer older, turn :: turns = newer ++ older → (fileAfter first name older).Consumed →
      Marked (fileAfter first name (turn :: turns)) states' := by
  intro newer older split consumed
  cases newer with
  | nil =>
    rw [List.nil_append] at split
    subst split
    exact .inl consumed
  | cons _ newer => exact step (keeps newer older (List.cons.inj split).2 consumed)

theorem known_quiet {turns : List (Turn sharedSignature)} {turn : Turn sharedSignature}
    {states : Nat → SharedPhase} {phase : SharedPhase}
    (known : ∀ thread seen, states thread = .knows seen → ¬ Overtaken looks changes thread turns →
      fileAfter first name turns = seen)
    (same : fileAfter first name (turn :: turns) = fileAfter first name turns)
    (own : ∀ seen, phase = .knows seen → ¬ Overtaken looks changes turn.thread (turn :: turns) →
      fileAfter first name turns = seen) :
    ∀ thread seen, Function.update states turn.thread phase thread = .knows seen →
      ¬ Overtaken looks changes thread (turn :: turns) →
      fileAfter first name (turn :: turns) = seen := by
  intro thread seen knows current
  rw [same]
  by_cases mine : thread = turn.thread
  · subst mine
    rw [Function.update_self] at knows
    exact own seen knows current
  · rw [Function.update_of_ne mine] at knows
    rw [overtaken_other_iff (Ne.symm mine), not_or] at current
    exact known thread seen knows current.2

theorem known_changed {turns : List (Turn sharedSignature)} {thread : Nat}
    {event : Event sharedSignature} {states : Nat → SharedPhase} {phase : SharedPhase}
    (changed : changes ⟨thread, event⟩) (own : ∀ seen, phase ≠ .knows seen) :
    ∀ other seen, Function.update states thread phase other = .knows seen →
      ¬ Overtaken looks changes other (⟨thread, event⟩ :: turns) →
      fileAfter first name (⟨thread, event⟩ :: turns) = seen := by
  intro other seen knows current
  by_cases mine : other = thread
  · subst mine
    rw [Function.update_self] at knows
    exact absurd knows (own seen)
  · rw [overtaken_other_iff (Ne.symm mine)] at current
    exact absurd (.inl changed) current

theorem eq_absent {file : SharedFile} (absent : file.isThere = false) : file = .absent := by
  cases file with
  | absent => rfl
  | torn => cases absent
  | holds record => cases absent

/-- **One turn.** -/
theorem Undisturbing.step {turns : List (Turn sharedSignature)} {states : Nat → SharedPhase}
    (before : Undisturbing first name calls turns states) {thread : Nat} {op : SharedOp}
    {answer : op.Answer} {phase : SharedPhase}
    (answered : sharedEnvironment.answers (sharedEnvironment.after first (logOf [] turns)) op answer)
    (move : SharedMove name operationId (calls thread) (states thread) op answer phase)
    (undisturbed : Undisturbed turns ⟨thread, op, answer⟩) :
    Undisturbing first name calls (⟨thread, op, answer⟩ :: turns)
      (Function.update states thread phase) := by
  obtain ⟨orderly, known, keeps⟩ := before
  generalize at_ : states thread = current at move
  have quiet : ∀ phase, (¬ (states thread).Wrote ∧ ¬ SharedPhase.Wrote phase) →
      fileAfter first name (⟨thread, op, answer⟩ :: turns) = fileAfter first name turns →
      (∀ seen, phase = .knows seen →
        ¬ Overtaken looks changes thread (⟨thread, op, answer⟩ :: turns) →
        fileAfter first name turns = seen) →
      Undisturbing first name calls (⟨thread, op, answer⟩ :: turns)
        (Function.update states thread phase) := by
    intro phase early same own
    obtain ⟨next, kept⟩ := orderly.looked early.1 early.2
    refine ⟨same ▸ next, known_quiet known same own, keeps_cons keeps ?_⟩
    rw [same]
    exact kept
  have held : fileAfter first name (⟨thread, op, answer⟩ :: turns) = fileAfter first name turns →
      ¬ looks ⟨op, answer⟩ → phase = states thread →
      Undisturbing first name calls (⟨thread, op, answer⟩ :: turns)
        (Function.update states thread phase) := by
    intro same blind stays
    refine ⟨?_, known_quiet known same fun seen knows current => ?_, keeps_cons keeps ?_⟩
    · rw [same, stays, Function.update_eq_self]
      exact orderly
    · rw [overtaken_own_iff rfl blind] at current
      exact known thread seen (stays ▸ knows) current
    · rw [same, stays, Function.update_eq_self]
      exact id
  cases move with
  | absent early =>
    refine quiet _ ⟨at_ ▸ not_wrote early, not_wrote_knows⟩ rfl fun seen knows _ => ?_
    cases knows
    exact eq_absent answered.symm
  | there early => exact quiet _ ⟨at_ ▸ not_wrote early, not_wrote early_blind⟩ rfl fun _ => nofun
  | read early found =>
    refine quiet _ ⟨at_ ▸ not_wrote early, not_wrote_knows⟩ rfl fun seen knows _ => ?_
    cases knows
    exact answered.symm
  | truncate update =>
    have file := known thread _ at_ undisturbed
    rw [← file] at update
    have after : fileAfter first name (⟨thread, .truncate name, ()⟩ :: turns) = .torn :=
      Function.update_self ..
    obtain ⟨next, kept⟩ := orderly.truncated update
    refine ⟨after ▸ next, ?_, keeps_cons keeps (after ▸ kept)⟩
    refine known_changed ?_ ?_
    · exact trivial
    · rintro seen ⟨⟩
  | write record =>
    have after : fileAfter first name (⟨thread, .write name record, ()⟩ :: turns) = .holds record :=
      Function.update_self ..
    obtain ⟨next, kept⟩ := orderly.wrote at_
    refine ⟨after ▸ next, ?_, keeps_cons keeps (after ▸ kept)⟩
    refine known_changed ?_ ?_
    · exact trivial
    · rintro seen ⟨⟩
  | acquire owner => exact held rfl id at_.symm
  | release owner => exact held rfl id at_.symm

theorem undisturbing_start (first : SharedFiles) (name : String) (calls : Nat → SharedCall) :
    Undisturbing first name calls [] fun _ => .blind := by
  have idle : ¬ SharedPhase.blind.Wrote := not_wrote early_blind
  refine ⟨⟨nofun, nofun, fun _ _ wrote => absurd wrote idle, fun _ _ _ _ wrote => absurd wrote idle,
    fun _ _ wrote => absurd wrote idle, fun _ _ _ _ wrote => absurd wrote idle⟩, nofun, ?_⟩
  intro newer older split consumed
  rw [(List.append_eq_nil_iff.mp split.symm).2] at consumed
  exact .inl consumed

/-- **Undisturbed calls are bound once and claimed once**, in every interleaving of any number of
calls for an operation, by any instances, from any files. -/
theorem atMostOnce_of_undisturbed (name operationId : String) (first : SharedFiles)
    (calls : Nat → SharedCall) {threads : Nat → SharedProgram SharedAnswer}
    {turns : List (Turn sharedSignature)}
    (run : Interleaving (sharedEnvironment.journaled first) []
      (fun thread => (calls thread).program name operationId) threads turns)
    (undisturbed : Always Undisturbed turns) : AtMostOnce first name threads turns := by
  obtain ⟨states, follows, holds⟩ := run.invariant
    (P := fun thread => sharedProtocol name operationId (calls thread))
    (Q := fun thread => Tells (calls thread))
    (fun turns states => Always Undisturbed turns → Undisturbing first name calls turns states)
    (fun thread => sharedCall_follows (calls thread)) (fun _ => undisturbing_start first name calls)
    fun turns states thread op answer phase before answered move always =>
      (before always.2).step answered move always.1
  obtain ⟨orderly, -, keeps⟩ := holds undisturbed
  have new : ∀ thread, threads thread = .done .new →
      (calls thread).IsBind ∧ (states thread).Wrote := by
    intro thread ended
    have tells := follows thread
    rw [ended] at tells
    exact ⟨tells.1, .inr tells.2⟩
  have claimed : ∀ thread, threads thread = .done .claimed →
      (calls thread).IsClaim ∧ (states thread).Wrote := by
    intro thread ended
    have tells := follows thread
    rw [ended] at tells
    exact ⟨tells.1, .inr tells.2⟩
  refine ⟨fun one two ended also => ?_, fun one two ended also => ?_,
    fun newer older split consumed => ?_⟩
  · exact orderly.oneBind one two (new one ended).1 (new two also).1 (new one ended).2
      (new two also).2
  · exact orderly.oneClaim one two (claimed one ended).1 (claimed two also).1
      (claimed one ended).2 (claimed two also).2
  · rintro ⟨record, file, free⟩
    rcases keeps newer older split consumed with ⟨found, same, taken⟩ | ⟨thread, found, writing, -⟩
    · rw [file] at same
      cases same
      rw [free] at taken
      cases taken
    · rw [orderly.torn thread found writing] at file
      cases file
end

/-! ### Disturbed calls -/

theorem sharedTurn {first : SharedFiles} {start threads : Nat → SharedProgram SharedAnswer}
    {turns : List (Turn sharedSignature)}
    (before : Interleaving (sharedEnvironment.journaled first) [] start threads turns)
    (thread : Nat) (op : SharedOp) (answer : op.Answer) {next : op.Answer → SharedProgram SharedAnswer}
    (asks : threads thread = .ask op next)
    (answered : sharedEnvironment.answers (sharedEnvironment.after first (logOf [] turns)) op answer) :
    Interleaving (sharedEnvironment.journaled first) [] start
      (Function.update threads thread (next answer)) (⟨thread, op, answer⟩ :: turns) :=
  before.turn thread answer asks answered

def twoBinds (thread : Nat) : SharedCall := .bind (if thread = 0 then "first" else "second") []

/-- **Two binds that look before either writes are both new.** -/
theorem bound_twice : ∃ threads turns, Interleaving (sharedEnvironment.journaled {}) []
      (fun thread => (twoBinds thread).program "op.json" "op") threads turns ∧
    ¬ AtMostOnce {} "op.json" threads turns := by
  have begun : Interleaving (sharedEnvironment.journaled {}) []
      (fun thread => (twoBinds thread).program "op.json" "op") _ [] := .start
  have looked := sharedTurn begun 0 (.pathExists "op.json") false rfl rfl
  have both := sharedTurn looked 1 (.pathExists "op.json") false rfl rfl
  have first := sharedTurn both 0 (.truncate "op.json") () rfl trivial
  have bound := sharedTurn first 0 (.write "op.json" _) () rfl trivial
  have second := sharedTurn bound 1 (.truncate "op.json") () rfl trivial
  have again := sharedTurn second 1 (.write "op.json" _) () rfl trivial
  exact ⟨_, _, again, fun once => absurd (once.oneNew 0 1 rfl rfl) (by decide)⟩

def bindThenClaim (thread : Nat) : SharedCall :=
  if thread = 0 then .bind "first" [] else .claimContinuation thread "first"

/-- One after the other, they are undisturbed. -/
theorem bound_then_claimed : ∃ threads turns, Interleaving (sharedEnvironment.journaled {}) []
      (fun thread => (bindThenClaim thread).program "op.json" "op") threads turns ∧
    threads 0 = .done .new ∧ threads 1 = .done .claimed ∧ AtMostOnce {} "op.json" threads turns := by
  have begun : Interleaving (sharedEnvironment.journaled {}) []
      (fun thread => (bindThenClaim thread).program "op.json" "op") _ [] := .start
  have looked := sharedTurn begun 0 (.pathExists "op.json") false rfl rfl
  have first := sharedTurn looked 0 (.truncate "op.json") () rfl trivial
  have bound := sharedTurn first 0 (.write "op.json" _) () rfl trivial
  have locked := sharedTurn bound 1 (.acquire 1) () rfl rfl
  have there := sharedTurn locked 1 (.pathExists "op.json") true rfl rfl
  have seen := sharedTurn there 1 (.read "op.json") (.holds _) rfl rfl
  have again := sharedTurn seen 1 (.truncate "op.json") () rfl trivial
  have marked := sharedTurn again 1 (.write "op.json" _) () rfl trivial
  have claimed := sharedTurn marked 1 (.release 1) () rfl trivial
  refine ⟨_, _, claimed, rfl, rfl, ?_⟩
  refine atMostOnce_of_undisturbed "op.json" "op" {} bindThenClaim claimed ?_
  refine ⟨trivial, trivial, not_overtaken_own rfl trivial, trivial, trivial, trivial, trivial,
    not_overtaken_own rfl trivial, trivial, trivial⟩

end Audisor.Operations
