/-
**What a binding of an idempotency key promises, and the phases of a call.**

* `Published` — a record is in the file of its key. `Admitted` — a call whose arguments pass the checks.
* `Linearizable` — one new binding for each key, the same record for every call on it, a conflict for
  every other request, and published records that never change.
* `Identified` — a record is published with a build id and an execution id only.
* `recordFromPayload_prepared` — what an identified bind publishes, a loader accepts.
* `IndexPhase` — where a call is. **`program_settles`** — every admitted call goes through the phases.
-/

import Audisor.Builder.IdempotencyIndex
import Audisor.Interaction.Interleaving

namespace Audisor.Idempotency

open Interaction
open Audisor.Aflow (Sha256 isHexChar)
open Text (isAbsolute pathParts)

/-! ### The guarantee -/

def indexAfter (turns : List (Turn indexSignature)) : IndexFiles :=
  indexEnvironment.after (fun _ => none) (logOf [] turns)

/-- The calls of an interleaving, at the point where they have taken these turns. -/
abbrev IndexRun (host : IndexHost) (calls : Nat → IndexCall)
    (threads : Nat → IndexProgram IndexAnswer) (turns : List (Turn indexSignature)) : Prop :=
  Interleaving (indexEnvironment.journaled fun _ => none) []
    (fun thread => (calls thread).program host) threads turns

def Published (turns : List (Turn indexSignature)) (keyHash : String) (record : IdempotencyRecord) :
    Prop := indexAfter turns (keyHash ++ ".json") = some record.toDict

/-- A call whose arguments pass the checks, with the hash of its key and its fingerprint. -/
inductive Admitted (host : IndexHost) : IndexCall → String → Option String → Prop
  | lookup {key keyHash : String} {fingerprint : Option String}
    (derived : deriveIdempotencyKeyHash host key = .ok keyHash)
    (valid : ∀ value ∈ fingerprint, isSha256Hex value = true) :
    Admitted host (.lookup key fingerprint) keyHash fingerprint
  | bind {args : BindArguments} {record : String → IdempotencyRecord}
    (prepared : args.prepare host = .ok record) :
    Admitted host (.bind args) (record "").keyHash (some args.requestFingerprint)

def IndexCall.replay (record : IdempotencyRecord) : IndexCall → IndexProgram IndexAnswer
  | .lookup _ fingerprint =>
    if ∀ value ∈ fingerprint, record.requestFingerprint = value then .done (.found (some record))
    else .raise (.conflict record)
  | .bind args =>
    if record.requestFingerprint = args.requestFingerprint then .done (.bound ⟨record, false⟩)
    else .raise (.conflict record)

def Fails : Event indexSignature → Prop
  | ⟨.lookRoot, root⟩ => root = .tampered
  | ⟨.read _, found⟩ => found = .tampered ∨ found = .unreadable
  | ⟨.ensureDirectory, change⟩ | ⟨.stage _ _, change⟩ => change ≠ .made
  | ⟨.link _ _, change⟩ => change = .failed
  | ⟨.unlinkStaged _, removed⟩ => removed = false
  | ⟨.isThere _, _⟩ | ⟨.utcNow, _⟩ => False

def Troubled (thread : Nat) (turns : List (Turn indexSignature)) : Prop :=
  ∃ turn ∈ turns, turn.thread = thread ∧ Fails turn.event

/-- **The guarantee of the index.** -/
structure Linearizable (host : IndexHost) (calls : Nat → IndexCall)
    (threads : Nat → IndexProgram IndexAnswer) (turns : List (Turn indexSignature)) : Prop where
  oneNew : ∀ thread other keyHash fingerprint fingerprint' record record',
    Admitted host (calls thread) keyHash fingerprint →
    Admitted host (calls other) keyHash fingerprint' →
    threads thread = .done (.bound ⟨record, true⟩) →
    threads other = .done (.bound ⟨record', true⟩) → thread = other
  bound : ∀ thread keyHash fingerprint binding, Admitted host (calls thread) keyHash fingerprint →
    threads thread = .done (.bound binding) →
      Published turns keyHash binding.record ∧ fingerprint = some binding.record.requestFingerprint
  found : ∀ thread keyHash fingerprint record, Admitted host (calls thread) keyHash fingerprint →
    threads thread = .done (.found (some record)) →
      Published turns keyHash record ∧ ∀ value ∈ fingerprint, record.requestFingerprint = value
  conflicting : ∀ thread keyHash fingerprint record,
    Admitted host (calls thread) keyHash fingerprint → threads thread = .raise (.conflict record) →
      Published turns keyHash record ∧ ∃ value ∈ fingerprint, record.requestFingerprint ≠ value
  late : ∀ newer older thread keyHash fingerprint record, turns = newer ++ older →
    Published older keyHash record → (∀ turn ∈ older, turn.thread ≠ thread) →
    Admitted host (calls thread) keyHash fingerprint → ¬ Troubled thread turns →
    (threads thread).Ended → threads thread = (calls thread).replay record
  settled : ∀ thread keyHash fingerprint, Admitted host (calls thread) keyHash fingerprint →
    ¬ Troubled thread turns → (threads thread).Ended →
      (∃ answer, threads thread = .done answer) ∨
        ∃ record, threads thread = .raise (.conflict record)
  unchanged : ∀ newer older name payload, turns = newer ++ older →
    indexAfter older name = some payload → indexAfter turns name = some payload

/-- **Published with a build id and an execution id.** -/
def Identified (_ : List (Turn indexSignature)) (turn : Turn indexSignature) : Prop :=
  match turn.event with
  | ⟨.link _ record, .made⟩ => record.buildId ≠ "" ∧ record.executionId ≠ ""
  | _ => True

/-! ### What is published can be loaded -/

theorem pathParts_text {path : Text.Path}
    (proper : ∀ part ∈ path, part ≠ "" ∧ part ≠ "." ∧ '/' ∉ part.toList) :
    pathParts (Text.Path.text path) = path := by
  rw [Text.Path.text, Text.pathParts_slash]
  by_cases empty : path = []
  · subst empty
    rfl
  · exact Text.pathParts_intercalate empty proper

theorem isAbsolute_text (path : Text.Path) : isAbsolute (Text.Path.text path) = true := by
  rw [Text.isAbsolute, Text.Path.text, String.toList_append]
  rfl

theorem require_ok {condition : Bool} {message : String} {α : Type} {rest : Checks α} {result : α} :
    (require condition message >>= fun _ => rest) = .ok result ↔
      condition = true ∧ rest = .ok result := by
  cases condition with
  | true => exact (and_iff_right rfl).symm
  | false => exact iff_of_false (by rintro ⟨⟩) (by rintro ⟨⟨⟩, -⟩)

theorem prepare_eq_ok {host : IndexHost} {args : BindArguments} {record : String → IdempotencyRecord}
    (prepared : args.prepare host = .ok record) :
    ∃ keyHash execution state, deriveIdempotencyKeyHash host args.idempotencyKey = .ok keyHash ∧
      isSha256Hex args.requestFingerprint = true ∧
      isInside (host.resolve state) (host.resolve execution) = true ∧
      ∀ createdAt, record createdAt =
        { keyHash, requestFingerprint := args.requestFingerprint, buildId := args.buildId
          executionId := args.executionId, executionPath := Text.Path.text (host.resolve execution)
          statePath := Text.Path.text (host.resolve state), createdAt } := by
  unfold BindArguments.prepare at prepared
  cases derived : deriveIdempotencyKeyHash host args.idempotencyKey with
  | error error =>
    rw [derived] at prepared
    cases prepared
  | ok keyHash =>
    rw [derived] at prepared
    obtain ⟨valid, prepared⟩ := require_ok.mp prepared
    obtain ⟨-, prepared⟩ := require_ok.mp prepared
    obtain ⟨-, prepared⟩ := require_ok.mp prepared
    obtain ⟨inside, prepared⟩ := require_ok.mp prepared
    cases prepared
    exact ⟨keyHash, _, _, rfl, valid, inside, fun _ => rfl⟩

theorem isSha256Hex_of_derived {host : IndexHost} {key keyHash : String}
    (derived : deriveIdempotencyKeyHash host key = .ok keyHash) : isSha256Hex keyHash = true := by
  unfold deriveIdempotencyKeyHash at derived
  cases normal : normalizeIdempotencyKey host key with
  | error error =>
    rw [normal] at derived
    cases derived
  | ok normalized =>
    rw [normal] at derived
    cases derived
    rw [isSha256Hex, Bool.and_eq_true, beq_iff_eq]
    exact ⟨host.sha.length normalized, host.sha.hex normalized⟩

/-- **What an identified bind publishes, a loader accepts.** -/
theorem recordFromPayload_prepared {host : IndexHost} {args : BindArguments}
    {record : String → IdempotencyRecord} {createdAt : String}
    (prepared : args.prepare host = .ok record)
    (identified : args.buildId ≠ "" ∧ args.executionId ≠ "") :
    recordFromPayload (record createdAt).toDict = .ok (record createdAt) := by
  obtain ⟨keyHash, execution, state, derived, valid, inside, made⟩ := prepare_eq_ok prepared
  have keyed := isSha256Hex_of_derived derived
  rw [made]
  refine require_ok.mpr ⟨rfl, ?_⟩
  refine require_ok.mpr ⟨keyed, require_ok.mpr ⟨valid, ?_⟩⟩
  refine require_ok.mpr ⟨?_, require_ok.mpr ⟨?_, require_ok.mpr ⟨?_, rfl⟩⟩⟩
  · simpa using identified
  · rw [isAbsolute_text, isAbsolute_text]
    rfl
  · rw [pathParts_text (host.resolved _), pathParts_text (host.resolved _)]
    exact inside

/-! ### Phases -/

/-- Where a call is. -/
inductive IndexPhase where
  | begun
  | absent
  | linked (record : IdempotencyRecord)
  | taken
  | saw (payload : Json)
  | failed
  | vanished

/-- Where a call that searches is, if nothing has the name. -/
def IndexPhase.missed : IndexPhase → Option IndexPhase
  | begun => some .absent
  | taken => some .vanished
  | failed => some .failed
  | absent | linked _ | saw _ | vanished => none

/-- The moves of a call that names this key, and may publish these records. -/
inductive IndexMove (keyHash : String) (own : IdempotencyRecord → Prop) :
    IndexPhase → (op : IndexOp) → op.Answer → IndexPhase → Prop
  | clock (phase : IndexPhase) (now : String) : IndexMove keyHash own phase .utcNow now phase
  | looked (phase : IndexPhase) (root : IndexRoot) :
    IndexMove keyHash own phase .lookRoot root phase
  | there (phase : IndexPhase) : IndexMove keyHash own phase (.isThere (keyHash ++ ".json")) true phase
  | missed {phase after : IndexPhase} (missed : phase.missed = some after) :
    IndexMove keyHash own phase (.isThere (keyHash ++ ".json")) false after
  | read (phase : IndexPhase) (payload : Json) :
    IndexMove keyHash own phase (.read (keyHash ++ ".json")) (.holds payload) (.saw payload)
  | ensured (phase : IndexPhase) : IndexMove keyHash own phase .ensureDirectory .made phase
  | staged (phase : IndexPhase) (payload : Json) :
    IndexMove keyHash own phase (.stage (keyHash ++ ".json") payload) .made phase
  | linked {record : IdempotencyRecord} (mine : own record) :
    IndexMove keyHash own .absent (.link (keyHash ++ ".json") record) .made (.linked record)
  | taken (record : IdempotencyRecord) :
    IndexMove keyHash own .absent (.link (keyHash ++ ".json") record) .fileExists .taken
  | cleaned (phase : IndexPhase) (name : String) :
    IndexMove keyHash own phase (.unlinkStaged name) true phase
  | failed (phase : IndexPhase) {op : IndexOp} {answer : op.Answer} (fails : Fails ⟨op, answer⟩) :
    IndexMove keyHash own phase op answer .failed

def indexProtocol (keyHash : String) (own : IdempotencyRecord → Prop) :
    Protocol indexSignature IndexPhase where
  Move := IndexMove keyHash own
  Rest := fun _ => True

def Accepted (keyHash : String) (fingerprint : Option String) (phase : IndexPhase)
    (record : IdempotencyRecord) : Prop :=
  ∃ payload, phase = .saw payload ∧ acceptRecord keyHash fingerprint payload = .ok record

def Finds (keyHash : String) (fingerprint : Option String) (after phase : IndexPhase) :
    Option IdempotencyRecord → Prop
  | none => phase = after
  | some record => Accepted keyHash fingerprint phase record

def Raises (keyHash : String) (fingerprint : Option String) (phase : IndexPhase)
    (error : IdempotencyError) : Prop :=
  (phase = .failed ∧ ∀ record, error ≠ .conflict record) ∨ phase = .vanished ∨
    ∃ payload, phase = .saw payload ∧ acceptRecord keyHash fingerprint payload = .error error

def Returns (keyHash : String) (fingerprint : Option String) (phase : IndexPhase) :
    IndexAnswer → Prop
  | .found none => phase = .absent
  | .found (some record) | .bound ⟨record, false⟩ => Accepted keyHash fingerprint phase record
  | .bound ⟨record, true⟩ => phase = .linked record

section Settling

variable {keyHash : String} {own : IdempotencyRecord → Prop} {fingerprint : Option String}

theorem raises_index (message : String) :
    Raises keyHash fingerprint .failed (.index message) :=
  .inl ⟨rfl, by rintro _ ⟨⟩⟩

theorem indexPath_ok (valid : isSha256Hex keyHash = true) :
    indexPath keyHash = .ok (keyHash ++ ".json") := by
  unfold indexPath validateSha256
  rw [valid]
  rfl

theorem lookupNamed_settles {phase after : IndexPhase} (missed : phase.missed = some after) :
    Settles (indexProtocol keyHash own) phase (lookupNamed keyHash fingerprint (keyHash ++ ".json"))
      (Finds keyHash fingerprint after) (Raises keyHash fingerprint) := by
  rintro (_ | _)
  · exact ⟨after, .missed missed, rfl⟩
  · refine ⟨phase, .there phase, ?_⟩
    rintro (_ | _ | payload)
    · exact ⟨.failed, .failed _ (.inl rfl), raises_index _⟩
    · exact ⟨.failed, .failed _ (.inr rfl), raises_index _⟩
    · refine ⟨.saw payload, .read phase payload, ?_⟩
      refine settles_ofExcept (fun record accepted => ?_) fun error refused => ?_
      · exact ⟨payload, rfl, accepted⟩
      · exact .inr (.inr ⟨payload, rfl, refused⟩)

theorem lookupHashed_settles {phase after : IndexPhase} (valid : isSha256Hex keyHash = true)
    (missed : phase.missed = some after) :
    Settles (indexProtocol keyHash own) phase (lookupHashed keyHash fingerprint)
      (Finds keyHash fingerprint after) (Raises keyHash fingerprint) := by
  unfold lookupHashed
  rw [indexPath_ok valid, Program.ofExcept_ok, Program.done_bind]
  rintro (_ | _ | _)
  · exact ⟨phase, .looked phase _, lookupNamed_settles missed⟩
  · exact ⟨phase, .looked phase _, lookupNamed_settles missed⟩
  · exact ⟨.failed, .failed _ rfl, raises_index _⟩

def Publishes (record : IdempotencyRecord) (phase : IndexPhase) : Change → Prop
  | .made => phase = .linked record
  | .fileExists => phase = .taken ∨ phase = .failed
  | .failed => phase = .failed

theorem removeStaged_settles {record : IdempotencyRecord} {change : Change} {phase : IndexPhase}
    (ends : Publishes record phase change) :
    Settles (indexProtocol keyHash own) phase (removeStaged (keyHash ++ ".json") change)
      (Publishes record) (Raises keyHash fingerprint) := by
  rintro (_ | _)
  · exact ⟨.failed, .failed _ rfl, rfl⟩
  · exact ⟨phase, .cleaned _ _, ends⟩

theorem publishNoReplace_settles {record : IdempotencyRecord} (mine : own record) :
    Settles (indexProtocol keyHash own) .absent (publishNoReplace (keyHash ++ ".json") record)
      (Publishes record) (Raises keyHash fingerprint) := by
  have broken : ∀ {op : IndexOp} {answer : op.Answer}, Fails ⟨op, answer⟩ →
      IndexMove keyHash own .absent op answer .failed := fun fails => .failed _ fails
  rintro (_ | _ | _)
  · refine ⟨.absent, .ensured _, ?_⟩
    rintro (_ | _ | _)
    · refine ⟨.absent, .staged _ _, ?_⟩
      rintro (_ | _ | _)
      · exact ⟨.linked record, .linked mine, removeStaged_settles rfl⟩
      · exact ⟨.taken, .taken record, removeStaged_settles (.inl rfl)⟩
      · exact ⟨.failed, broken rfl, removeStaged_settles rfl⟩
    · exact ⟨.failed, broken (by rintro ⟨⟩), .inr rfl⟩
    · exact ⟨.failed, broken (by rintro ⟨⟩), rfl⟩
  · exact ⟨.failed, broken (by rintro ⟨⟩), .inr rfl⟩
  · exact ⟨.failed, broken (by rintro ⟨⟩), rfl⟩

theorem bindRecord_settles {record : IdempotencyRecord} (mine : own record)
    (valid : isSha256Hex record.keyHash = true) :
    Settles (indexProtocol record.keyHash own) .begun (bindRecord record)
      (fun phase binding =>
        Returns record.keyHash (some record.requestFingerprint) phase (.bound binding))
      (Raises record.keyHash (some record.requestFingerprint)) := by
  unfold bindRecord
  rw [indexPath_ok valid, Program.ofExcept_ok, Program.done_bind]
  refine Settles.bind ((lookupHashed_settles valid rfl).mono ?_ fun _ _ => id)
  rintro phase (_ | existing) finds
  · cases finds
    refine Settles.bind ((publishNoReplace_settles mine).mono ?_ fun _ _ => id)
    rintro phase (_ | _ | _) ends
    · exact ends
    · -- the name was taken: what is there is read again
      have again : ∃ after, phase.missed = some after ∧ (after = .vanished ∨ after = .failed) := by
        rcases ends with rfl | rfl
        · exact ⟨_, rfl, .inl rfl⟩
        · exact ⟨_, rfl, .inr rfl⟩
      obtain ⟨after, missed, lost⟩ := again
      refine Settles.bind ((lookupHashed_settles valid missed).mono ?_ fun _ _ => id)
      rintro phase (_ | existing) finds
      · cases finds
        rcases lost with rfl | rfl
        · exact .inr (.inl rfl)
        · exact raises_index _
      · exact finds
    · exact .inl ⟨ends, by rintro _ ⟨⟩⟩
  · exact finds

def IndexCall.Prepares (host : IndexHost) (call : IndexCall) (record : IdempotencyRecord) : Prop :=
  ∃ args prepared createdAt, call = .bind args ∧ args.prepare host = .ok prepared ∧
    record = prepared createdAt

def IndexCall.Yields : IndexCall → IndexAnswer → Prop
  | .lookup _ _, .found _ | .bind _, .bound _ => True
  | _, _ => False

/-- **An admitted call goes through the phases.** -/
theorem program_settles {host : IndexHost} {call : IndexCall}
    (admitted : Admitted host call keyHash fingerprint) :
    Settles (indexProtocol keyHash (call.Prepares host)) .begun (call.program host)
      (fun phase answer => Returns keyHash fingerprint phase answer ∧ call.Yields answer)
      (Raises keyHash fingerprint) := by
  cases admitted with
  | @lookup key _ _ derived valid =>
    have search : Settles (indexProtocol keyHash ((IndexCall.lookup key fingerprint).Prepares host))
        .begun (lookupHashed keyHash fingerprint) (Finds keyHash fingerprint .absent)
        (Raises keyHash fingerprint) := lookupHashed_settles (isSha256Hex_of_derived derived) rfl
    show Settles _ _ (IndexAnswer.found <$> (Program.ofExcept (deriveIdempotencyKeyHash host key) >>=
      fun keyHash => lookupHashed keyHash fingerprint)) _ _
    rw [derived, Program.ofExcept_ok, Program.done_bind]
    refine Settles.bind (search.mono ?_ fun _ _ => id)
    rintro phase (_ | record) finds
    · exact ⟨finds, trivial⟩
    · exact ⟨finds, trivial⟩
  | @bind args record prepared =>
    obtain ⟨keyHash, execution, state, derived, -, -, made⟩ := prepare_eq_ok prepared
    have named : ∀ createdAt, (record createdAt).keyHash = (record "").keyHash := fun createdAt => by
      rw [made, made]
    have printed : ∀ createdAt,
        (record createdAt).requestFingerprint = args.requestFingerprint := fun createdAt => by
      rw [made]
    have valid : isSha256Hex (record "").keyHash = true := by
      rw [made]
      exact isSha256Hex_of_derived derived
    show Settles _ _ (IndexAnswer.bound <$> (Program.ofExcept (args.prepare host) >>= fun record =>
      indexStep .utcNow >>= fun createdAt => bindRecord (record createdAt))) _ _
    rw [prepared, Program.ofExcept_ok, Program.done_bind]
    intro createdAt
    refine ⟨.begun, .clock _ _, ?_⟩
    have mine : (IndexCall.bind args).Prepares host (record createdAt) :=
      ⟨args, record, createdAt, rfl, prepared, rfl⟩
    have binding := bindRecord_settles mine ((named createdAt).symm ▸ valid)
    rw [named, printed] at binding
    exact Settles.bind (binding.mono (fun _ _ returns => ⟨returns, trivial⟩) fun _ _ => id)

end Settling

end Audisor.Idempotency
