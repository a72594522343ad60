/-
**Claims on overlapping targets.**

* `Overlaps` — two scopes with a path of one at, above or below a path of the other.
* `Apart` — no two active claims have overlapping scopes.
* `Solitary` — an acquired scope is that of an active claim, or overlaps none of theirs.
* **`apart_of_solitary`** — in every interleaving of calls whose acquired scopes are solitary, the
  active claims stay apart. `nested_claims` — a claim on a path and one on its parent are both active.
-/

import Audisor.Builder.GlobalAuthority

namespace Audisor.Builder

open Checked Interaction Json
open Audisor.Aflow (Sha256)
open Text (Path)

/-! ### Overlaps -/

/-- A path of one scope equals, contains or lies below a path of the other. -/
def Overlaps (first second : AuthorityScope) : Prop :=
  ∃ path ∈ first.allowedPaths, ∃ other ∈ second.allowedPaths, path <+: other ∨ other <+: path

theorem Overlaps.symm {first second : AuthorityScope} (overlaps : Overlaps first second) :
    Overlaps second first := by
  obtain ⟨path, mine, other, theirs, within⟩ := overlaps
  exact ⟨other, theirs, path, mine, within.symm⟩

/-- **No two active claims overlap.** -/
def Apart (files : Registry) : Prop :=
  ∀ key other record found, files.active key = some record → files.active other = some found →
    key ≠ other → ¬ Overlaps record.scope found.scope

/-- Each active claim is kept under its key, which its scope gives. -/
def Keyed (host : AuthorityHost) (files : Registry) : Prop :=
  ∀ key record, files.active key = some record → deriveAuthorityKey host record.scope = .ok key

/-! ### Calls -/

/-- What is published is a claim under the key of its scope. -/
def PublishesKeyed (host : AuthorityHost) : RegistryOp → Prop
  | .publishActive record => deriveAuthorityKey host record.scope = .ok record.authorityKey
  | _ => True

variable {host : AuthorityHost}

theorem claimRecord_keyed {args : AcquireArguments} {record : AuthorityClaimRecord}
    (read : claimRecord host args = .ok record) :
    deriveAuthorityKey host record.scope = .ok record.authorityKey := by
  unfold claimRecord at read
  obtain ⟨_, -, read⟩ := bind_eq_ok.mp read
  obtain ⟨scope, -, read⟩ := bind_eq_ok.mp read
  obtain ⟨key, derived, read⟩ := bind_eq_ok.mp read
  cases read
  exact derived

theorem asks_stepping {op : RegistryOp} (keyed : PublishesKeyed host op) :
    (stepping op).Asks (PublishesKeyed host) := ⟨keyed, fun _ => trivial⟩

theorem asks_locked {α : Type} {key : String} {body : RegistryProgram (Except AuthorityError α)}
    (asks : body.Asks (PublishesKeyed host)) : (locked key body).Asks (PublishesKeyed host) := by
  refine ⟨trivial, fun taken => ?_⟩
  cases taken with
  | true => exact asks.bind fun result => ⟨trivial, fun _ => Program.Asks.ofExcept result⟩
  | false => trivial

theorem asks_acquire (args : AcquireArguments) : (acquire host args).Asks (PublishesKeyed host) := by
  unfold acquire
  cases read : claimRecord host args with
  | error raised => trivial
  | ok record =>
    refine asks_locked ⟨trivial, fun found => ?_⟩
    cases found with
    | some found => trivial
    | none =>
      refine ⟨claimRecord_keyed read, fun published => ?_⟩
      cases published with
      | true => trivial
      | false =>
        refine ⟨trivial, fun found => ?_⟩
        cases found <;> trivial

theorem asks_finalizeClaim (claim : AuthorityClaimRecord) (outcome : ReleaseOutcome) :
    (finalizeClaim host claim outcome).Asks (PublishesKeyed host) := by
  refine asks_locked ((asks_stepping (by trivial)).bind fun finished =>
    (asks_stepping (by trivial)).bind fun active => ?_)
  split
  · trivial
  · trivial
  · trivial
  · split
    · trivial
    · exact (asks_stepping (by trivial)).bind fun _ => trivial
  · trivial
  · split
    · trivial
    · refine (asks_stepping (by trivial)).bind fun published => ?_
      split
      · exact (asks_stepping (by trivial)).bind fun _ => trivial
      · trivial

theorem asks_prepareReleaseEvidence (claim : AuthorityClaimRecord) (terminalStatus now : String) :
    (prepareReleaseEvidence host claim terminalStatus now).Asks (PublishesKeyed host) := by
  unfold prepareReleaseEvidence
  split
  · trivial
  refine asks_locked ((asks_stepping (by trivial)).bind fun active => ?_)
  split
  · trivial
  split
  · trivial
  split
  · trivial
  refine (asks_stepping (by trivial)).bind fun found => ?_
  split
  · split <;> trivial
  refine (asks_stepping (by trivial)).bind fun published => ?_
  split
  · trivial
  refine (asks_stepping (by trivial)).bind fun again => ?_
  split <;> trivial

theorem asks_release (args : ReleaseArguments) : (release host args).Asks (PublishesKeyed host) := by
  refine (Program.Asks.ofExcept _).bind fun _ => (Program.Asks.ofExcept _).bind fun _ =>
    (Program.Asks.ofExcept _).bind fun _ => (Program.Asks.ofExcept _).bind fun _ => ?_
  refine (asks_prepareReleaseEvidence _ _ _).bind fun evidence => ?_
  exact (Program.Asks.ofExcept _).bind fun _ => asks_finalizeClaim _ _

theorem asks_recover (args : RecoverArguments) : (recover host args).Asks (PublishesKeyed host) := by
  refine (Program.Asks.ofExcept _).bind fun _ => (Program.Asks.ofExcept _).bind fun _ =>
    (Program.Asks.ofExcept _).bind fun _ => (Program.Asks.ofExcept _).bind fun _ => ?_
  refine ⟨trivial, fun active => ?_⟩
  rcases active with _ | found
  · trivial
  · refine (Program.Asks.ofExcept _).bind fun _ => (Program.Asks.ofExcept _).bind fun _ => ?_
    exact asks_finalizeClaim _ _

/-- **Every call publishes claims under their keys.** -/
theorem asks_program (call : RegistryCall) : (call.program host).Asks (PublishesKeyed host) := by
  cases call with
  | acquire args => exact (asks_acquire args).bind fun _ => trivial
  | release args => exact (asks_release args).bind fun _ => trivial
  | recover args => exact (asks_recover args).bind fun _ => trivial

/-! ### Runs -/

/-- The files that a journal has left. -/
abbrev registryAfter (log : List (Event registrySignature)) : Registry :=
  registryEnvironment.after {} log

/-- **The scope of a claim that is published is that of an active claim, or overlaps none of them.** -/
def Solitary (older : List (Event registrySignature)) (event : Event registrySignature) : Prop :=
  match event.op with
  | .publishActive record => ∀ key found, (registryAfter older).active key = some found →
      record.scope = found.scope ∨ ¬ Overlaps record.scope found.scope
  | _ => True

/-- **What a step does to the active claims**: it publishes one where there is none, removes one, or
leaves them. -/
theorem active_next {files : Registry} {op : RegistryOp} {answer : op.Answer}
    (answered : registryEnvironment.answers files op answer) :
    (∃ record, op = .publishActive record ∧ files.active record.authorityKey = none ∧
      (registryEnvironment.next files op answer).active =
        Function.update files.active record.authorityKey (some record)) ∨
    (∃ key, (registryEnvironment.next files op answer).active =
      Function.update files.active key none) ∨
    (registryEnvironment.next files op answer).active = files.active := by
  cases op with
  | publishActive record =>
    cases answer with
    | true => exact .inl ⟨record, rfl, Option.isNone_iff_eq_none.mp answered.symm, rfl⟩
    | false => exact .inr (.inr rfl)
  | unlinkActive key => exact .inr (.inl ⟨key, rfl⟩)
  | publishEvidence record => cases answer <;> exact .inr (.inr rfl)
  | publishHistory key claimId outcome => cases answer <;> exact .inr (.inr rfl)
  | _ => exact .inr (.inr rfl)

/-- **One step** keeps the claims apart, when a published scope is solitary: two claims on one scope
have one key, and a link is not made over a file. -/
theorem step_apart {older : List (Event registrySignature)} {event : Event registrySignature}
    (keyed : Keyed host (registryAfter older)) (apart : Apart (registryAfter older))
    (answered : registryEnvironment.answers (registryAfter older) event.op event.answer)
    (publishes : PublishesKeyed host event.op) (solitary : Solitary older event) :
    Keyed host (registryEnvironment.next (registryAfter older) event.op event.answer) ∧
      Apart (registryEnvironment.next (registryAfter older) event.op event.answer) := by
  unfold Keyed Apart
  rcases active_next answered with ⟨record, op, free, active⟩ | ⟨key, active⟩ | active
  · rw [op] at publishes
    unfold Solitary at solitary
    rw [op] at solitary
    have alone : ∀ key found, (registryAfter older).active key = some found →
        ¬ Overlaps record.scope found.scope := by
      intro key found held
      rcases solitary key found held with same | free'
      · have first := keyed key found held
        rw [← same, publishes] at first
        cases first
        rw [free] at held
        cases held
      · exact free'
    rw [active]
    refine ⟨fun key found held => ?_, fun key other found another held also different => ?_⟩
    · by_cases own : key = record.authorityKey
      · subst own
        rw [Function.update_self] at held
        cases held
        exact publishes
      · rw [Function.update_of_ne own] at held
        exact keyed key found held
    · by_cases own : key = record.authorityKey
      · subst own
        rw [Function.update_self] at held
        rw [Function.update_of_ne different.symm] at also
        cases held
        exact alone other another also
      · rw [Function.update_of_ne own] at held
        by_cases theirs : other = record.authorityKey
        · subst theirs
          rw [Function.update_self] at also
          cases also
          exact fun overlaps => alone key found held overlaps.symm
        · rw [Function.update_of_ne theirs] at also
          exact apart key other found another held also different
  · have left : ∀ other found, Function.update (registryAfter older).active key none other =
        some found → (registryAfter older).active other = some found := by
      intro other found held
      by_cases own : other = key
      · subst own
        rw [Function.update_self] at held
        cases held
      · rwa [Function.update_of_ne own] at held
    rw [active]
    exact ⟨fun other found held => keyed other found (left other found held),
      fun first second found another held also =>
        apart first second found another (left _ _ held) (left _ _ also)⟩
  · rw [active]
    exact ⟨keyed, apart⟩

/-- **Claims whose scopes are solitary stay apart**, in every interleaving of calls. -/
theorem apart_of_solitary (calls : Nat → RegistryCall)
    {threads : Nat → RegistryProgram (Option AuthorityClaimRecord)}
    {turns : List (Turn registrySignature)}
    (run : Interleaving (registryEnvironment.journaled {}) []
      (fun thread => (calls thread).program host) threads turns)
    (solitary : Always Solitary (logOf [] turns)) : Apart (registryAfter (logOf [] turns)) := by
  have keyed : ∀ thread, ((calls thread).program host).Asks (PublishesKeyed host) :=
    fun thread => asks_program (calls thread)
  have both := run.world_invariant (fun files => Keyed host files ∧ Apart files)
    ⟨fun _ _ none => (by cases none), fun _ _ _ _ none => (by cases none)⟩
    (fun older event kept answered publishes met =>
      step_apart kept.1 kept.2 answered publishes met)
    keyed solitary
  exact both.2

/-! ### Acquiring alone -/

def acquiredLog (record : AuthorityClaimRecord) (log : List (Event registrySignature)) :
    List (Event registrySignature) :=
  ⟨.unlock record.authorityKey, ()⟩ :: ⟨.publishActive record, true⟩ ::
    ⟨.readActive record.authorityKey, none⟩ :: ⟨.lock record.authorityKey, true⟩ :: log

/-- **An acquire that nothing interrupts gets its claim**, where its key is free. -/
theorem acquire_alone {args : AcquireArguments} {record : AuthorityClaimRecord}
    (read : claimRecord host args = .ok record) {log : List (Event registrySignature)}
    (free : (registryAfter log).active record.authorityKey = none) :
    Exec (journal (registryEnvironment.journaled {})) log ((RegistryCall.acquire args).program host)
      (acquiredLog record log) (.done (some record)) := by
  have published : registryEnvironment.answers (registryAfter log)
      (.publishActive record) true := by
    show true = _
    rw [free]
    rfl
  show Exec _ _ (some <$> acquire host args) _ _
  unfold acquire
  rw [read]
  refine .ask true trivial (.ask none ?_ (.ask true ?_ (.ask () trivial (.refl _ _))))
  · exact free.symm
  · exact published

theorem active_acquired {record : AuthorityClaimRecord} {log : List (Event registrySignature)} :
    (registryAfter (acquiredLog record log)).active =
      Function.update (registryAfter log).active record.authorityKey (some record) :=
  rfl

/-! ### Claims on one directory -/

/-- **Two acquires, one after the other, get their claims**, where the keys differ. -/
theorem acquire_both {first second : AcquireArguments} {one two : AuthorityClaimRecord}
    (readFirst : claimRecord host first = .ok one) (readSecond : claimRecord host second = .ok two)
    (different : two.authorityKey ≠ one.authorityKey) :
    ∃ threads turns, Interleaving (registryEnvironment.journaled {}) []
        (fun thread => (RegistryCall.acquire (if thread = 0 then first else second)).program host)
        threads turns ∧
      logOf [] turns = acquiredLog two (acquiredLog one []) := by
  have free : (registryAfter (acquiredLog one [])).active two.authorityKey = none := by
    rw [active_acquired, Function.update_of_ne different]
    rfl
  have begun : Interleaving (registryEnvironment.journaled {}) [] (fun thread =>
      (RegistryCall.acquire (if thread = 0 then first else second)).program host) (fun thread =>
      (RegistryCall.acquire (if thread = 0 then first else second)).program host) [] := .start
  obtain ⟨turns, run, log⟩ := begun.solo 0 (acquire_alone readFirst rfl)
  have log : logOf [] turns = acquiredLog one [] := log
  have alone := acquire_alone readSecond free
  rw [← log] at alone
  obtain ⟨turns', run', log'⟩ := run.solo 1 alone
  exact ⟨_, turns', run', by rw [log', log]⟩

def plainRegistryHost : AuthorityHost where
  resolve := fun text => if Text.isAbsolute text then some (Text.pathParts text) else none
  sha := Aflow.sha256
  fileText := fun value => value.dumps

def acquireOf (path claimId : String) : AcquireArguments where
  buildId := "build-" ++ claimId
  executionId := "execution-" ++ claimId
  idempotencyKey := "key-" ++ claimId
  requestFingerprint := "0000000000000000000000000000000000000000000000000000000000000000"
  targetRoot := "/t"
  allowedPaths := [path]
  claimId := claimId
  now := "2026-01-01T00:00:00+00:00"

def recordOf (path : Path) (claimId : String) : AuthorityClaimRecord where
  authorityKey := Aflow.sha256.hexdigest ((sortKeys (AuthorityScope.payload ⟨["t"], [path]⟩)).dumps
    { ensureAscii := true, compact := true })
  claimId := claimId
  buildId := "build-" ++ claimId
  executionId := "execution-" ++ claimId
  idempotencyKey := "key-" ++ claimId
  requestFingerprint := "0000000000000000000000000000000000000000000000000000000000000000"
  scope := ⟨["t"], [path]⟩
  acquiredAt := "2026-01-01T00:00:00+00:00"

theorem claimRecord_parent : claimRecord plainRegistryHost (acquireOf "/t" "1") =
    .ok (recordOf ["t"] "1") := rfl

theorem claimRecord_child : claimRecord plainRegistryHost (acquireOf "/t/a" "2") =
    .ok (recordOf ["t", "a"] "2") := rfl

theorem claimRecord_sibling : claimRecord plainRegistryHost (acquireOf "/t/b" "1") =
    .ok (recordOf ["t", "b"] "1") := rfl

theorem keys_differ :
    (recordOf ["t", "a"] "2").authorityKey ≠ (recordOf ["t"] "1").authorityKey ∧
      (recordOf ["t", "a"] "2").authorityKey ≠ (recordOf ["t", "b"] "1").authorityKey := by
  decide +kernel

/-- **A claim on a target and a claim on a path below it are both active.** -/
theorem nested_claims : ∃ threads turns, Interleaving (registryEnvironment.journaled {}) []
      (fun thread => (RegistryCall.acquire
        (if thread = 0 then acquireOf "/t" "1" else acquireOf "/t/a" "2")).program plainRegistryHost)
      threads turns ∧
    ¬ Apart (registryAfter (logOf [] turns)) := by
  obtain ⟨threads, turns, run, log⟩ :=
    acquire_both claimRecord_parent claimRecord_child keys_differ.1
  refine ⟨threads, turns, run, fun apart => ?_⟩
  rw [log] at apart
  refine apart _ _ (recordOf ["t", "a"] "2") (recordOf ["t"] "1") (Function.update_self ..) ?_
    keys_differ.1 ⟨["t", "a"], List.mem_singleton_self _, ["t"], List.mem_singleton_self _, .inr ?_⟩
  · rw [active_acquired, Function.update_of_ne keys_differ.1.symm]
    exact Function.update_self ..
  · exact ⟨["a"], rfl⟩

/-- Claims on two paths side by side. -/
theorem sibling_claims_apart : ∃ threads turns, Interleaving (registryEnvironment.journaled {}) []
      (fun thread => (RegistryCall.acquire
        (if thread = 0 then acquireOf "/t/b" "1" else acquireOf "/t/a" "2")).program plainRegistryHost)
      threads turns ∧
    Apart (registryAfter (logOf [] turns)) := by
  obtain ⟨threads, turns, run, log⟩ :=
    acquire_both claimRecord_sibling claimRecord_child keys_differ.2
  refine ⟨threads, turns, run, @apart_of_solitary plainRegistryHost (fun thread =>
    .acquire (if thread = 0 then acquireOf "/t/b" "1" else acquireOf "/t/a" "2")) _ _ run ?_⟩
  rw [log]
  refine ⟨trivial, fun key found held => .inr ?_, trivial, trivial, trivial, fun key found held => ?_,
    trivial, trivial, trivial⟩
  · have held : Function.update (registryAfter []).active (recordOf ["t", "b"] "1").authorityKey
        (some (recordOf ["t", "b"] "1")) key = some found := held
    by_cases own : key = (recordOf ["t", "b"] "1").authorityKey
    · subst own
      rw [Function.update_self] at held
      cases held
      rintro ⟨path, mine, other, theirs, within⟩
      rw [List.mem_singleton.mp mine, List.mem_singleton.mp theirs] at within
      revert within
      decide
    · rw [Function.update_of_ne own] at held
      cases held
  · cases held

end Audisor.Builder
