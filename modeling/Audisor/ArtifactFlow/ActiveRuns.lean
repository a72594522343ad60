/-
**The guard of active runs, over all interleavings.**

* `holdOf`, `lastOpener` — who holds a marker, by the steps that were taken; `Executing` — a run executes
  its stages.
* `Exclusive` — no two runs of one submission execute stages at a time, and a run removes only its own
  marker.
* `Undisputed` — no step of a guard falls into that of another run, or meets one with another digest.
* **`exclusive_of_undisputed`** — in every interleaving of undisputed steps. `both_execute` — two runs
  that look before either writes both execute their stages.
-/

import Audisor.ArtifactFlow.Markers

namespace Audisor.ArtifactFlow

open Interaction Json
open Audisor.Lifecycle (Raised holdsText holdsText_iff)

/-! ### What the runs have done -/

/-- What a run has of its marker. -/
inductive Hold where
  | nothing
  | opening
  | holding
  | ended
deriving DecidableEq

def Hold.on (hold : Hold) (done : Bool) (next : Hold) : Hold := if done then next else hold

def Hold.after (hold : Hold) : Event flowSignature → Hold
  | ⟨.truncateMarker _, done⟩ => hold.on done .opening
  | ⟨.writeMarker _ _, done⟩ => Hold.on .nothing done .holding
  | ⟨.unlinkMarker _, _⟩ => .ended
  | ⟨.recordRun _, raised⟩ | ⟨.createIssue _, raised⟩ | ⟨.linkRetry _, raised⟩ =>
    hold.on (Option.isSome raised) .ended
  | _ => hold

def holdOf (thread : Nat) : List (Turn flowSignature) → Hold
  | [] => .nothing
  | turn :: older =>
    if turn.thread = thread then (holdOf thread older).after turn.event else holdOf thread older

def changedMarker : Event flowSignature → Option String
  | ⟨.truncateMarker name, done⟩ | ⟨.writeMarker name _, done⟩ | ⟨.replaceMarker name _, done⟩ =>
    bif done then some name else none
  | ⟨.unlinkMarker name, _⟩ => some name
  | _ => none

def openedMarker : Event flowSignature → Option String
  | ⟨.truncateMarker name, done⟩ => bif done then some name else none
  | _ => none

/-- **The run whose marker the file is**: the one that has opened it last. -/
def lastOpener (name : String) : List (Turn flowSignature) → Option Nat
  | [] => none
  | turn :: older =>
    if openedMarker turn.event = some name then some turn.thread else lastOpener name older

def markerAfter (first : MarkerFiles) (turns : List (Turn flowSignature)) (name : String) : MarkerFile :=
  markerEnvironment.after first (logOf [] turns) name

def executesStage (event : Event flowSignature) : Prop :=
  ∃ stage payload, event.op = .runStage stage payload

/-- **The run executes its stages**: from its first stage until it unlinks its marker, or ends. -/
def Executing (threads : Nat → Flow Dict) (turns : List (Turn flowSignature)) (thread : Nat) : Prop :=
  (∃ stage payload next, threads thread = .ask (.runStage stage payload) next) ∨
    (∃ turn ∈ turns, turn.thread = thread ∧ executesStage turn.event) ∧
      holdOf thread turns ≠ .ended ∧ ¬ (threads thread).Ended

def RemovesOwn (first : MarkerFiles) (older : List (Turn flowSignature)) (turn : Turn flowSignature) :
    Prop :=
  match turn.event with
  | ⟨.unlinkMarker name, _⟩ =>
    markerAfter first older name ≠ .absent → lastOpener name older = some turn.thread
  | _ => True

/-- **The promise of the guard.** -/
structure Exclusive (host : Host) (triggers : Nat → Json) (first : MarkerFiles)
    (threads : Nat → Flow Dict) (turns : List (Turn flowSignature)) : Prop where
  alone : ∀ one other fields fields' artifactId content content',
    Submission (triggers one) fields artifactId content →
    Submission (triggers other) fields' artifactId content' →
    submissionDigest host content fields = submissionDigest host content' fields' →
    Executing threads turns one → Executing threads turns other → one = other
  own : Always (RemovesOwn first) turns

/-! ### Undisputed steps -/

def ActiveOn (triggers : Nat → Json) (turns : List (Turn flowSignature)) (name : String)
    (thread : Nat) : Prop :=
  markerOfTrigger (triggers thread) = name ∧
    (holdOf thread turns = .opening ∨ holdOf thread turns = .holding)

def looksAtMarker (event : Event flowSignature) : Prop := ∃ name, event.op = .markerIsFile name

def changes (name : String) (turn : Turn flowSignature) : Prop := changedMarker turn.event = some name

/-- **An undisputed step.** The age of a marker is known, and that of an active run is fresh. A marker is
read as it is, and no run with another digest is active on it. It is truncated and written without an
error, where no other run has changed it since this one looked, or is about to write it. -/
def Undisputed (host : Host) (triggers : Nat → Json) (first : MarkerFiles)
    (older : List (Turn flowSignature)) (turn : Turn flowSignature) : Prop :=
  match turn.event with
  | ⟨.markerIsFresh name, age⟩ => age ≠ (none : Option Bool) ∧
    ∀ other, other ≠ turn.thread → ActiveOn triggers older name other → age = some true
  | ⟨.readMarker name, found⟩ =>
    (∀ fields, markerAfter first older name = .holds fields → found = fields) ∧
    ∀ other, other ≠ turn.thread → ActiveOn triggers older name other →
      digestOfTrigger host (triggers other) = digestOfTrigger host (triggers turn.thread)
  | ⟨.truncateMarker name, done⟩ => done = true ∧
    ¬ Overtaken looksAtMarker (changes name) turn.thread older ∧
    ∀ other, other ≠ turn.thread → markerOfTrigger (triggers other) = name →
      holdOf other older ≠ .opening
  | ⟨.writeMarker _ _, done⟩ => done = true
  | _ => True

/-! ### What a step does -/

def MarkerPhase.hold : MarkerPhase → Hold
  | .opened => .opening
  | .marked _ => .holding
  | .closed => .ended
  | _ => .nothing

/-- The run is past the truncation of its marker, and has not removed it. -/
def MarkerPhase.Holds (phase : MarkerPhase) : Prop := phase.hold = .opening ∨ phase.hold = .holding

section Moves

variable {name digest : String} {phase phase' : MarkerPhase} {op : FlowOp} {answer : op.Answer}

/-- **A step takes the hold of a run along.** -/
theorem GuardMove.hold (move : GuardMove name digest phase op answer phase') :
    phase'.hold = phase.hold.after ⟨op, answer⟩ := by
  cases move with
  | look there => cases there <;> rfl
  | read fresh found =>
    show MarkerPhase.hold (ite _ _ _) = _
    split <;> rfl
  | truncate done => cases done <;> rfl
  | write marker own done => cases done <;> rfl
  | record result raised => cases raised <;> rfl
  | issue result raised => cases raised <;> rfl
  | link runId raised => cases raised <;> rfl
  | _ => rfl

/-- **A run changes its own marker only**, once it is free to open it or holds it. -/
theorem GuardMove.changed (move : GuardMove name digest phase op answer phase') {other : String}
    (changed : changedMarker ⟨op, answer⟩ = some other) :
    other = name ∧ (phase = .free ∧ op = .truncateMarker name ∨ phase.Holds) := by
  cases move with
  | truncate done =>
    cases done with
    | false => cases changed
    | true =>
      cases changed
      exact ⟨rfl, .inl ⟨rfl, rfl⟩⟩
  | write marker own done =>
    cases done with
    | false => cases changed
    | true =>
      cases changed
      exact ⟨rfl, .inr (.inl rfl)⟩
  | replace found fields same done =>
    cases done with
    | false => cases changed
    | true =>
      cases changed
      exact ⟨rfl, .inr (.inr rfl)⟩
  | unlink seen =>
    cases changed
    exact ⟨rfl, .inr (.inr rfl)⟩
  | _ => cases changed

theorem GuardMove.marks (move : GuardMove name digest phase op answer phase')
    (marked : phase'.hold = .holding) :
    phase.hold = .holding ∨ changedMarker ⟨op, answer⟩ = some name := by
  cases move with
  | look there => cases there <;> cases marked
  | read fresh found =>
    change MarkerPhase.hold (ite _ _ _) = _ at marked
    split at marked <;> cases marked
  | truncate done => cases done <;> cases marked
  | write marker own done =>
    cases done with
    | false => cases marked
    | true => exact .inr rfl
  | record result raised =>
    cases raised with
    | none => exact .inl marked
    | some error => cases marked
  | issue result raised =>
    cases raised with
    | none => exact .inl marked
    | some error => cases marked
  | link runId raised =>
    cases raised with
    | none => exact .inl marked
    | some error => cases marked
  | unaged => cases marked
  | age fresh => cases marked
  | unlink seen => cases marked
  | lookAgain seen there => exact .inl rfl
  | readAgain seen found => exact .inl rfl
  | replace found fields same done => exact .inl rfl
  | _ => exact .inl marked

/-- **Stages are executed past the guard.** -/
theorem GuardMove.executes (move : GuardMove name digest phase op answer phase')
    (executes : executesStage ⟨op, answer⟩) : phase.Working ∧ phase' = phase := by
  obtain ⟨stage, payload, rfl⟩ := executes
  cases move with
  | stage working => exact ⟨working, rfl⟩

theorem GuardMove.stays (move : GuardMove name digest phase op answer phase')
    (past : phase.Working ∨ phase = .closed) : phase'.Working ∨ phase' = .closed := by
  cases move with
  | look there => exact (past.elim id nofun : False).elim
  | unaged => exact (past.elim id nofun : False).elim
  | age fresh => exact (past.elim id nofun : False).elim
  | read fresh found => exact (past.elim id nofun : False).elim
  | truncate done => exact (past.elim id nofun : False).elim
  | write marker own done => exact (past.elim id nofun : False).elim
  | unlink seen => exact .inr rfl
  | lookAgain seen there => exact .inl trivial
  | readAgain seen found => exact .inl trivial
  | record result raised =>
    cases raised with
    | none => exact past
    | some error => exact .inr rfl
  | issue result raised =>
    cases raised with
    | none => exact past
    | some error => exact .inr rfl
  | link runId raised =>
    cases raised with
    | none => exact past
    | some error => exact .inr rfl
  | _ => exact past

end Moves

/-! ### The invariant -/

section Invariant

variable {host : Host} {triggers : Nat → Json} {first : MarkerFiles}

/-- What is known of a run in a phase, and of its marker file. A run that nobody has overtaken knows
whether another run holds the marker. -/
def Knows (host : Host) (triggers : Nat → Json) (first : MarkerFiles)
    (turns : List (Turn flowSignature)) (states : Nat → MarkerPhase) (thread : Nat) :
    MarkerPhase → Prop
  | .aged fresh => ¬ Overtaken looksAtMarker (changes (markerOfTrigger (triggers thread))) thread turns →
    ∀ other, other ≠ thread →
      markerOfTrigger (triggers other) = markerOfTrigger (triggers thread) →
      (states other).hold = .holding → fresh = true
  | .free => ¬ Overtaken looksAtMarker (changes (markerOfTrigger (triggers thread))) thread turns →
    ∀ other, other ≠ thread →
      markerOfTrigger (triggers other) = markerOfTrigger (triggers thread) →
      (states other).hold ≠ .holding
  | .opened => markerAfter first turns (markerOfTrigger (triggers thread)) = .torn ∧
    lastOpener (markerOfTrigger (triggers thread)) turns = some thread
  | .marked seen =>
    (∃ fields, markerAfter first turns (markerOfTrigger (triggers thread)) = .holds fields ∧
      holdsText fields "submission_digest" (digestOfTrigger host (triggers thread)) = true) ∧
    (∀ found, seen = some found →
      holdsText found "submission_digest" (digestOfTrigger host (triggers thread)) = true) ∧
    lastOpener (markerOfTrigger (triggers thread)) turns = some thread
  | .unguarded => False
  | _ => True

/-- **The invariant of undisputed turns.** -/
structure GuardInvariant (host : Host) (triggers : Nat → Json) (first : MarkerFiles)
    (turns : List (Turn flowSignature)) (states : Nat → MarkerPhase) : Prop where
  hold : ∀ thread, (states thread).hold = holdOf thread turns
  knows : ∀ thread, Knows host triggers first turns states thread (states thread)
  staged : ∀ thread, (∃ turn ∈ turns, turn.thread = thread ∧ executesStage turn.event) →
    (states thread).Working ∨ states thread = .closed
  own : Always (RemovesOwn first) turns

variable {turns : List (Turn flowSignature)} {states : Nat → MarkerPhase} {thread : Nat}

theorem Knows.opener {phase : MarkerPhase}
    (knows : Knows host triggers first turns states thread phase) (holds : phase.Holds) :
    lastOpener (markerOfTrigger (triggers thread)) turns = some thread := by
  cases phase with
  | opened => exact knows.2
  | marked seen => exact knows.2.2
  | _ => rcases holds with holds | holds <;> cases holds

theorem Knows.file {phase : MarkerPhase}
    (knows : Knows host triggers first turns states thread phase) (holds : phase.hold = .holding) :
    ∃ fields, markerAfter first turns (markerOfTrigger (triggers thread)) = .holds fields ∧
      holdsText fields "submission_digest" (digestOfTrigger host (triggers thread)) = true := by
  cases phase with
  | marked seen => exact knows.1
  | _ => cases holds

/-- **One run holds a marker.** -/
theorem GuardInvariant.one_holder (invariant : GuardInvariant host triggers first turns states)
    {one other : Nat}
    (same : markerOfTrigger (triggers one) = markerOfTrigger (triggers other))
    (holds : (states one).Holds) (holds' : (states other).Holds) : one = other := by
  have opened := (invariant.knows one).opener holds
  rw [same, (invariant.knows other).opener holds'] at opened
  exact (Option.some.inj opened).symm

variable {op : FlowOp} {answer : op.Answer} {phase : MarkerPhase}

theorem markerAfter_cons {name : String} {turn : Turn flowSignature}
    (unchanged : changedMarker turn.event ≠ some name) :
    markerAfter first (turn :: turns) name = markerAfter first turns name := by
  obtain ⟨thread, op, answer⟩ := turn
  show markerEnvironment.next (markerEnvironment.after first (logOf [] turns)) op answer name =
    markerEnvironment.after first (logOf [] turns) name
  have put : ∀ (w : MarkerFiles) other file (done : Bool), (bif done then some other else none) ≠ some name →
      w.put other file done name = w name := by
    intro w other file done apart
    cases done with
    | false => rfl
    | true => exact Function.update_of_ne (fun same => apart (congrArg some same.symm)) _ _
  cases op with
  | truncateMarker other => exact put _ other _ _ unchanged
  | writeMarker other marker => exact put _ other _ _ unchanged
  | replaceMarker other marker => exact put _ other _ _ unchanged
  | unlinkMarker other => exact Function.update_of_ne (fun same => unchanged (congrArg some same.symm)) _ _
  | _ => rfl

theorem lastOpener_cons {name : String} {turn : Turn flowSignature}
    (unchanged : changedMarker turn.event ≠ some name) :
    lastOpener name (turn :: turns) = lastOpener name turns := by
  refine if_neg fun opened => unchanged ?_
  obtain ⟨thread, op, answer⟩ := turn
  cases op with
  | truncateMarker other => exact opened
  | _ => cases opened

/-- **A step of another run, or one that changes nothing, leaves what a run knows**: unless it holds the
marker, or is overtaken. -/
theorem Knows.frame {turn : Turn flowSignature} {states' : Nat → MarkerPhase}
    (knows : Knows host triggers first turns states thread phase)
    (blind : turn.thread = thread → ¬ looksAtMarker turn.event)
    (quiet : phase.Holds ∨ turn.thread = thread →
      changedMarker turn.event ≠ some (markerOfTrigger (triggers thread)))
    (marks : ∀ other, other ≠ thread → (states' other).hold = .holding → (states other).hold = .holding ∨
      other = turn.thread ∧ changedMarker turn.event = some (markerOfTrigger (triggers other))) :
    Knows host triggers first (turn :: turns) states' thread phase := by
  have current : ¬ Overtaken looksAtMarker (changes (markerOfTrigger (triggers thread))) thread
      (turn :: turns) → ¬ Overtaken looksAtMarker (changes (markerOfTrigger (triggers thread))) thread
      turns ∧ changedMarker turn.event ≠ some (markerOfTrigger (triggers thread)) := by
    intro current
    by_cases mine : turn.thread = thread
    · exact ⟨mt (overtaken_own_iff mine (blind mine)).mpr current, quiet (.inr mine)⟩
    · rw [overtaken_other_iff mine, not_or] at current
      exact ⟨current.2, current.1⟩
  have kept : ¬ Overtaken looksAtMarker (changes (markerOfTrigger (triggers thread))) thread
      (turn :: turns) → ∀ other, other ≠ thread →
      markerOfTrigger (triggers other) = markerOfTrigger (triggers thread) →
      (states' other).hold = .holding → (states other).hold = .holding := by
    intro fresh other apart same holds
    rcases marks other apart holds with before | ⟨-, changed⟩
    · exact before
    · exact absurd (same ▸ changed) (current fresh).2
  cases phase with
  | aged fresh =>
    exact fun recent other apart same holds =>
      knows (current recent).1 other apart same (kept recent other apart same holds)
  | free =>
    exact fun recent other apart same holds =>
      knows (current recent).1 other apart same (kept recent other apart same holds)
  | opened =>
    have unchanged := quiet (.inl (.inl rfl))
    exact ⟨(markerAfter_cons unchanged).trans knows.1, (lastOpener_cons unchanged).trans knows.2⟩
  | marked seen =>
    have unchanged := quiet (.inl (.inr rfl))
    obtain ⟨file, known, opened⟩ := knows
    refine ⟨?_, known, (lastOpener_cons unchanged).trans opened⟩
    rw [markerAfter_cons unchanged]
    exact file
  | unguarded => exact knows
  | _ => trivial

section Step

variable {phase' : MarkerPhase}
  (invariant : GuardInvariant host triggers first turns states)
  (move : GuardMove (markerOfTrigger (triggers thread)) (digestOfTrigger host (triggers thread))
    (states thread) op answer phase')
  (met : Undisputed host triggers first turns ⟨thread, op, answer⟩)

include invariant move met

/-- **A run that changes a marker is alone on it.** -/
theorem GuardInvariant.alone {name : String} (changed : changedMarker ⟨op, answer⟩ = some name)
    {other : Nat} (apart : other ≠ thread) (same : markerOfTrigger (triggers other) = name) :
    ¬ (states other).Holds := by
  obtain ⟨rfl, ⟨free, rfl⟩ | holds⟩ := move.changed changed
  · obtain ⟨-, recent, unopened⟩ := met
    have known := invariant.knows thread
    rw [free] at known
    rintro (opening | holding)
    · rw [invariant.hold other] at opening
      exact unopened other apart same opening
    · exact known recent other apart same holding
  · exact fun holds' => apart (invariant.one_holder same holds' holds)

theorem GuardInvariant.knows_own
    (answered : markerEnvironment.answers (markerEnvironment.after first (logOf [] turns)) op answer) :
    Knows host triggers first (⟨thread, op, answer⟩ :: turns) (Function.update states thread phase')
      thread phase' := by
  have known := invariant.knows thread
  have holds := fun other => invariant.hold other
  have others : ∀ other, other ≠ thread → Function.update states thread phase' other = states other :=
    fun other apart => Function.update_of_ne apart _ _
  have quiet : changedMarker ⟨op, answer⟩ = none → ¬ looksAtMarker ⟨op, answer⟩ → ∀ phase,
      Knows host triggers first turns states thread phase →
      Knows host triggers first (⟨thread, op, answer⟩ :: turns) (Function.update states thread phase')
        thread phase := by
    intro unchanged blind phase known
    refine known.frame (fun _ => blind) (fun _ => by rw [unchanged]; exact nofun) fun other apart holding => ?_
    rw [others other apart] at holding
    exact .inl holding
  generalize states thread = phase at move known
  cases move with
  | look there =>
    cases there with
    | true => trivial
    | false =>
      intro _ other apart same holding
      rw [others other apart] at holding
      obtain ⟨fields, file, -⟩ := (invariant.knows other).file holding
      rw [same] at file
      have absent : false = (markerAfter first turns (markerOfTrigger (triggers thread))).isThere := answered
      rw [file] at absent
      cases absent
  | unaged => exact absurd rfl met.1
  | age fresh =>
    intro _ other apart same holding
    rw [others other apart] at holding
    have active := met.2 other apart ⟨same, .inr ((holds other).symm.trans holding)⟩
    exact Option.some.inj active
  | read fresh found =>
    by_cases accepted : (fresh && holdsText found "submission_digest"
      (digestOfTrigger host (triggers thread))) = true
    · rw [if_pos accepted]
      trivial
    · rw [if_neg accepted] at others ⊢
      intro recent other apart same holding
      rw [others other apart] at holding
      have older := mt (overtaken_own_iff rfl fun ⟨_, looks⟩ => nomatch looks).mpr recent
      obtain ⟨fields, file, named⟩ := (invariant.knows other).file holding
      rw [same] at file
      rw [met.2 other apart ⟨same, .inr ((holds other).symm.trans holding)⟩] at named
      refine accepted ?_
      rw [known older other apart same holding, met.1 fields file, named]
      rfl
  | truncate done =>
    obtain ⟨rfl, -⟩ := met
    exact ⟨Function.update_self _ _ _, if_pos rfl⟩
  | write marker own done =>
    obtain rfl : done = true := met
    exact ⟨⟨marker, Function.update_self _ _ _, own⟩, nofun, (if_neg nofun).trans known.2⟩
  | lookAgain seen there =>
    obtain ⟨file, -, opened⟩ := known
    exact ⟨file, nofun, (if_neg nofun).trans opened⟩
  | readAgain seen found =>
    obtain ⟨⟨fields, file, named⟩, -, opened⟩ := known
    have same := met.1 fields file
    refine ⟨⟨fields, file, named⟩, ?_, (if_neg nofun).trans opened⟩
    rintro _ ⟨⟩
    rw [same]
    exact named
  | replace found fields same done =>
    obtain ⟨file, seen, opened⟩ := known
    refine ⟨?_, seen, (if_neg nofun).trans opened⟩
    cases done with
    | false => exact file
    | true =>
      refine ⟨fields, Function.update_self _ _ _, ?_⟩
      rw [holdsText_iff, same]
      exact holdsText_iff.mp (seen found rfl)
  | unlink seen => trivial
  | record result raised =>
    cases raised with
    | none => exact quiet rfl (fun ⟨_, looks⟩ => nomatch looks) _ known
    | some error => trivial
  | issue result raised =>
    cases raised with
    | none => exact quiet rfl (fun ⟨_, looks⟩ => nomatch looks) _ known
    | some error => trivial
  | link runId raised =>
    cases raised with
    | none => exact quiet rfl (fun ⟨_, looks⟩ => nomatch looks) _ known
    | some error => trivial
  | _ => exact quiet rfl (fun ⟨_, looks⟩ => nomatch looks) _ known

/-- **One undisputed step keeps the invariant.** -/
theorem GuardInvariant.step
    (answered : markerEnvironment.answers (markerEnvironment.after first (logOf [] turns)) op answer) :
    GuardInvariant host triggers first (⟨thread, op, answer⟩ :: turns)
      (Function.update states thread phase') where
  hold other := by
    by_cases mine : other = thread
    · subst mine
      rw [Function.update_self, move.hold, invariant.hold, holdOf, if_pos rfl]
    · rw [Function.update_of_ne mine, invariant.hold, holdOf, if_neg (Ne.symm mine)]
  knows other := by
    by_cases mine : other = thread
    · subst mine
      rw [Function.update_self]
      exact invariant.knows_own move met answered
    · rw [Function.update_of_ne mine]
      refine (invariant.knows other).frame (fun same => absurd same.symm mine) ?_ ?_
      · rintro (holds | same) changed
        · exact invariant.alone move met changed mine rfl holds
        · exact mine same.symm
      · intro third _ holding
        by_cases also : third = thread
        · subst also
          rw [Function.update_self] at holding
          exact (move.marks holding).imp_right fun changed => ⟨rfl, changed⟩
        · rw [Function.update_of_ne also] at holding
          exact .inl holding
  staged other := by
    rintro ⟨turn, among, mine, executes⟩
    by_cases own : other = thread
    · subst own
      rw [Function.update_self]
      rcases List.mem_cons.mp among with rfl | older
      · obtain ⟨working, same⟩ := move.executes executes
        exact .inl (same ▸ working)
      · exact move.stays (invariant.staged other ⟨turn, older, mine, executes⟩)
    · rw [Function.update_of_ne own]
      rcases List.mem_cons.mp among with rfl | older
      · exact absurd mine.symm own
      · exact invariant.staged other ⟨turn, older, mine, executes⟩
  own := by
    refine ⟨?_, invariant.own⟩
    have known := invariant.knows thread
    generalize states thread = phase at move known
    cases move with
    | unlink seen => exact fun _ => known.2.2
    | _ => trivial

end Step

/-- **A run that executes its stages holds its marker.** -/
theorem GuardInvariant.holds_of_executing {threads : Nat → Flow Dict}
    (invariant : GuardInvariant host triggers first turns states)
    (follows : Follows (guardProtocol (markerOfTrigger (triggers thread))
      (digestOfTrigger host (triggers thread))) (states thread) (threads thread) fun _ _ => True)
    (executing : Executing threads turns thread) : (states thread).Holds := by
  have known := invariant.knows thread
  have working : (states thread).Working := by
    rcases executing with ⟨stage, payload, next, asks⟩ | ⟨staged, going, -⟩
    · rw [asks] at follows
      obtain ⟨phase', move, -⟩ := follows WorkerAnswer.late
      exact (GuardMove.executes move ⟨stage, payload, rfl⟩).1
    · rcases invariant.staged thread staged with working | closed
      · exact working
      · rw [← invariant.hold, closed] at going
        exact absurd rfl going
  cases at_ : states thread with
  | marked seen => exact .inr rfl
  | unguarded =>
    rw [at_] at known
    exact known.elim
  | _ =>
    rw [at_] at working
    exact working.elim

end Invariant

def calmMarker (log : List (Event flowSignature)) : (op : FlowOp) → op.Answer
  | .progressReports _ => ([] : List Progress)
  | .runStage _ _ => WorkerAnswer.late
  | .clock => "2026-01-01T00:00:00+00:00"
  | .newRunId => "run"
  | .lastResult _ => LastResult.absent
  | .admission => (none : Option Refusal)
  | .snapshot _ _ _ _ => (none : Option String)
  | .recordRun _ | .createIssue _ | .linkRetry _ => (none : Option Raised)
  | .persistResult _ _ => (none : Option String)
  | .markerIsFile name => (markerEnvironment.after (fun _ => .absent) log name).isThere
  | .markerIsFresh name =>
    match markerEnvironment.after (fun _ => .absent) log name with
    | .absent => (none : Option Bool)
    | .torn | .holds _ => some true
  | .readMarker name =>
    match markerEnvironment.after (fun _ => .absent) log name with
    | .holds fields => fields
    | .absent | .torn => ([] : Dict)
  | .truncateMarker _ | .writeMarker _ _ | .replaceMarker _ _ => true
  | .unlinkMarker _ => ()

theorem calmMarker_answers (log : List (Event flowSignature)) (op : FlowOp) :
    markerEnvironment.journaled (fun _ => .absent) log op (calmMarker log op) := by
  cases op with
  | markerIsFile name => rfl
  | markerIsFresh name =>
    intro absent
    have absent : markerEnvironment.after (fun _ => .absent) log name = .absent := absent
    simp only [calmMarker, absent]
    rfl
  | readMarker name =>
    show calmMarker log (.readMarker name) = ([] : Dict) ∨
      markerEnvironment.after (fun _ => .absent) log name = .holds (calmMarker log (.readMarker name))
    cases file : markerEnvironment.after (fun _ => .absent) log name with
    | absent => exact .inl (by simp only [calmMarker, file]; rfl)
    | torn => exact .inl (by simp only [calmMarker, file]; rfl)
    | holds fields => exact .inr (by simp only [calmMarker, file])
  | _ => trivial

def calmRuns (schedule : List Nat) : (Nat → Flow Dict) × List (Turn flowSignature) :=
  scheduled calmMarker (fun _ => runArtifactLifecycle plainHost (draftTrigger "draft")) schedule

theorem interleaving_calmRuns (schedule : List Nat) :
    Interleaving (markerEnvironment.journaled fun _ => .absent) []
      (fun _ => runArtifactLifecycle plainHost (draftTrigger "draft")) (calmRuns schedule).1
      (calmRuns schedule).2 :=
  interleaving_scheduled calmMarker_answers _ schedule

def atStage : Flow Dict → Bool
  | .ask (.runStage _ _) _ => true
  | _ => false

theorem executing_of_atStage {threads : Nat → Flow Dict} {turns : List (Turn flowSignature)}
    {thread : Nat} (there : atStage (threads thread) = true) : Executing threads turns thread := by
  cases at_ : threads thread with
  | ask op next =>
    rw [at_] at there
    cases op with
    | runStage stage payload => exact .inl ⟨stage, payload, next, at_⟩
    | _ => cases there
  | done result =>
    rw [at_] at there
    cases there
  | raise error =>
    rw [at_] at there
    cases there

def bothLook : List Nat := [0, 0, 0, 0, 0, 0, 1, 1, 1, 1, 1, 1, 0, 0, 0, 1, 1, 1]

def isSmooth : Event flowSignature → Bool
  | ⟨.markerIsFresh _, _⟩ | ⟨.readMarker _, _⟩ => false
  | ⟨.truncateMarker _, done⟩ | ⟨.writeMarker _ _, done⟩ => done
  | _ => true

theorem holdOf_of_alone {turns : List (Turn flowSignature)} {thread other : Nat}
    (alone : ∀ turn ∈ turns, turn.thread = thread) (apart : other ≠ thread) :
    holdOf other turns = .nothing := by
  induction turns with
  | nil => rfl
  | cons turn older ih =>
    obtain ⟨own, earlier⟩ := List.forall_mem_cons.mp alone
    rw [holdOf, if_neg (fun same => apart (same.symm.trans own))]
    exact ih earlier

theorem not_overtaken_of_alone {turns : List (Turn flowSignature)} {thread : Nat} {name : String}
    (alone : ∀ turn ∈ turns, turn.thread = thread) :
    ¬ Overtaken looksAtMarker (changes name) thread turns := by
  induction turns with
  | nil => exact id
  | cons turn older ih =>
    obtain ⟨own, earlier⟩ := List.forall_mem_cons.mp alone
    rw [Overtaken, if_pos own]
    exact fun overtaken => ih earlier overtaken.2

/-- **A run that is alone** disputes no step. -/
theorem undisputed_of_alone {host : Host} {triggers : Nat → Json} {first : MarkerFiles} (thread : Nat)
    {turns : List (Turn flowSignature)}
    (alone : ∀ turn ∈ turns, turn.thread = thread ∧ isSmooth turn.event = true) :
    Always (Undisputed host triggers first) turns := by
  induction turns with
  | nil => trivial
  | cons turn older ih =>
    obtain ⟨⟨own, smooth⟩, earlier⟩ := List.forall_mem_cons.mp alone
    refine ⟨?_, ih earlier⟩
    have threads : ∀ turn ∈ older, turn.thread = thread := fun turn among => (earlier turn among).1
    obtain ⟨_, op, answer⟩ := turn
    subst own
    cases op with
    | markerIsFresh name => cases smooth
    | readMarker name => cases smooth
    | truncateMarker name =>
      refine ⟨smooth, not_overtaken_of_alone threads, fun other apart _ => ?_⟩
      rw [holdOf_of_alone threads apart]
      exact nofun
    | writeMarker name marker => exact smooth
    | _ => trivial

theorem turns_of_first : ((calmRuns [0, 0, 0, 0, 0, 0, 0, 0, 0]).2.all fun turn =>
    turn.thread == 0 && isSmooth turn.event) = true := by decide +kernel

end Audisor.ArtifactFlow
