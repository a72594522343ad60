/-
**The markers of active runs.**

* `MarkerFile`, `markerEnvironment` — the marker files of a state root, and what they answer.
* `MarkerPhase` — how far a run has come with its marker; `guardProtocol` — the steps that it takes: it
  looks before it opens the marker, and executes stages only past the guard.
* **`runArtifactLifecycle_guarded`** — every run takes these steps.
-/

import Audisor.ArtifactFlow.Runs
import Audisor.Interaction.Shared

namespace Audisor.ArtifactFlow

open Interaction Json
open Audisor.Lifecycle (Raised holdsText holdsText_iff)

variable {host : Host}

/-! ### Marker files -/

/-- What a marker file is: it is torn from when it is truncated until it is written. -/
inductive MarkerFile where
  | absent
  | torn
  | holds (fields : Dict)

def MarkerFile.isThere : MarkerFile → Bool
  | .absent => false
  | .torn | .holds _ => true

/-- The marker files, by their names. -/
abbrev MarkerFiles := String → MarkerFile

/-- The files after a step that makes this of one, where it is done. -/
def MarkerFiles.put (w : MarkerFiles) (name : String) (file : MarkerFile) (done : Bool) : MarkerFiles :=
  if done then Function.update w name file else w

/-- **The marker files answer the steps on them**, some of which may fail. What else a run asks is
answered in any way. -/
def markerEnvironment : Environment flowSignature MarkerFiles where
  answers
    | w, .markerIsFile name, answer => answer = (w name).isThere
    | w, .markerIsFresh name, answer => w name = .absent → answer = (none : Option Bool)
    | w, .readMarker name, answer => answer = ([] : Dict) ∨ w name = .holds answer
    | _, _, _ => True
  next
    | w, .truncateMarker name, done => w.put name .torn done
    | w, .writeMarker name marker, done | w, .replaceMarker name marker, done =>
      w.put name (.holds marker) done
    | w, .unlinkMarker name, _ => Function.update w name .absent
    | w, _, _ => w

def markerOfTrigger : Json → String
  | .obj fields => ((validArtifactId fields).map markerName).getD ""
  | _ => ""

def digestOfTrigger (host : Host) : Json → String
  | .obj fields => ((reviewContent fields).map fun content => submissionDigest host content fields).getD ""
  | _ => ""

/-! ### Steps of a run -/

/-- How far a run has come with its marker. -/
inductive MarkerPhase where
  | outside
  | looked
  | aged (fresh : Bool)
  | free
  | refused
  | opened
  | marked (seen : Option Dict)
  | unguarded
  | closed

def MarkerPhase.Working : MarkerPhase → Prop
  | .marked _ | .unguarded => True
  | _ => False

variable (name digest : String)

/-- **The steps of a run on its marker**, and where it executes its stages. -/
inductive GuardMove : MarkerPhase → (op : FlowOp) → op.Answer → MarkerPhase → Prop
  | look (there : Bool) :
    GuardMove .outside (.markerIsFile name) there (if there then .looked else .free)
  | unaged : GuardMove .looked (.markerIsFresh name) (none : Option Bool) .unguarded
  | age (fresh : Bool) : GuardMove .looked (.markerIsFresh name) (some fresh) (.aged fresh)
  | read (fresh : Bool) (found : Dict) : GuardMove (.aged fresh) (.readMarker name) found
      (if fresh && holdsText found "submission_digest" digest then .refused else .free)
  | truncate (done : Bool) :
    GuardMove .free (.truncateMarker name) done (if done then .opened else .unguarded)
  | write (marker : Dict) (own : holdsText marker "submission_digest" digest = true) (done : Bool) :
    GuardMove .opened (.writeMarker name marker) done (if done then .marked none else .unguarded)
  | stage {phase : MarkerPhase} (working : phase.Working) (stage : Stage) (payload : Dict)
      (answer : WorkerAnswer) : GuardMove phase (.runStage stage payload) answer phase
  | report {phase : MarkerPhase} (working : phase.Working) (stage : Stage) (reports : List Progress) :
    GuardMove phase (.progressReports stage) reports phase
  | lookAgain (seen : Option Dict) (there : Bool) :
    GuardMove (.marked seen) (.markerIsFile name) there (.marked none)
  | readAgain (seen : Option Dict) (found : Dict) :
    GuardMove (.marked seen) (.readMarker name) found (.marked (some found))
  | replace (found fields : Dict) (same : get? fields "submission_digest" = get? found "submission_digest")
      (done : Bool) :
    GuardMove (.marked (some found)) (.replaceMarker name fields) done (.marked (some found))
  | unlink (seen : Option Dict) : GuardMove (.marked seen) (.unlinkMarker name) () .closed
  | record {phase : MarkerPhase} (result : Dict) (raised : Option Raised) :
    GuardMove phase (.recordRun result) raised (if raised.isSome then .closed else phase)
  | issue {phase : MarkerPhase} (result : Dict) (raised : Option Raised) :
    GuardMove phase (.createIssue result) raised (if raised.isSome then .closed else phase)
  | link {phase : MarkerPhase} (runId : String) (raised : Option Raised) :
    GuardMove phase (.linkRetry runId) raised (if raised.isSome then .closed else phase)
  | clock {phase : MarkerPhase} (answer : String) : GuardMove phase .clock answer phase
  | newRunId {phase : MarkerPhase} (answer : String) : GuardMove phase .newRunId answer phase
  | lastResult {phase : MarkerPhase} (artifactId : String) (answer : LastResult) :
    GuardMove phase (.lastResult artifactId) answer phase
  | admission {phase : MarkerPhase} (answer : Option Refusal) : GuardMove phase .admission answer phase
  | snapshot {phase : MarkerPhase} (trigger : Dict) (digest runId : String) (revision : Json)
      (answer : Option String) : GuardMove phase (.snapshot trigger digest runId revision) answer phase
  | persist {phase : MarkerPhase} (artifactId : String) (result : Dict) (answer : Option String) :
    GuardMove phase (.persistResult artifactId result) answer phase

def guardProtocol : Protocol flowSignature MarkerPhase where
  Move := GuardMove name digest
  Rest := fun _ => True

variable {name digest : String} {phase : MarkerPhase}

theorem follows_step {α : Type} {op : FlowOp} {next : op.Answer → Flow α} {Q : MarkerPhase → α → Prop}
    (each : ∀ answer, ∃ phase', GuardMove name digest phase op answer phase' ∧
      Follows (guardProtocol name digest) phase' (next answer) Q) :
    Follows (guardProtocol name digest) phase (ask op >>= next) Q := each

theorem guarded_raiseIf {Q : MarkerPhase → Unit → Prop} (raised : Option Raised)
    (returned : Q phase ()) : Follows (guardProtocol name digest)
      (if raised.isSome then .closed else phase) (raiseIf raised) Q := by
  cases raised with
  | some error => trivial
  | none => exact returned

theorem guarded_recordEnd {runId : Option String} {result : Dict} {Q : MarkerPhase → Unit → Prop}
    (returned : Q phase ()) :
    Follows (guardProtocol name digest) phase (recordEnd runId result) Q := by
  have linked := @follows_linkRetry _ (guardProtocol name digest) phase runId Q
    (fun runId => follows_step fun raised =>
      ⟨_, .link runId raised, guarded_raiseIf raised returned⟩) returned
  refine follows_step fun raised => ⟨_, .record result raised, Follows.bind (guarded_raiseIf raised ?_)⟩
  show Follows _ _ (ite _ _ _) _
  split
  · exact follows_step fun raised =>
      ⟨_, .issue result raised, Follows.bind (guarded_raiseIf raised linked)⟩
  · exact linked

/-- The run holds its marker, where it has one, and else runs without a guard. -/
def HasMarker (name : String) : Option String → MarkerPhase → Prop
  | some own, phase => own = name ∧ ∃ seen, phase = .marked seen
  | none, phase => phase = .unguarded

theorem guarded_persist {marker : Option String} {id : String} {result : Dict}
    (held : ∀ own, marker = some own → own = name ∧ ∃ seen, phase = .marked seen) :
    Follows (guardProtocol name digest) phase
      (do let _ ← ask (.persistResult id result)
          match marker with
          | some name => ask (.unlinkMarker name)
          | none => pure ()
          return result) fun _ _ => True := by
  refine follows_step fun written => ⟨_, .persist id _ written, ?_⟩
  cases marker with
  | none => trivial
  | some own =>
    obtain ⟨rfl, seen, rfl⟩ := held own rfl
    exact follows_step fun _ => ⟨_, .unlink seen, trivial⟩

/-- **The end of a run** unlinks its own marker. -/
theorem guarded_finish {marker artifactId : Option String} {started : Option Started}
    {evidence : Evidence} {result : Dict}
    (held : ∀ own, marker = some own → own = name ∧ ∃ seen, phase = .marked seen) :
    Follows (guardProtocol name digest) phase (finish marker artifactId started evidence result)
      fun _ _ => True := by
  cases started with
  | none =>
    refine Follows.bind ?_
    cases artifactId with
    | none => exact Follows.bind (guarded_recordEnd trivial)
    | some id => exact Follows.bind (guarded_recordEnd (guarded_persist held))
  | some started =>
    refine follows_step fun completedAt => ⟨_, .clock completedAt, ?_⟩
    refine Follows.bind ?_
    cases artifactId with
    | none => exact Follows.bind (guarded_recordEnd trivial)
    | some id => exact Follows.bind (guarded_recordEnd (guarded_persist held))

/-! ### Stages -/

def KeepsMarker (name digest : String) (marker : Option String) {α : Type} (p : Staged α) : Prop :=
  ∀ phase evidence, HasMarker name marker phase →
    Follows (guardProtocol name digest) phase (p evidence) fun phase' _ => HasMarker name marker phase'

section Stages

variable {marker : Option String} {α β : Type}

theorem KeepsMarker.pure (value : α) : KeepsMarker name digest marker (pure value : Staged α) :=
  fun _ _ held => held

theorem KeepsMarker.modify (change : Evidence → Evidence) :
    KeepsMarker name digest marker (modify change : Staged Unit) := fun _ _ held => held

theorem KeepsMarker.bind {p : Staged α} {rest : α → Staged β} (first : KeepsMarker name digest marker p)
    (second : ∀ value, KeepsMarker name digest marker (rest value)) :
    KeepsMarker name digest marker (p >>= rest) := fun phase evidence held =>
  Follows.bind ((first phase evidence held).mono fun phase' given held' =>
    second given.1 phase' given.2 held')

theorem KeepsMarker.ite {p q : Staged α} {condition : Prop} [Decidable condition]
    (yes : KeepsMarker name digest marker p) (no : KeepsMarker name digest marker q) :
    KeepsMarker name digest marker (if condition then p else q) := by
  split
  · exact yes
  · exact no

theorem get?_progress {stage : Stage} {progress : Progress} {current : Dict} :
    get? ((progress.fields stage).foldl (fun fields field => set fields field.1 field.2) current)
      "submission_digest" = get? current "submission_digest" := by
  rw [get?_foldl_set]
  rfl

/-- **Progress** is written to the marker of the run. -/
theorem guarded_updateActiveProgress {stage : Stage} {progress : Progress}
    (held : HasMarker name marker phase) :
    Follows (guardProtocol name digest) phase (updateActiveProgress marker stage progress)
      fun phase' _ => HasMarker name marker phase' := by
  cases marker with
  | none => exact held
  | some own =>
    obtain ⟨rfl, seen, rfl⟩ := held
    refine follows_step fun there => ⟨_, .lookAgain seen there, ?_⟩
    cases (there : Bool) with
    | false => exact ⟨rfl, none, rfl⟩
    | true =>
      refine follows_step fun current => ⟨_, .readAgain none current, ?_⟩
      exact follows_step fun done => ⟨_, .replace current _ get?_progress done, rfl, some current, rfl⟩

theorem HasMarker.working (held : HasMarker name marker phase) : phase.Working := by
  cases marker with
  | none =>
    cases held
    trivial
  | some own =>
    obtain ⟨-, seen, rfl⟩ := held
    trivial

theorem guarded_reports {stage : Stage} {reports : List Progress} {evidence : Evidence}
    (held : HasMarker name marker phase) : Follows (guardProtocol name digest) phase
      ((reports.forM fun progress => (updateActiveProgress marker stage progress : Flow Unit) :
        Staged PUnit) evidence) fun phase' _ => HasMarker name marker phase' := by
  induction reports generalizing phase with
  | nil => exact held
  | cons progress rest ih =>
    exact follows_bind (follows_lift ((guarded_updateActiveProgress held).mono fun _ _ held' => ih held'))

/-- **A stage** is executed past the guard. -/
theorem keepsMarker_executeStage (host : Host) (stage : Stage) (payload : Dict) :
    KeepsMarker name digest marker (executeStage host marker stage payload) := by
  intro phase evidence held
  unfold executeStage
  refine follows_bind (follows_lift fun reports => ⟨_, .report held.working stage reports, ?_⟩)
  refine follows_bind ((guarded_reports held).mono fun phase' given held' => ?_)
  refine follows_bind (follows_lift fun answer => ⟨_, .stage held'.working stage payload answer, ?_⟩)
  show Follows _ _ ((if (stageOutcome host stage answer).2 ≠ [] then _ else _ : Staged Dict) given.2) _
  split
  · exact held'
  · exact held'

theorem KeepsMarker.stage (host : Host) {stage : Stage} {payload : Dict} {early : Dict → α}
    {next : Dict → Staged α} (rest : ∀ output, KeepsMarker name digest marker (next output)) :
    KeepsMarker name digest marker
      (do let output ← executeStage host marker stage payload
          if isError output then return early output
          next output) :=
  (keepsMarker_executeStage host stage payload).bind fun output => .ite (.pure _) (rest output)

variable (host : Host) (common : Dict) (content : String) (gapFindings : List Json)

theorem keepsMarker_runHandoffStages (gapFixes : List Json) (improvedArtifact : String)
    (evaluation : Dict) : KeepsMarker name digest marker
      (runHandoffStages host marker common content gapFindings gapFixes improvedArtifact evaluation) :=
  .stage host fun _ => .stage host fun _ => .pure _

theorem keepsMarker_runRepairCycle (gapFixes : List Json) (improvedArtifact : String)
    (evaluated : Dict) : KeepsMarker name digest marker
      (runRepairCycle host marker common content gapFindings gapFixes improvedArtifact evaluated) := by
  refine .stage host fun refixed => (KeepsMarker.modify _).bind fun _ => .ite (.pure _) ?_
  refine .ite (.pure _) (.stage host fun _ => (KeepsMarker.modify _).bind fun _ => ?_)
  exact .ite (.pure _) (.pure _)

/-- **The pipeline** keeps the marker. -/
theorem keepsMarker_runStagePipeline :
    KeepsMarker name digest marker (runStagePipeline host marker common content) := by
  refine .stage host fun found => .stage host fun fixed => .ite (.pure _) (.stage host fun evaluated => ?_)
  refine .ite (keepsMarker_runHandoffStages host common content _ _ _ _) ?_
  refine (keepsMarker_runRepairCycle host common content _ _ _ _).bind fun repaired => ?_
  cases repaired with
  | early result => exact .pure _
  | passed gapFixes improvedArtifact evaluated =>
    exact keepsMarker_runHandoffStages host common content _ _ _ _

end Stages

/-! ### Runs -/

section Submitted

variable {trigger : Json} {fields : Dict} {artifactId content : String}
  (submission : Submission trigger fields artifactId content)

include submission

theorem Submission.markerOfTrigger : ArtifactFlow.markerOfTrigger trigger = markerName artifactId := by
  obtain ⟨rfl, -, -, valid⟩ := submission
  rw [ArtifactFlow.markerOfTrigger, valid]
  rfl

theorem Submission.digestOfTrigger (host : Host) :
    ArtifactFlow.digestOfTrigger host trigger = submissionDigest host content fields := by
  obtain ⟨rfl, -, something, -⟩ := submission
  rw [ArtifactFlow.digestOfTrigger, something]
  rfl

end Submitted

def Guarded.Leaves (name : String) : Guarded → MarkerPhase → Prop
  | .active _, phase => phase = .refused
  | .marked own, phase => HasMarker name (some own) phase
  | .unguarded, phase => phase = .unguarded

theorem guarded_writeActiveMarker {started : Started} (own : started.digest = digest) :
    Follows (guardProtocol name digest) .free (writeActiveMarker name started)
      fun phase' guarded => guarded.Leaves name phase' := by
  refine follows_step fun done => ⟨_, .truncate done, ?_⟩
  cases (done : Bool) with
  | false => exact rfl
  | true =>
    have named : holdsText (markerOf started) "submission_digest" digest = true :=
      holdsText_iff.mpr (own ▸ rfl)
    refine follows_step fun done => ⟨_, .write _ named done, ?_⟩
    cases (done : Bool) with
    | false => exact rfl
    | true => exact ⟨rfl, none, rfl⟩

/-- **The guard** looks at the marker before it writes it. -/
theorem guarded_guardActiveRun {artifactId : String} {started : Started}
    (own : started.digest = digest) :
    Follows (guardProtocol (markerName artifactId) digest) .outside
      (guardActiveRun host artifactId started)
      fun phase' guarded => guarded.Leaves (markerName artifactId) phase' := by
  refine follows_step fun there => ⟨_, .look there, ?_⟩
  cases (there : Bool) with
  | false => exact guarded_writeActiveMarker own
  | true =>
    refine follows_step fun age => ?_
    cases (age : Option Bool) with
    | none => exact ⟨_, .unaged, rfl⟩
    | some fresh =>
      refine ⟨_, .age fresh, follows_step fun found => ⟨_, .read fresh found, ?_⟩⟩
      show Follows _ _ (ite _ _ _) _
      rw [own]
      by_cases same : (fresh && holdsText found "submission_digest" digest) = true
      · rw [if_pos same, if_pos same]
        exact rfl
      · rw [if_neg same, if_neg same]
        exact guarded_writeActiveMarker own

theorem no_marker (phase : MarkerPhase) :
    ∀ own, (none : Option String) = some own → own = name ∧ ∃ seen, phase = .marked seen := nofun

theorem guarded_pipeline {marker : Option String} {common : Dict} {content : String}
    {artifactId : String} {started : Started} (held : HasMarker name marker phase) :
    Follows (guardProtocol name digest) phase (do
      let (result, evidence) ← runStagePipeline host marker common content {}
      finish marker (some artifactId) (some started) evidence result) fun _ _ => True := by
  refine Follows.bind ((keepsMarker_runStagePipeline host common content phase {} held).mono ?_)
  intro phase' given held'
  refine guarded_finish fun own same => ?_
  subst same
  exact held'

theorem guarded_runAdmitted {trigger : Dict} {artifactId content : String} {started : Started}
    (own : started.digest = digest) :
    Follows (guardProtocol (markerName artifactId) digest) .outside
      (runAdmitted host trigger artifactId content started) fun _ _ => True := by
  unfold runAdmitted
  split
  · trivial
  · refine follows_step fun failed => ⟨_, .snapshot _ _ _ _ failed, ?_⟩
    cases (failed : Option String) with
    | some error => exact guarded_finish (no_marker _)
    | none =>
      refine Follows.bind ((guarded_guardActiveRun own).mono fun phase' guarded leaves => ?_)
      cases guarded with
      | active early =>
        cases leaves
        exact follows_step fun raised => ⟨_, .issue _ raised, Follows.bind (guarded_raiseIf raised trivial)⟩
      | marked own => exact guarded_pipeline leaves
      | unguarded =>
        cases leaves
        exact guarded_pipeline rfl

theorem guarded_runSubmission {fields : Dict} {artifactId content : String} :
    Follows (guardProtocol (markerName artifactId) (submissionDigest host content fields)) .outside
      (runSubmission host fields artifactId content) fun _ _ => True := by
  refine follows_step fun startedAt => ⟨_, .clock startedAt, ?_⟩
  refine follows_step fun runId => ⟨_, .newRunId runId, ?_⟩
  refine Follows.bind (follows_step fun last => ⟨_, .lastResult _ last, ?_⟩)
  refine follows_prior (fun result _ => ?_) fun revision _ => ?_
  · show Follows _ _ (ite _ _ _) _
    split
    · exact follows_step fun raised =>
        ⟨_, .issue _ raised, Follows.bind (guarded_raiseIf raised trivial)⟩
    · trivial
  · refine follows_step fun refused => ⟨_, .admission refused, ?_⟩
    cases (refused : Option Refusal) with
    | some refusal => exact guarded_finish (no_marker _)
    | none => exact guarded_runAdmitted rfl

/-- **Every run takes the steps of its guard.** -/
theorem runArtifactLifecycle_guarded (host : Host) (trigger : Json) :
    Follows (guardProtocol (markerOfTrigger trigger) (digestOfTrigger host trigger)) .outside
      (runArtifactLifecycle host trigger) fun _ _ => True := by
  cases object : trigger with
  | obj fields =>
    unfold runArtifactLifecycle
    dsimp only
    split
    · rename_i status
      split
      · rename_i content something
        split
        · rename_i artifactId valid
          have submission : Submission (.obj fields) fields artifactId content :=
            ⟨rfl, status, something, valid⟩
          rw [submission.markerOfTrigger, submission.digestOfTrigger]
          exact guarded_runSubmission
        · exact guarded_finish (no_marker _)
      · exact guarded_finish (no_marker _)
    · exact guarded_finish (no_marker _)
  | _ => trivial

end Audisor.ArtifactFlow
