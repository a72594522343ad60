/-
**How a run ends.**

* `RunState`, `runProtocol` — the stages of a run, the persisted result that it has read, and the one
  that it has written; `RunState.Matches` — they say what it makes of the files.
* `RunEnd` — a run is skipped, replays a result, is refused, or has started and hands a result on.
* **`runArtifactLifecycle_follows`** — every run ends so. `exec_runArtifactLifecycle` — against the
  files.
* `calmRun` — the run of a trigger by a worker with one output for each stage, without errors.
-/

import Audisor.ArtifactFlow.Pipeline
import Audisor.Interaction.Unwinding

namespace Audisor.ArtifactFlow

open Interaction Json
open Audisor.Aflow (remove)
open Audisor.Lifecycle (Raised holdsText)

variable {host : Host}

/-! ### The state of a run -/

/-- What a run has done: its stages, the result it has read, and the one it has written. -/
structure RunState where
  calls : List StageCall := []
  seen : Option (String × LastResult) := none
  written : Option (String × String × Dict) := none

/-- **A run reads the results before it writes one**, and raises before it writes. -/
def runProtocol (host : Host) : Protocol flowSignature RunState where
  Move
    | k, .runStage stage payload, answer, k' =>
      k' = { k with calls := ⟨stage, payload, answer⟩ :: k.calls } ∧ InOrder host k'.calls.reverse
    | k, .lastResult artifactId, answer, k' =>
      k' = { k with seen := some (artifactId, answer) } ∧ k.written = none
    | k, .persistResult artifactId result, answer, k' =>
      k' = { k with written := (answer : Option String).map fun stamp => (artifactId, stamp, result) } ∧
        k.written = none
    | k, _, _, k' => k' = k
  Rest k := k.written = none

def RunState.filesAfter (k : RunState) (files : ResultFiles) : ResultFiles :=
  match k.written with
  | some (artifactId, stamp, result) => persisted artifactId stamp result files
  | none => files

/-- What a run has done, from some files, has made this world. -/
structure RunState.Matches (host : Host) (files : ResultFiles) (w : FlowWorld) (k : RunState) : Prop where
  calls : w.calls = k.calls
  inOrder : InOrder host k.calls.reverse
  left : w.files = k.filesAfter files
  seen : ∀ artifactId last, k.seen = some (artifactId, last) →
    last = readLastResult host artifactId files

theorem matches_start (host : Host) (files : ResultFiles) :
    RunState.Matches host files { files } {} :=
  ⟨rfl, inOrder_plain ⟨plainSequence, rfl⟩, rfl, nofun⟩

/-- **Every step of a run keeps its account of the files.** -/
theorem RunState.Matches.step {files : ResultFiles} {w : FlowWorld} {k k' : RunState} {op : FlowOp}
    {answer : op.Answer} (before : RunState.Matches host files w k)
    (answered : (flowEnvironment host).answers w op answer)
    (move : (runProtocol host).Move k op answer k') :
    RunState.Matches host files ((flowEnvironment host).next w op answer) k' := by
  obtain ⟨calls, inOrder, kept, seen⟩ := before
  cases op with
  | runStage stage payload =>
    obtain ⟨rfl, ordered⟩ := move
    exact ⟨congrArg _ calls, ordered, kept, seen⟩
  | lastResult artifactId =>
    obtain ⟨rfl, unwritten⟩ := move
    refine ⟨calls, inOrder, kept, fun other last same => ?_⟩
    have unchanged : w.files = files := by rw [kept, RunState.filesAfter, unwritten]
    cases same
    exact unchanged ▸ answered
  | persistResult artifactId result =>
    obtain ⟨rfl, unwritten⟩ := move
    have unchanged : w.files = files := by rw [kept, RunState.filesAfter, unwritten]
    cases (answer : Option String) with
    | none => exact ⟨calls, inOrder, unchanged, seen⟩
    | some stamp =>
      exact ⟨calls, inOrder, congrArg (persisted artifactId stamp result) unchanged, seen⟩
  | _ =>
    cases move
    exact ⟨calls, inOrder, kept, seen⟩

/-! ### Results -/

theorem get?_remove_of_ne {fields : Dict} {key wanted : String} (other : wanted ≠ key) :
    get? (remove fields key) wanted = get? fields wanted := by
  induction fields with
  | nil => rfl
  | cons field rest ih =>
    obtain ⟨own, value⟩ := field
    rw [remove, List.filter_cons]
    split
    · rw [get?_cons, get?_cons]
      congr 1
    · rename_i removed
      have same : own = key := by simpa using removed
      rw [get?_cons, same, if_neg other.symm, Option.or_none]
      exact ih

theorem get?_withoutInternals {fields : Dict} {key : String} (detail : key ≠ "provider_error_detail")
    (code : key ≠ "issue_code") : get? (withoutInternals fields) key = get? fields key := by
  rw [withoutInternals, get?_remove_of_ne code, get?_remove_of_ne detail]

theorem get?_withRepairs {evidence : Evidence} {fields : Dict} {key : String}
    (other : key ∉ ["output_repaired", "output_repairs", "repair_policy"]) :
    get? (withRepairs evidence fields) key = get? fields key := by
  simp only [List.mem_cons, List.not_mem_nil, or_false, not_or] at other
  unfold withRepairs
  split
  · rfl
  · rw [get?_set_of_ne _ _ other.2.2, get?_set_of_ne _ _ other.2.1, get?_set_of_ne _ _ other.1]

def startedResult (artifactId : String) (started : Started) (completedAt : String)
    (evidence : Evidence) (result : Dict) : Dict :=
  withoutInternals (set (withIdentity started completedAt evidence (withRepairs evidence result))
    "artifact_id" (.str artifactId))

/-- **The fields of a started result**: the identity of the run, and else those of the result. -/
theorem get?_startedResult {artifactId completedAt key : String} {started : Started}
    {evidence : Evidence} {result : Dict}
    (other : key ∉ ["output_repaired", "output_repairs", "repair_policy", "evaluation_repair",
      "artifact_id", "provider_error_detail", "issue_code"]) :
    get? (startedResult artifactId started completedAt evidence result) key =
      (get? (identityFields started completedAt evidence) key).or (get? result key) := by
  have unrepaired : key ∉ ["output_repaired", "output_repairs", "repair_policy"] := by
    simp only [List.mem_cons, List.not_mem_nil, or_false, not_or] at other ⊢
    exact ⟨other.1, other.2.1, other.2.2.1⟩
  simp only [List.mem_cons, List.not_mem_nil, or_false, not_or] at other
  obtain ⟨-, -, -, repair, id, detail, code⟩ := other
  rw [startedResult, get?_withoutInternals detail code, get?_set_of_ne _ _ id, withIdentity]
  split
  · rw [get?_set_of_ne _ _ repair, get?_foldl_set, get?_withRepairs unrepaired]
  · rw [get?_foldl_set, get?_withRepairs unrepaired]

theorem get?_startedResult_id {artifactId completedAt : String} {started : Started}
    {evidence : Evidence} {result : Dict} :
    get? (startedResult artifactId started completedAt evidence result) "artifact_id" =
      some (.str artifactId) := by
  rw [startedResult, get?_withoutInternals (by decide) (by decide), get?_set_self]

/-! ### Ends -/

/-- A trigger that submits the content of an artifact. -/
structure Submission (trigger : Json) (fields : Dict) (artifactId content : String) : Prop where
  object : trigger = .obj fields
  status : holdsText fields "status" "draft_complete" = true
  content : reviewContent fields = some content
  id : validArtifactId fields = some artifactId

/-- The result was written at most, and under the name of its artifact. -/
def WrittenAs (k : RunState) (artifactId : String) (result : Dict) : Prop :=
  k.written = none ∨ ∃ stamp, k.written = some (artifactId, stamp, result)

def priorFor (host : Host) (fields : Dict) (artifactId content : String) (last : LastResult) : Prior :=
  priorOf artifactId (submissionDigest host content fields) (contentDigest host content) last

/-- **How a run ends** with a result. -/
inductive RunEnd (host : Host) (trigger : Json) (k : RunState) (result : Dict) : Prop
  | skipped (calls : k.calls = []) (status : get? result "status" = some (.str "skip"))
      (bare : ∀ key ∉ ["status", "reason", "artifact_id"], get? result key = none)
      (written : k.written = none ∨ ∃ fields artifactId stamp, trigger = .obj fields ∧
        validArtifactId fields = some artifactId ∧ k.written = some (artifactId, stamp, result) ∧
        get? result "artifact_id" = some (.str artifactId))
  | replays (fields : Dict) (artifactId content : String)
      (submission : Submission trigger fields artifactId content) (calls : k.calls = [])
      (written : k.written = none) (previous : Dict)
      (seen : k.seen = some (artifactId, .found previous))
      (prior : priorFor host fields artifactId content (.found previous) = .early (replayed previous))
      (same : result = replayed previous)
  | refused (calls : k.calls = []) (written : k.written = none)
      (status : get? result "status" = some (.str "error"))
      (unstarted : get? result "submission_disposition" = none)
  | started (fields : Dict) (artifactId content : String)
      (submission : Submission trigger fields artifactId content) (last : LastResult)
      (seen : k.seen = some (artifactId, last)) (revision : Json)
      (prior : priorFor host fields artifactId content last = .revision revision)
      (run : Started) (identity : run.digest = submissionDigest host content fields ∧
        run.contentDigest = contentDigest host content ∧ run.revision = revision)
      (completedAt : String) (evidence : Evidence) (given : Dict)
      (same : result = startedResult artifactId run completedAt evidence given)
      (written : WrittenAs k artifactId result) (well : EndsWell host k.calls (given, evidence))

/-! ### Every run ends so -/

variable {k : RunState} {marker : Option String}

theorem follows_ask {α : Type} {op : FlowOp} {next : op.Answer → Flow α} {Q : RunState → α → Prop}
    (each : ∀ answer, ∃ k', (runProtocol host).Move k op answer k' ∧
      Follows (runProtocol host) k' (next answer) Q) :
    Follows (runProtocol host) k (ask op >>= next) Q := each

theorem follows_raiseIf {Q : RunState → Unit → Prop} {raised : Option Raised}
    (unwritten : k.written = none) (returned : Q k ()) :
    Follows (runProtocol host) k (raiseIf raised) Q := by
  cases raised with
  | some error => exact unwritten
  | none => exact returned

theorem follows_prior {κ : Type} {P : Protocol flowSignature κ} {state : κ} {prior : Prior}
    {ends : Dict → Flow Dict} {goes : Json → Flow Dict} {Q : κ → Dict → Prop}
    (early : ∀ result, prior = .early result → Follows P state (ends result) Q)
    (revision : ∀ revision, prior = .revision revision → Follows P state (goes revision) Q) :
    Follows P state
      (match prior with
        | .early result => ends result
        | .revision revision => goes revision) Q := by
  cases prior with
  | early result => exact early result rfl
  | revision found => exact revision found rfl

theorem follows_linkRetry {κ : Type} {P : Protocol flowSignature κ} {state : κ}
    {runId : Option String} {Q : κ → Unit → Prop}
    (link : ∀ runId, Follows P state (do raiseIf (← ask (.linkRetry runId))) Q)
    (returned : Q state ()) :
    Follows P state
      (match runId with
        | some runId => do raiseIf (← ask (.linkRetry runId))
        | none => return ()) Q := by
  cases runId with
  | some runId => exact link runId
  | none => exact returned

theorem follows_recordEnd {Q : RunState → Unit → Prop} {runId : Option String} {result : Dict}
    (unwritten : k.written = none) (returned : Q k ()) :
    Follows (runProtocol host) k (recordEnd runId result) Q := by
  refine follows_ask fun _ => ⟨k, rfl, Follows.bind (follows_raiseIf unwritten ?_)⟩
  have linked := @follows_linkRetry _ (runProtocol host) k runId Q
    (fun _ => follows_ask fun _ => ⟨k, rfl, follows_raiseIf unwritten returned⟩) returned
  show Follows _ _ (ite _ _ _) _
  split
  · exact follows_ask fun _ => ⟨k, rfl, Follows.bind (follows_raiseIf unwritten linked)⟩
  · exact linked

theorem follows_persist (marker : Option String) {artifactId : String} {result : Dict} {Q : RunState → Dict → Prop}
    (unwritten : k.written = none)
    (returned : ∀ written, (written = none ∨ ∃ stamp, written = some (artifactId, stamp, result)) →
      Q { k with written } result) :
    Follows (runProtocol host) k
      (do let _ ← ask (.persistResult artifactId result)
          match marker with
          | some name => ask (.unlinkMarker name)
          | none => pure ()
          return result) Q := by
  refine follows_ask fun answer => ?_
  have kept := returned ((answer : Option String).map fun stamp => (artifactId, stamp, result)) (by
    cases (answer : Option String) with
    | none => exact .inl rfl
    | some stamp => exact .inr ⟨stamp, rfl⟩)
  refine ⟨_, ⟨rfl, unwritten⟩, ?_⟩
  cases marker with
  | some name => exact fun _ => ⟨_, rfl, kept⟩
  | none => exact kept

/-- **The end of a run that has started.** -/
theorem follows_finish_started {artifactId : String} {started : Started} {evidence : Evidence}
    {result : Dict} {Q : RunState → Dict → Prop} (unwritten : k.written = none)
    (returned : ∀ completedAt written,
      (written = none ∨ ∃ stamp, written = some (artifactId, stamp,
        startedResult artifactId started completedAt evidence result)) →
      Q { k with written } (startedResult artifactId started completedAt evidence result)) :
    Follows (runProtocol host) k (finish marker (some artifactId) (some started) evidence result) Q := by
  refine follows_ask fun completedAt => ⟨k, rfl, ?_⟩
  refine Follows.bind ?_
  exact Follows.bind (follows_recordEnd unwritten (follows_persist marker unwritten (returned completedAt)))

variable {trigger : Json}

theorem get?_skipped (id : Option String) {reason key : String}
    (other : key ∉ ["status", "reason", "artifact_id"]) :
    get? (skipResult reason ++ (id.map fun id => ("artifact_id", .str id)).toList) key = none := by
  simp only [List.mem_cons, List.not_mem_nil, or_false, not_or] at other
  obtain ⟨status, because, artifact⟩ := other
  cases id with
  | none => simp [skipResult, get?_cons, Ne.symm status, Ne.symm because]
  | some id => simp [skipResult, get?_cons, Ne.symm status, Ne.symm because, Ne.symm artifact]

/-- **A run that is skipped** ends so. -/
theorem follows_skip {fields : Dict} {reason : String} (object : trigger = .obj fields) :
    Follows (runProtocol host) {}
      (finish none (validArtifactId fields) none {} (skipResult reason)) (RunEnd host trigger) := by
  cases valid : validArtifactId fields with
  | none =>
    refine Follows.bind ?_
    refine Follows.bind (follows_recordEnd rfl ?_)
    exact .skipped rfl rfl (fun _ other => get?_skipped none other) (.inl rfl)
  | some artifactId =>
    refine Follows.bind ?_
    refine Follows.bind (follows_recordEnd rfl (follows_persist none rfl fun written possible => ?_))
    refine .skipped rfl rfl (fun _ other => get?_skipped (some artifactId) other) ?_
    rcases possible with absent | ⟨stamp, there⟩
    · exact .inl absent
    · exact .inr ⟨fields, artifactId, stamp, object, valid, there, rfl⟩

theorem follows_runPipeline {common : Dict} {content : String} {evidence : Evidence}
    (idle : k.calls = []) {Q : RunState → Dict × Evidence → Prop}
    (ended : ∀ calls given, EndsWell host calls given → Q { k with calls } given) :
    Follows (runProtocol host) k (runStagePipeline host marker common content evidence) Q := by
  have pipeline : Follows (pipelineProtocol host) []
    (runStagePipeline host marker common content evidence) (EndsWell host) := follows_pipeline
  have begun : k = { k with calls := [] } := by rw [← idle]
  have lifted := @Follows.lift _ _ _ _ _ _ _ _ (runProtocol host)
    (fun calls k' => k' = { k with calls }) ?_ ?_ _ pipeline _ begun
  · refine lifted.mono fun k' given reached => ?_
    obtain ⟨calls, rfl, well⟩ := reached
    exact ended calls given well
  · rintro calls op answer calls' k' move rfl
    cases op with
    | runStage stage payload =>
      obtain ⟨rfl, inOrder⟩ := move
      exact ⟨_, ⟨rfl, inOrder⟩, rfl⟩
    | lastResult artifactId => exact move.elim
    | persistResult artifactId result => exact move.elim
    | _ =>
      cases move
      exact ⟨_, rfl, rfl⟩
  · exact fun _ _ rests => rests.elim

section Submitted

variable {fields : Dict} {artifactId content : String}
  (submission : Submission trigger fields artifactId content)

include submission

theorem follows_started {last : LastResult} {revision : Json} {started : Started}
    {evidence : Evidence} {given : Dict} {calls : List StageCall}
    (prior : priorFor host fields artifactId content last = .revision revision)
    (identity : started.digest = submissionDigest host content fields ∧
      started.contentDigest = contentDigest host content ∧ started.revision = revision)
    (well : EndsWell host calls (given, evidence)) :
    Follows (runProtocol host) { calls, seen := some (artifactId, last) }
      (finish marker (some artifactId) (some started) evidence given) (RunEnd host trigger) :=
  follows_finish_started rfl fun completedAt written possible =>
    .started fields artifactId content submission last rfl revision prior started identity completedAt
      evidence given rfl possible well

theorem follows_guardActiveRun {started : Started} {Q : RunState → Guarded → Prop}
    (active : ∀ found, Q k (.active (activeRunError host artifactId started.digest found)))
    (marked : ∀ name, Q k (.marked name)) (unguarded : Q k .unguarded) :
    Follows (runProtocol host) k (guardActiveRun host artifactId started) Q := by
  have write : ∀ name, Follows (runProtocol host) k (writeActiveMarker name started) Q := by
    intro name
    refine follows_ask fun opened => ⟨k, rfl, ?_⟩
    cases (opened : Bool) with
    | false => exact unguarded
    | true =>
      refine follows_ask fun written => ⟨k, rfl, ?_⟩
      cases (written : Bool) with
      | false => exact unguarded
      | true => exact marked name
  refine follows_ask fun there => ⟨k, rfl, ?_⟩
  cases (there : Bool) with
  | false => exact write _
  | true =>
    refine follows_ask fun age => ⟨k, rfl, ?_⟩
    cases (age : Option Bool) with
    | none => exact unguarded
    | some fresh =>
      refine follows_ask fun found => ⟨k, rfl, ?_⟩
      show Follows _ _ (ite _ _ _) _
      split
      · exact active found
      · exact write _

theorem follows_stages {last : LastResult} {revision : Json} {started : Started}
    (prior : priorFor host fields artifactId content last = .revision revision)
    (identity : started.digest = submissionDigest host content fields ∧
      started.contentDigest = contentDigest host content ∧ started.revision = revision)
    (marker : Option String) :
    Follows (runProtocol host) { seen := some (artifactId, last) } (do
      let (result, evidence) ← runStagePipeline host marker
        [("artifact_id", .str artifactId), ("artifact_type", getD fields "artifact_type" .null),
          ("intent", getD fields "intent" .null), ("context", getD fields "context" .null)]
        content {}
      finish marker (some artifactId) (some started) evidence result) (RunEnd host trigger) :=
  Follows.bind (follows_runPipeline rfl fun _ _ well =>
    follows_started submission prior identity well)

theorem follows_runAdmitted {last : LastResult} {revision : Json} {started : Started}
    (prior : priorFor host fields artifactId content last = .revision revision)
    (identity : started.digest = submissionDigest host content fields ∧
      started.contentDigest = contentDigest host content ∧ started.revision = revision) :
    Follows (runProtocol host) { seen := some (artifactId, last) }
      (runAdmitted host fields artifactId content started) (RunEnd host trigger) := by
  unfold runAdmitted
  split
  · exact rfl
  · refine follows_ask fun failed => ⟨_, rfl, ?_⟩
    cases (failed : Option String) with
    | some error =>
      exact follows_started submission prior identity (endsWell_of_status rfl (by decide))
    | none =>
      have pipeline := follows_stages submission prior identity
      refine Follows.bind (follows_guardActiveRun submission (fun found => ?_) (fun name => ?_) ?_)
      · refine follows_ask fun raised => ⟨_, rfl, Follows.bind (follows_raiseIf rfl ?_)⟩
        exact .refused rfl rfl rfl rfl
      · exact pipeline (some name)
      · exact pipeline none

theorem runEnd_of_early {last : LastResult} {result : Dict}
    (prior : priorFor host fields artifactId content last = .early result) :
    RunEnd host trigger { seen := some (artifactId, last) } result := by
  cases last with
  | absent => cases prior
  | damaged detail statePath failure =>
    cases prior
    exact .refused rfl rfl rfl rfl
  | found previous =>
    have same : result = replayed previous := by
      simp only [priorFor, priorOf] at prior
      split at prior <;> cases prior
      rfl
    subst same
    exact .replays fields artifactId content submission rfl rfl previous rfl prior rfl

theorem follows_runSubmission : Follows (runProtocol host) {}
    (runSubmission host fields artifactId content) (RunEnd host trigger) := by
  refine follows_ask fun startedAt => ⟨_, rfl, follows_ask fun runId => ⟨_, rfl, ?_⟩⟩
  refine Follows.bind (follows_ask fun last => ⟨_, ⟨rfl, rfl⟩, ?_⟩)
  refine follows_prior (fun result prior => ?_) fun revision prior => ?_
  · have ended := runEnd_of_early submission prior
    show Follows _ _ (ite _ _ _) _
    split
    · exact follows_ask fun raised => ⟨_, rfl, Follows.bind (follows_raiseIf rfl ended)⟩
    · exact ended
  · refine follows_ask fun refused => ⟨_, rfl, ?_⟩
    cases (refused : Option Refusal) with
    | some refusal =>
      exact follows_started submission prior ⟨rfl, rfl, rfl⟩ (endsWell_of_status rfl (by decide))
    | none => exact follows_runAdmitted submission prior ⟨rfl, rfl, rfl⟩

end Submitted

/-- **Every run ends so.** -/
theorem runArtifactLifecycle_follows (host : Host) (trigger : Json) :
    Follows (runProtocol host) {} (runArtifactLifecycle host trigger) (RunEnd host trigger) := by
  unfold runArtifactLifecycle
  cases object : trigger with
  | obj fields =>
    dsimp only
    split
    · rename_i status
      split
      · rename_i content something
        split
        · rename_i artifactId valid
          exact follows_runSubmission ⟨rfl, status, something, valid⟩
        · exact follows_skip rfl
      · exact follows_skip rfl
    · exact follows_skip rfl
  | _ => exact .skipped rfl rfl (fun _ other => get?_skipped none other) (.inl rfl)

/-- **A run against some files**, wherever it has come: its stages are in order, and it has made of the
files what it has written. A result is that of one of the ends. -/
theorem exec_runArtifactLifecycle {files : ResultFiles} {w : FlowWorld} {p : Flow Dict}
    (run : Exec (flowEnvironment host) { files } (runArtifactLifecycle host trigger) w p) :
    ∃ k, RunState.Matches host files w k ∧
      (∀ result, p = .done result → RunEnd host trigger k result) ∧
      (p.Ended → (∀ result, p ≠ .done result) → k.written = none) := by
  obtain ⟨k, follows, holds⟩ := Follows.exec_invariant (RunState.Matches host files)
    (fun _ _ _ _ _ before answered move => before.step answered move) run
    (runArtifactLifecycle_follows host trigger) (matches_start host files)
  refine ⟨k, holds, fun result ended => ?_, fun ended undone => ?_⟩
  · rw [ended] at follows
    exact follows
  · cases p with
    | done result => exact absurd rfl (undone result)
    | raise error => exact follows
    | ask op next => exact ended.elim

/-! ### A run of a calm host -/

def plainHost : Host where
  sha := Aflow.sha256
  repr := plainRepr
  artifactsDir := "artifacts"
  stageTimeout := "900.0"
  firstViolation := fun _ _ => ("$", "")

/-- Answers without errors, from a worker with one output for each stage. -/
def calmAnswer (worker : Stage → Dict) (stamp : String) (w : FlowWorld) : (op : FlowOp) → op.Answer
  | .progressReports _ => ([] : List Progress)
  | .runStage stage _ => WorkerAnswer.output (.obj (worker stage))
  | .clock => "2026-01-01T00:00:00+00:00"
  | .newRunId => "run"
  | .lastResult artifactId => readLastResult plainHost artifactId w.files
  | .admission => (none : Option Refusal)
  | .snapshot _ _ _ _ => (none : Option String)
  | .recordRun _ | .createIssue _ | .linkRetry _ => (none : Option Lifecycle.Raised)
  | .persistResult _ _ => some stamp
  | .markerIsFile _ => false
  | .markerIsFresh _ => some true
  | .readMarker _ => ([] : Dict)
  | .truncateMarker _ | .writeMarker _ _ | .replaceMarker _ _ => true
  | .unlinkMarker _ => ()

theorem calmAnswer_answers (worker : Stage → Dict) (stamp : String) (w : FlowWorld) (op : FlowOp) :
    (flowEnvironment plainHost).answers w op (calmAnswer worker stamp w op) := by
  cases op <;> first | rfl | trivial

def calmRun (worker : Stage → Dict) (stamp : String) (files : ResultFiles) (trigger : Json) :
    Except Lifecycle.Raised Dict × FlowWorld :=
  (runArtifactLifecycle plainHost trigger).served (calmAnswer worker stamp)
    (flowEnvironment plainHost).next { files }

/-- **It is a run.** -/
theorem exec_calmRun (worker : Stage → Dict) (stamp : String) (files : ResultFiles) (trigger : Json) :
    Exec (flowEnvironment plainHost) { files } (runArtifactLifecycle plainHost trigger)
      (calmRun worker stamp files trigger).2 (.ofExcept (calmRun worker stamp files trigger).1) :=
  exec_served (calmAnswer_answers worker stamp) _ _

def calmResult (worker : Stage → Dict) (stamp : String) (files : ResultFiles) (trigger : Json) : Dict :=
  match (calmRun worker stamp files trigger).1 with
  | .ok result => result
  | .error _ => []

theorem exec_calmResult {worker : Stage → Dict} {stamp : String} {files : ResultFiles} {trigger value : Json}
    (status : get? (calmResult worker stamp files trigger) "status" = some value) :
    Exec (flowEnvironment plainHost) { files } (runArtifactLifecycle plainHost trigger)
      (calmRun worker stamp files trigger).2 (.done (calmResult worker stamp files trigger)) := by
  have run := exec_calmRun worker stamp files trigger
  unfold calmResult at status ⊢
  cases ended : (calmRun worker stamp files trigger).1 with
  | ok result => rwa [ended] at run
  | error raised =>
    rw [ended] at status
    cases status

def gapWorker (fixes : List Json) : Stage → Dict
  | .gapFinding => [("gaps", .arr [.obj [("gap", .str "no owner")]])]
  | .gapFixing =>
    [("fixes", .arr fixes), ("unresolved", .arr []), ("improved_artifact", .str "owned")]
  | .evaluation => [("passed", .bool true), ("summary", .str "good"), ("findings", .arr [])]
  | .successCriteria =>
    [("criteria", .arr [.obj [("criterion", .str "owned"), ("validation", .str "read it")]])]
  | .fixtureDesign =>
    [("fixture_cases", .arr [.obj [("name", .str "case"), ("expectation", .str "owned")]])]

def draftTrigger (content : String) : Json := .obj
  [("artifact_id", .str "plan"), ("artifact_type", .str "plan"), ("status", .str "draft_complete"),
    ("content", .str content), ("intent", .str "ship"), ("context", .null)]

/-- The fields of `draftTrigger "draft"`. -/
def draftFields : Dict :=
  [("artifact_id", .str "plan"), ("artifact_type", .str "plan"), ("status", .str "draft_complete"),
    ("content", .str "draft"), ("intent", .str "ship"), ("context", .null)]

theorem submission_draft : Submission (draftTrigger "draft") draftFields "plan" "draft" :=
  ⟨rfl, by decide, by decide +kernel, by decide +kernel⟩

end Audisor.ArtifactFlow
