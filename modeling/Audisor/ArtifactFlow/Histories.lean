/-
**What histories of reviews have written.**

* `RunEnd.written` — a run returns what it has written.
* `WroteFile` — the run of a review has written a file. **`Reviews.wrote`** — some run of a history has
  written each of its files.
* `Reviews.submitted` — a review outcome in a file has the digest of the submission that it answers.
-/

import Audisor.ArtifactFlow.Runs

namespace Audisor.ArtifactFlow

open Interaction Json
open Audisor.Lifecycle (holdsText holdsText_iff)

variable {host : Host} {trigger : Json} {files : ResultFiles} {w : FlowWorld} {reviews : List Review}

/-! ### Single runs -/

theorem text_unique {fields : Dict} {key first second : String}
    (one : get? fields key = some (.str first)) (other : get? fields key = some (.str second)) :
    first = second := Json.str.inj (Option.some.inj (one.symm.trans other))

theorem RunEnd.written {k : RunState} {result other : Dict} {artifactId stamp : String}
    (ends : RunEnd host trigger k result) (written : k.written = some (artifactId, stamp, other)) :
    other = result ∧ get? result "artifact_id" = some (.str artifactId) := by
  cases ends with
  | skipped calls status bare possible =>
    rcases possible with absent | ⟨fields, id, stamp', object, valid, there, named⟩
    · rw [absent] at written
      cases written
    · rw [there] at written
      cases written
      exact ⟨rfl, named⟩
  | replays fields id content submission calls absent previous seen prior same =>
    rw [absent] at written
    cases written
  | refused calls absent status unstarted =>
    rw [absent] at written
    cases written
  | started fields id content submission last seen revision prior run identity completedAt evidence
      given same possible well =>
    rcases possible with absent | ⟨stamp', there⟩
    · rw [absent] at written
      cases written
    · rw [there] at written
      cases written
      exact ⟨rfl, same ▸ get?_startedResult_id⟩

theorem Submission.unique {fields fields' : Dict} {artifactId content artifactId' content' : String}
    (submission : Submission trigger fields artifactId content)
    (again : Submission trigger fields' artifactId' content') :
    fields = fields' ∧ artifactId = artifactId' ∧ content = content' := by
  obtain ⟨rfl, -, something, valid⟩ := submission
  obtain ⟨same, -, something', valid'⟩ := again
  cases same
  exact ⟨rfl, Option.some.inj (valid.symm.trans valid'), Option.some.inj (something.symm.trans something')⟩

theorem mem_of_found {artifactId : String} {previous : Dict}
    (found : readLastResult host artifactId files = .found previous) :
    ∃ name, latest artifactId files = some (name, .result previous) := by
  rw [readLastResult_eq] at found
  cases last : latest artifactId files with
  | none =>
    rw [last] at found
    cases found
  | some file =>
    obtain ⟨name, content⟩ := file
    rw [last] at found
    cases content with
    | corrupt error => cases found
    | noObject => cases found
    | result fields =>
      simp only [FileContent.read] at found
      split at found <;> cases found
      exact ⟨name, rfl⟩

/-! ### Histories -/

/-- **The run of a review has written the file.** -/
structure WroteFile (host : Host) (review : Review) (file : String × FileContent) (k : RunState)
    (artifactId stamp : String) (result : Dict) : Prop where
  file : file = (resultName artifactId stamp, .result result)
  ended : review.ended = .done result
  calls : review.calls = k.calls
  written : k.written = some (artifactId, stamp, result)
  ends : RunEnd host review.trigger k result

theorem mem_filesAfter {k : RunState} {file : String × FileContent} (among : file ∈ k.filesAfter files) :
    file ∈ files ∨ ∃ artifactId stamp result, k.written = some (artifactId, stamp, result) ∧
      file = (resultName artifactId stamp, .result result) := by
  rw [RunState.filesAfter] at among
  split at among
  · rename_i artifactId stamp result written
    rcases List.mem_cons.mp among with new | older
    · exact .inr ⟨artifactId, stamp, result, written, new⟩
    · exact .inl (List.mem_filter.mp older).1
  · exact .inl among

/-- **A run that has written a file** has returned what it holds. -/
theorem wroteFile_of_written {ended : Flow Dict} {k : RunState} {artifactId stamp : String}
    {result : Dict} (holds : RunState.Matches host files w k)
    (ends : ∀ result, ended = .done result → RunEnd host trigger k result)
    (raises : ended.Ended → (∀ result, ended ≠ .done result) → k.written = none)
    (stopped : ended.Ended) (written : k.written = some (artifactId, stamp, result)) :
    WroteFile host ⟨trigger, w.calls, ended⟩ (resultName artifactId stamp, .result result) k artifactId
      stamp result := by
  cases ended with
  | done returned =>
    have last := ends returned rfl
    obtain ⟨rfl, -⟩ := last.written written
    exact ⟨rfl, rfl, holds.calls, written, last⟩
  | raise error =>
    rw [raises stopped nofun] at written
    cases written
  | ask op next => exact stopped.elim

/-- **A file that is new after a run** was written by it. -/
theorem exec_wroteFile {ended : Flow Dict}
    (run : Exec (flowEnvironment host) { files } (runArtifactLifecycle host trigger) w ended)
    (stopped : ended.Ended) {file : String × FileContent} (among : file ∈ w.files) :
    file ∈ files ∨ ∃ k artifactId stamp result,
      WroteFile host ⟨trigger, w.calls, ended⟩ file k artifactId stamp result := by
  obtain ⟨k, holds, ends, raises⟩ := exec_runArtifactLifecycle run
  rcases mem_filesAfter (holds.left ▸ among) with older | ⟨artifactId, stamp, result, written, rfl⟩
  · exact .inl older
  · exact .inr ⟨k, artifactId, stamp, result, wroteFile_of_written holds ends raises stopped written⟩

/-- **Some run of a history has written each file.** -/
theorem Reviews.wrote (history : Reviews host reviews files) {file : String × FileContent}
    (among : file ∈ files) : ∃ review ∈ reviews, ∃ k artifactId stamp result,
      WroteFile host review file k artifactId stamp result := by
  induction history with
  | none => cases among
  | more _ run stopped ih =>
    rcases exec_wroteFile run stopped among with older | wrote
    · obtain ⟨review, member, wrote⟩ := ih older
      exact ⟨review, List.mem_cons_of_mem _ member, wrote⟩
    · exact ⟨_, List.mem_cons_self, wrote⟩

theorem WroteFile.artifact {review : Review} {file : String × FileContent} {k : RunState}
    {artifactId stamp : String} {result : Dict}
    (wrote : WroteFile host review file k artifactId stamp result) :
    get? result "artifact_id" = some (.str artifactId) := (wrote.ends.written wrote.written).2

/-! ### Histories of calm runs -/

/-- A trigger of the same artifact as `draftTrigger` that is not yet complete. -/
def openTrigger : Json := .obj
  [("artifact_id", .str "plan"), ("status", .str "draft"), ("content", .str "draft")]

def calmFiles (worker : Stage → Dict) (stamp : String) (files : ResultFiles) (trigger : Json) :
    ResultFiles := (calmRun worker stamp files trigger).2.files

def calmReview (worker : Stage → Dict) (stamp : String) (files : ResultFiles) (trigger : Json) : Review :=
  let ended := calmRun worker stamp files trigger
  ⟨trigger, ended.2.calls, .ofExcept ended.1⟩

theorem ended_calmRun (worker : Stage → Dict) (stamp : String) (files : ResultFiles) (trigger : Json) :
    (Program.ofExcept (calmRun worker stamp files trigger).1 : Flow Dict).Ended := by
  cases (calmRun worker stamp files trigger).1 with
  | ok result => trivial
  | error raised => trivial

/-- **Some runs, and one more.** -/
theorem reviews_calm (before : Reviews plainHost reviews files) (worker : Stage → Dict)
    (stamp : String) (trigger : Json) :
    Reviews plainHost (calmReview worker stamp files trigger :: reviews)
      (calmFiles worker stamp files trigger) :=
  .more before (exec_calmRun worker stamp files trigger) (ended_calmRun worker stamp files trigger)

end Audisor.ArtifactFlow
