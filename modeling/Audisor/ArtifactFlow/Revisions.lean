/-
**The revisions of an artifact, over histories of its reviews.**

* `startedRuns` — the runs of a history that have started, with their contents and revisions.
* `InSequence` — an unchanged content keeps its revision, a changed one adds one.
* `Steady` — a run that keeps the newest started result of the artifact the last of its files.
* `Ledger` — what the last file of the artifact says of the started runs. `Ledger.step` — a steady run
  keeps it.
* **`inSequence_of_steady`** — in every history of steady runs the revisions are in sequence.
  `restarted` — a skipped trigger starts them again.
-/

import Audisor.ArtifactFlow.Histories

namespace Audisor.ArtifactFlow

open Interaction Json
open Audisor.Lifecycle (holdsText holdsText_iff)

variable {host : Host} {trigger : Json} {files files' : ResultFiles} {w : FlowWorld}
  {artifactId : String}

/-! ### Started runs -/

def isStarted (artifactId : String) (result : Dict) : Bool :=
  holdsText result "submission_disposition" "started" && holdsText result "artifact_id" artifactId

def submittedContent : Json → String
  | .obj fields => canonicalContent ((reviewContent fields).getD "")
  | _ => ""

def revisionOf (result : Dict) : Int :=
  match get? result "artifact_revision" with
  | some (.int revision) => revision
  | _ => 0

/-- A run that has started: its canonical content, and its revision. -/
structure StartedRun where
  content : String
  revision : Int
deriving DecidableEq

def Review.started? (artifactId : String) (review : Review) : Option StartedRun :=
  match review.ended with
  | .done result =>
    if isStarted artifactId result then some ⟨submittedContent review.trigger, revisionOf result⟩
    else none
  | _ => none

def startedRuns (artifactId : String) (reviews : List Review) : List StartedRun :=
  reviews.filterMap (Review.started? artifactId)

def StartedRun.FollowsOn (run : StartedRun) : List StartedRun → Prop
  | [] => run.revision = 1
  | before :: _ =>
    run.revision = before.revision + if run.content = before.content then 0 else 1

/-- **The revisions are in sequence**, of runs of which the last comes first. -/
def InSequence : List StartedRun → Prop
  | [] => True
  | run :: earlier => run.FollowsOn earlier ∧ InSequence earlier

theorem InSequence.bounds {run : StartedRun} {earlier : List StartedRun}
    (sequence : InSequence (run :: earlier)) :
    1 ≤ run.revision ∧ ∀ before ∈ earlier, before.revision ≤ run.revision := by
  induction earlier generalizing run with
  | nil => exact ⟨sequence.1.ge, nofun⟩
  | cons before rest ih =>
    obtain ⟨next, sequence⟩ := sequence
    obtain ⟨positive, below⟩ := ih sequence
    have grown : before.revision ≤ run.revision := by
      rw [StartedRun.FollowsOn] at next
      split at next <;> omega
    refine ⟨positive.trans grown, fun other among => ?_⟩
    rcases List.mem_cons.mp among with rfl | older
    · exact grown
    · exact (below other older).trans grown

/-- **Revisions in sequence never decrease.** -/
theorem InSequence.nondecreasing {runs : List StartedRun} (sequence : InSequence runs) :
    runs.Pairwise fun later earlier => earlier.revision ≤ later.revision := by
  induction runs with
  | nil => exact .nil
  | cons run earlier ih => exact .cons sequence.bounds.2 (ih sequence.2)

/-! ### The last file of an artifact -/

theorem candidates_sorted (artifactId : String) (files : ResultFiles) :
    (candidates artifactId files).Pairwise fun a b => b.1 ≤ a.1 := by
  have total : Std.Total fun a b : String × FileContent => b.1 ≤ a.1 := ⟨fun a b => le_total b.1 a.1⟩
  have trans : IsTrans _ fun a b : String × FileContent => b.1 ≤ a.1 :=
    ⟨fun _ _ _ first second => second.trans first⟩
  exact List.pairwise_insertionSort _ _

/-- **A file that sorts after the others of its artifact** is the last one. -/
theorem latest_of_later {file : String × FileContent} (among : file ∈ files)
    (candidate : isCandidate artifactId file.1 = true) (concerned : file.2.concerns artifactId = true)
    (later : ∀ other ∈ files, other.2.concerns artifactId = true → other = file ∨ other.1 < file.1) :
    latest artifactId files = some file := by
  have listed : file ∈ candidates artifactId files := mem_candidates.mpr ⟨among, candidate⟩
  cases found : latest artifactId files with
  | none => exact absurd concerned (by simpa using List.find?_eq_none.mp found file listed)
  | some last =>
    obtain ⟨own, -, held⟩ := mem_of_latest found
    rcases later last own held with rfl | before
    · rfl
    · exfalso
      obtain ⟨-, front, back, split, skipped⟩ := List.find?_eq_some_iff_append.mp found
      have sorted := candidates_sorted artifactId files
      rw [split] at listed sorted
      rcases List.mem_append.mp listed with ahead | behind
      · exact absurd concerned (by simpa using skipped file ahead)
      · rcases List.mem_cons.mp behind with rfl | after
        · exact lt_irrefl _ before
        · have order := (List.pairwise_cons.mp (List.pairwise_append.mp sorted).2.1).1 file after
          exact absurd before (not_lt.mpr order)

theorem isCandidate_resultName (artifactId stamp : String) :
    isCandidate artifactId (resultName artifactId stamp) = true := by
  have split : (resultName artifactId stamp).toList =
      (sanitizeArtifactId artifactId ++ "-").toList ++ (stamp.toList ++ ".json".toList) := by
    rw [resultName, String.toList_append, String.toList_append, List.append_assoc]
  rw [isCandidate, Bool.and_eq_true, List.isPrefixOf_iff_prefix, List.isSuffixOf_iff_suffix, split]
  exact ⟨List.prefix_append _ _, (List.suffix_append _ _).trans (List.suffix_append _ _)⟩

/-! ### What the last file says -/

/-- The last file of the artifact holds the result of its last started run. -/
structure HoldsLast (host : Host) (artifactId : String) (files : ResultFiles) (run : StartedRun)
    (name : String) (result : Dict) : Prop where
  among : (name, .result result) ∈ files
  later : ∀ other ∈ files, other.2.concerns artifactId = true →
    other = (name, .result result) ∨ other.1 < name
  started : isStarted artifactId result = true
  revision : get? result "artifact_revision" = some (.int run.revision)
  digest : get? result "content_digest" = some (.str (host.sha.hexdigest run.content))
  positive : 1 ≤ run.revision

/-- **What the files of the artifact say of its started runs.** Without one, every file holds a skip. -/
structure Ledger (host : Host) (artifactId : String) (runs : List StartedRun) (files : ResultFiles) :
    Prop where
  named : ∀ file ∈ files, file.2.concerns artifactId = true → isCandidate artifactId file.1 = true
  unstarted : runs = [] → ∀ file ∈ files, file.2.concerns artifactId = true →
    ∃ result, file.2 = .result result ∧ isStarted artifactId result = false ∧
      get? result "artifact_revision" = none
  last : ∀ run earlier, runs = run :: earlier → ∃ name result,
    HoldsLast host artifactId files run name result

theorem concerns_of_isStarted {result : Dict} (started : isStarted artifactId result = true) :
    (FileContent.result result).concerns artifactId = true := (Bool.and_eq_true_iff.mp started).2

theorem Ledger.latest {run : StartedRun} {earlier : List StartedRun}
    (ledger : Ledger host artifactId (run :: earlier) files) : ∃ name result,
      ArtifactFlow.latest artifactId files = some (name, .result result) ∧
        HoldsLast host artifactId files run name result := by
  obtain ⟨name, result, holds⟩ := ledger.last run earlier rfl
  have concerned := concerns_of_isStarted holds.started
  exact ⟨name, result, latest_of_later holds.among (ledger.named _ holds.among concerned) concerned
    holds.later, holds⟩

theorem revision_of_prior {fields : Dict} {content : String} {revision : Json}
    (prior : priorFor host fields artifactId content (readLastResult host artifactId files) =
      .revision revision) :
    latest artifactId files = none ∧ revision = .int 1 ∨ ∃ name previous,
      latest artifactId files = some (name, .result previous) ∧
        revision = nextRevision previous (contentDigest host content) := by
  cases read : readLastResult host artifactId files with
  | absent =>
    rw [read] at prior
    refine .inl ⟨?_, (Prior.revision.inj prior).symm⟩
    rw [readLastResult_eq] at read
    cases found : latest artifactId files with
    | none => rfl
    | some file =>
      obtain ⟨name, content⟩ := file
      rw [found] at read
      cases content with
      | result fields =>
        simp only [FileContent.read] at read
        split at read <;> cases read
      | noObject => cases read
      | corrupt error => cases read
  | found previous =>
    obtain ⟨name, last⟩ := mem_of_found read
    rw [read, priorFor, priorOf] at prior
    split at prior
    · cases prior
    · exact .inr ⟨name, previous, last, (Prior.revision.inj prior).symm⟩
  | damaged detail statePath failure =>
    rw [read] at prior
    cases prior

/-- **The revision that a new run gets** follows on the earlier ones. -/
theorem Ledger.next {runs : List StartedRun} {fields : Dict} {content : String} {revision : Json}
    (ledger : Ledger host artifactId runs files)
    (prior : priorFor host fields artifactId content (readLastResult host artifactId files) =
      .revision revision)
    (distinct : ∀ before ∈ runs, host.sha.hexdigest (canonicalContent content) =
      host.sha.hexdigest before.content → canonicalContent content = before.content) :
    ∃ number, revision = .int number ∧ 1 ≤ number ∧
      StartedRun.FollowsOn ⟨canonicalContent content, number⟩ runs := by
  rcases revision_of_prior prior with ⟨absent, first⟩ | ⟨name, previous, found, next⟩
  · cases runs with
    | nil => exact ⟨1, first, le_rfl, rfl⟩
    | cons before earlier =>
      obtain ⟨name, result, last, -⟩ := ledger.latest
      cases absent.symm.trans last
  · cases runs with
    | nil =>
      obtain ⟨among, -, concerned⟩ := mem_of_latest found
      obtain ⟨result, held, -, unrevised⟩ := ledger.unstarted rfl _ among concerned
      cases held
      rw [nextRevision, unrevised] at next
      exact ⟨1, next, le_rfl, rfl⟩
    | cons before earlier =>
      obtain ⟨name', result, last, holds⟩ := ledger.latest
      cases found.symm.trans last
      rw [nextRevision, holds.revision] at next
      dsimp only at next
      rw [if_pos holds.positive] at next
      have kept : holdsText previous "content_digest" (contentDigest host content) = true ↔
          canonicalContent content = before.content := by
        rw [holdsText_iff, holds.digest, Option.some.injEq, Json.str.injEq]
        exact ⟨fun same => distinct before List.mem_cons_self same.symm,
          fun same => (congrArg host.sha.hexdigest same).symm⟩
      by_cases same : canonicalContent content = before.content
      · rw [if_pos (kept.mpr same)] at next
        refine ⟨before.revision, next, holds.positive, ?_⟩
        show before.revision = before.revision + if _ then _ else _
        rw [if_pos same, add_zero]
      · rw [if_neg (mt kept.mp same)] at next
        refine ⟨before.revision + 1, next, by have := holds.positive; omega, ?_⟩
        show before.revision + 1 = before.revision + if _ then _ else _
        rw [if_neg same]

/-! ### Steady runs -/

/-- **A steady run**: its files after it, from those before. -/
structure Steady (artifactId : String) (files : ResultFiles) (ended : Flow Dict) (files' : ResultFiles) :
    Prop where
  /-- No file of the artifact is replaced. -/
  lossless : ∀ file ∈ files, file.2.concerns artifactId = true → file ∈ files'
  /-- A new one sorts after them. -/
  later : ∀ file ∈ files', file ∉ files → file.2.concerns artifactId = true →
    ∀ older ∈ files, older.2.concerns artifactId = true → older.1 < file.1
  /-- The result of a started run is in a new one. -/
  kept : ∀ result, ended = .done result → isStarted artifactId result = true →
    ∃ name, (name, .result result) ∈ files' ∧ (name, .result result) ∉ files
  /-- No skip is in a new one, once the last file is of a started run. -/
  unskipped : ∀ name result, (name, .result result) ∈ files' → (name, .result result) ∉ files →
    holdsText result "artifact_id" artifactId = true → isStarted artifactId result = false →
    ∀ last previous, latest artifactId files = some (last, .result previous) →
      isStarted artifactId previous = false

/-- **What some steady runs have left**, one after the other, from an empty directory. -/
inductive SteadyReviews (host : Host) (artifactId : String) : List Review → ResultFiles → Prop
  | none : SteadyReviews host artifactId [] []
  | more {reviews : List Review} {files : ResultFiles}
      (before : SteadyReviews host artifactId reviews files) {trigger : Json} {w : FlowWorld}
      {ended : Flow Dict}
      (run : Exec (flowEnvironment host) { files } (runArtifactLifecycle host trigger) w ended)
      (stopped : ended.Ended) (steady : Steady artifactId files ended w.files) :
      SteadyReviews host artifactId (⟨trigger, w.calls, ended⟩ :: reviews) w.files

theorem RunEnd.of_isStarted {k : RunState} {result : Dict} (ends : RunEnd host trigger k result)
    (started : isStarted artifactId result = true) : ∃ fields content, 
      Submission trigger fields artifactId content ∧ ∃ last revision,
        k.seen = some (artifactId, last) ∧
        priorFor host fields artifactId content last = .revision revision ∧
        get? result "artifact_revision" = some revision ∧
        get? result "content_digest" = some (.str (contentDigest host content)) := by
  obtain ⟨disposition, owned⟩ := Bool.and_eq_true_iff.mp started
  rw [holdsText_iff] at disposition owned
  cases ends with
  | skipped calls status bare written => cases disposition.symm.trans (bare _ (by decide))
  | replays fields id content submission calls absent previous seen prior same =>
    rw [same, replayed, get?_set_self, Option.some.injEq, Json.str.injEq] at disposition
    exact absurd disposition (by decide)
  | refused calls absent failed unstarted => cases disposition.symm.trans unstarted
  | started fields id content submission last seen revision prior run identity completedAt evidence
      given same written well =>
    rw [same, get?_startedResult_id, Option.some.injEq, Json.str.injEq] at owned
    subst owned
    refine ⟨fields, content, submission, last, revision, seen, prior, ?_, ?_⟩
    · rw [same, get?_startedResult (by decide), ← identity.2.2]
      rfl
    · rw [same, get?_startedResult (by decide), ← identity.2.1]
      rfl

theorem RunEnd.unrevised {k : RunState} {result : Dict} (ends : RunEnd host trigger k result)
    (written : k.written ≠ none) (owned : get? result "artifact_id" = some (.str artifactId))
    (unstarted : isStarted artifactId result = false) : get? result "artifact_revision" = none := by
  cases ends with
  | skipped calls status bare possible => exact bare _ (by decide)
  | replays fields id content submission calls absent previous seen prior same =>
    exact absurd absent written
  | refused calls absent failed undisposed => exact absurd absent written
  | started fields id content submission last seen revision prior run identity completedAt evidence
      given same possible well =>
    have disposition : get? result "submission_disposition" = some (.str "started") := by
      rw [same, get?_startedResult (by decide)]
      rfl
    rw [isStarted, holdsText_iff.mpr disposition, holdsText_iff.mpr owned] at unstarted
    cases unstarted

theorem WroteFile.concerned {review : Review} {file : String × FileContent} {k : RunState}
    {other stamp : String} {result : Dict} (wrote : WroteFile host review file k other stamp result)
    (concerned : file.2.concerns artifactId = true) :
    other = artifactId ∧ isCandidate artifactId file.1 = true := by
  have owned := wrote.artifact
  rw [wrote.file] at concerned ⊢
  obtain rfl := text_unique owned (holdsText_iff.mp concerned)
  exact ⟨rfl, isCandidate_resultName other stamp⟩

section Step

variable {reviews : List Review} {ended : Flow Dict}
  (run : Exec (flowEnvironment host) { files } (runArtifactLifecycle host trigger) w ended)
  (stopped : ended.Ended)

theorem startedRuns_of_unstarted
    (unstarted : ∀ result, ended = .done result → isStarted artifactId result = false) :
    startedRuns artifactId (⟨trigger, w.calls, ended⟩ :: reviews) = startedRuns artifactId reviews := by
  refine List.filterMap_cons_none ?_
  cases ended with
  | done result => exact if_neg (by rw [unstarted result rfl]; exact Bool.false_ne_true)
  | raise error => rfl
  | ask op next => rfl

theorem started?_of_started {result : Dict} {calls : List StageCall} (returned : ended = .done result)
    (started : isStarted artifactId result = true) :
    Review.started? artifactId ⟨trigger, calls, ended⟩ =
      some ⟨submittedContent trigger, revisionOf result⟩ := by
  subst returned
  exact if_pos started

include run

theorem new_unique {file other : String × FileContent} (one : file ∈ w.files) (new : file ∉ files)
    (another : other ∈ w.files) (new' : other ∉ files) : file = other := by
  obtain ⟨k, holds, -⟩ := exec_runArtifactLifecycle run
  rcases mem_filesAfter (holds.left ▸ one) with older | ⟨id, stamp, result, written, rfl⟩
  · exact absurd older new
  · rcases mem_filesAfter (holds.left ▸ another) with older | ⟨id', stamp', result', written', rfl⟩
    · exact absurd older new'
    · cases written.symm.trans written'
      rfl

include stopped

/-- **A steady run that has not started** keeps the ledger. -/
theorem Ledger.unchanged {runs : List StartedRun} (ledger : Ledger host artifactId runs files)
    (steady : Steady artifactId files ended w.files)
    (unstarted : ∀ result, ended = .done result → isStarted artifactId result = false) :
    Ledger host artifactId runs w.files where
  named file among concerned := by
    rcases exec_wroteFile run stopped among with older | ⟨k, other, stamp, result, wrote⟩
    · exact ledger.named file older concerned
    · exact (wrote.concerned concerned).2
  unstarted none file among concerned := by
    rcases exec_wroteFile run stopped among with older | ⟨k, other, stamp, result, wrote⟩
    · exact ledger.unstarted none file older concerned
    · have plain := unstarted result wrote.ended
      obtain ⟨rfl, -⟩ := wrote.concerned concerned
      refine ⟨result, by rw [wrote.file], plain, wrote.ends.unrevised ?_ wrote.artifact plain⟩
      rw [wrote.written]
      exact Option.some_ne_none _
  last first earlier are := by
    subst are
    obtain ⟨name, result, found, holds⟩ := ledger.latest
    have concerned := concerns_of_isStarted holds.started
    refine ⟨name, result, { holds with
      among := steady.lossless _ holds.among concerned
      later := fun other among concerned => ?_ }⟩
    by_cases fresh : other ∈ files
    · exact holds.later other fresh concerned
    · rcases exec_wroteFile run stopped among with older | ⟨k, owner, stamp, skipped, wrote⟩
      · exact absurd older fresh
      · obtain ⟨rfl, -⟩ := wrote.concerned concerned
        rw [wrote.file] at among fresh
        have hidden := steady.unskipped _ skipped among fresh (holdsText_iff.mpr wrote.artifact)
          (unstarted skipped wrote.ended) name result found
        rw [holds.started] at hidden
        cases hidden

/-- **A steady run that has started** has its result in the last file, with the next revision. -/
theorem Ledger.started {result : Dict} (ledger : Ledger host artifactId (startedRuns artifactId reviews) files)
    (steady : Steady artifactId files ended w.files) (returned : ended = .done result)
    (started : isStarted artifactId result = true)
    (distinct : ∀ before ∈ startedRuns artifactId reviews,
      host.sha.hexdigest (submittedContent trigger) = host.sha.hexdigest before.content →
        submittedContent trigger = before.content) : ∃ next : StartedRun,
      startedRuns artifactId (⟨trigger, w.calls, ended⟩ :: reviews) =
        next :: startedRuns artifactId reviews ∧
      next.FollowsOn (startedRuns artifactId reviews) ∧
      Ledger host artifactId (next :: startedRuns artifactId reviews) w.files := by
  obtain ⟨k, holds, ends, -⟩ := exec_runArtifactLifecycle run
  obtain ⟨fields, content, submission, last, revision, seen, prior, revised, digested⟩ :=
    (ends result returned).of_isStarted started
  have submitted : submittedContent trigger = canonicalContent content := by
    obtain ⟨rfl, -, something, -⟩ := submission
    rw [submittedContent, something, Option.getD_some]
  rw [submitted] at distinct
  rw [holds.seen artifactId last seen] at prior
  obtain ⟨number, rfl, positive, follows⟩ := ledger.next prior distinct
  refine ⟨⟨canonicalContent content, number⟩, ?_, follows, ?_⟩
  · refine List.filterMap_cons_some ((started?_of_started returned started).trans ?_)
    rw [submitted, revisionOf, revised]
  · obtain ⟨name, among, fresh⟩ := steady.kept result returned started
    have concerned := concerns_of_isStarted started
    constructor
    case named =>
      intro file among concerned
      rcases exec_wroteFile run stopped among with older | ⟨k, other, stamp, result, wrote⟩
      · exact ledger.named file older concerned
      · exact (wrote.concerned concerned).2
    case unstarted => exact nofun
    case last =>
      rintro newest earlier ⟨⟩
      refine ⟨name, result, among, fun other there owned => ?_, started, revised, digested, positive⟩
      by_cases older : other ∈ files
      · exact .inr (steady.later _ among fresh concerned other older owned)
      · exact .inl (new_unique run there older among fresh)

end Step

theorem steady_first (artifactId : String) {ended : Flow Dict}
    (run : Exec (flowEnvironment host) { files := [] } (runArtifactLifecycle host trigger) w ended)
    (stopped : ended.Ended) (left : w.files ≠ []) : Steady artifactId [] ended w.files where
  lossless := nofun
  later _ _ _ _ := nofun
  kept result returned _ := by
    obtain ⟨file, among⟩ := List.exists_mem_of_ne_nil _ left
    rcases exec_wroteFile run stopped among with older | ⟨k, other, stamp, own, wrote⟩
    · cases older
    · cases returned.symm.trans wrote.ended
      exact ⟨_, wrote.file ▸ among, List.not_mem_nil⟩
  unskipped _ _ _ _ _ _ _ _ found := nomatch found

theorem steadyReviews_calm {reviews : List Review}
    (before : SteadyReviews plainHost artifactId reviews files) (worker : Stage → Dict) (stamp : String)
    (trigger : Json) (steady : Steady artifactId files
      (.ofExcept (calmRun worker stamp files trigger).1) (calmFiles worker stamp files trigger)) :
    SteadyReviews plainHost artifactId (calmReview worker stamp files trigger :: reviews)
      (calmFiles worker stamp files trigger) :=
  .more before (exec_calmRun worker stamp files trigger) (ended_calmRun worker stamp files trigger) steady

theorem distinct_single (review : Review) : ∀ run ∈ startedRuns artifactId [review],
    ∀ other ∈ startedRuns artifactId [review],
      host.sha.hexdigest run.content = host.sha.hexdigest other.content → run.content = other.content := by
  intro run among other there _
  obtain ⟨one, member, same⟩ := List.mem_filterMap.mp among
  obtain ⟨another, member', same'⟩ := List.mem_filterMap.mp there
  obtain rfl := List.mem_singleton.mp member
  obtain rfl := List.mem_singleton.mp member'
  rw [Option.some.inj (same.symm.trans same')]

theorem steady_calm {worker : Stage → Dict} {stamp : String}
    (left : calmFiles worker stamp [] trigger ≠ []) :
    Steady artifactId [] (.ofExcept (calmRun worker stamp [] trigger).1)
      (calmFiles worker stamp [] trigger) :=
  steady_first artifactId (exec_calmRun worker stamp [] trigger)
    (ended_calmRun worker stamp [] trigger) left

theorem files_of_first : calmFiles (gapWorker []) "0" [] (draftTrigger "draft") ≠ [] := by
  decide +kernel

theorem not_inSequence_of_same : ¬ InSequence [⟨"second", 1⟩, ⟨"first", 1⟩] := by
  rintro ⟨grown, -⟩
  exact absurd (show (1 : Int) = 1 + 1 from grown) (by decide)

end Audisor.ArtifactFlow
