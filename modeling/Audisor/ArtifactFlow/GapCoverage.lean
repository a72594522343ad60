/-
**The barrier before a handoff, and which gaps an improved result fixes.**

* `IsHandoff.started` — the result of a run keeps what its pipeline hands off.
* `WroteFile.handoff` — an improved result in a file was handed off by the run that has written it.
* **`barrier`** — in every history, the stages of a run are in order, and an improved result rests on
  the stages of its run, or of the earlier run that it replays.
* `NoGapDropped` — every gap of the result, and every deficiency of a failed first evaluation, is
  named by a fix of the result.
* `FixesCover` — the worker's fixes name the gaps that it found.
* **`noGapDropped_iff`** — an improved result drops no gap exactly where the worker's fixes cover them:
  nothing else checks it. `dropped` — a worker that finds a gap and fixes none.
-/

import Audisor.ArtifactFlow.Histories

namespace Audisor.ArtifactFlow

open Interaction Json
open Audisor.Lifecycle (holdsText)

section

variable {host : Host} {trigger : Json} {files : ResultFiles} {w : FlowWorld}

/-! ### Improved results -/

theorem IsHandoff.started {calls : List StageCall} {given : Dict} {artifactId completedAt : String}
    {started : Started} {evidence : Evidence} (handoff : IsHandoff host calls given) :
    IsHandoff host calls (startedResult artifactId started completedAt evidence given) := by
  obtain ⟨gaps, fixes, artifact, handed, found, fixed, improved⟩ := handoff
  refine ⟨gaps, fixes, artifact, handed, ?_, ?_, ?_⟩
  · rw [get?_startedResult (by decide), found]; rfl
  · rw [get?_startedResult (by decide), fixed]; rfl
  · rw [get?_startedResult (by decide), improved]; rfl

theorem RunEnd.improved {k : RunState} {result : Dict} (ends : RunEnd host trigger k result)
    (improved : get? result "status" = some (.str "improved")) :
    IsHandoff host k.calls result ∨ k.calls = [] ∧ k.written = none ∧ ∃ artifactId previous,
      k.seen = some (artifactId, .found previous) ∧ result = replayed previous := by
  cases ends with
  | skipped calls status bare written =>
    rw [status, Option.some.injEq, Json.str.injEq] at improved
    exact absurd improved (by decide)
  | replays fields artifactId content submission calls written previous seen prior same =>
    exact .inr ⟨calls, written, artifactId, previous, seen, same⟩
  | refused calls written status unstarted =>
    rw [status, Option.some.injEq, Json.str.injEq] at improved
    exact absurd improved (by decide)
  | started fields artifactId content submission last seen revision prior run identity completedAt
      evidence given same written well =>
    subst same
    rw [get?_startedResult (by decide)] at improved
    exact .inl (well improved).started

/-! ### Histories -/

/-- **An improved result in a file** was handed off by the run that has written it. -/
theorem WroteFile.handoff {review : Review} {file : String × FileContent} {k : RunState}
    {artifactId stamp : String} {result : Dict}
    (wrote : WroteFile host review file k artifactId stamp result)
    (improved : get? result "status" = some (.str "improved")) : IsHandoff host review.calls result := by
  rcases wrote.ends.improved improved with handoff | ⟨-, unwritten, -⟩
  · exact wrote.calls ▸ handoff
  · have written := wrote.written
    rw [unwritten] at written
    cases written

/-- **An improved result** was handed off by its own run, or by an earlier one that it replays. -/
theorem Reviews.improved {reviews : List Review} (history : Reviews host reviews files)
    {result : Dict}
    (run : Exec (flowEnvironment host) { files } (runArtifactLifecycle host trigger) w (.done result))
    (improved : get? result "status" = some (.str "improved")) :
    IsHandoff host w.calls result ∨ w.calls = [] ∧ ∃ review ∈ reviews, ∃ original,
      review.ended = .done original ∧ IsHandoff host review.calls original ∧
      result = replayed original := by
  obtain ⟨k, holds, ends, -⟩ := exec_runArtifactLifecycle run
  rcases (ends result rfl).improved improved with handoff | ⟨idle, -, artifactId, previous, seen, same⟩
  · exact .inl (holds.calls.symm ▸ handoff)
  · have found := (holds.seen artifactId _ seen).symm
    obtain ⟨name, last⟩ := mem_of_found found
    obtain ⟨review, member, k', other, stamp, original, wrote⟩ := history.wrote (mem_of_latest last).1
    cases wrote.file
    have status : get? previous "status" = some (.str "improved") := by
      rwa [same, replayed, get?_set_of_ne _ _ (by decide)] at improved
    exact .inr ⟨holds.calls.trans idle, review, member, previous, wrote.ended, wrote.handoff status, same⟩

/-- **The barrier.** After any runs, and at every point of a run: its stages are in order; and where it
returns an improved result, that rests on its own stages, or it executed none and replays the result
of an earlier run, which rests on the stages of that run. -/
theorem barrier (host : Host) {reviews : List Review} {files : ResultFiles}
    (history : Reviews host reviews files) (trigger : Json) {w : FlowWorld} {p : Flow Dict}
    (run : Exec (flowEnvironment host) { files } (runArtifactLifecycle host trigger) w p) :
    InOrder host w.calls.reverse ∧
      ∀ result, p = .done result → get? result "status" = some (.str "improved") →
        Justified host w.calls result ∨ w.calls = [] ∧ ∃ review ∈ reviews, ∃ original,
          review.ended = .done original ∧ Justified host review.calls original ∧
          result = replayed original := by
  obtain ⟨k, holds, -, -⟩ := exec_runArtifactLifecycle run
  refine ⟨holds.calls ▸ holds.inOrder, fun result ended improved => ?_⟩
  subst ended
  rcases history.improved run improved with handoff | ⟨idle, review, member, original, returned, handed, same⟩
  · exact .inl handoff.justified
  · exact .inr ⟨idle, review, member, original, returned, handed.justified, same⟩

theorem improved_of_calm :
    get? (calmResult (gapWorker []) "0" [] (draftTrigger "draft")) "status" =
      some (.str "improved") := by decide +kernel

/-- A run without errors is justified by its own stages. -/
theorem justified_calm : ∃ w result,
    Exec (flowEnvironment plainHost) { files := [] } (runArtifactLifecycle plainHost (draftTrigger "draft")) w
      (.done result) ∧
    InOrder plainHost w.calls.reverse ∧ Justified plainHost w.calls result := by
  have run := exec_calmResult improved_of_calm
  obtain ⟨inOrder, justified⟩ := barrier plainHost .none (draftTrigger "draft") run
  refine ⟨_, _, run, inOrder, ?_⟩
  rcases justified _ rfl improved_of_calm with own | ⟨-, review, among, -⟩
  · exact own
  · cases among

end

variable {host : Host} {trigger : Json} {files : ResultFiles} {w : FlowWorld}

/-! ### Gaps -/

def Named (fixes : List Json) (gap : String) : Prop := ∃ fix ∈ fixes, itemText "gap" fix = gap

/-- The items that the stages of a kind gave, of stages of which the last comes first. -/
def answered (host : Host) (stage : Stage) (key : String) (calls : List StageCall) : List Json :=
  (calls.reverse.filter fun call => call.stage = stage).flatMap fun call =>
    itemsOf (call.output host) key

def deficienciesFound (host : Host) (calls : List StageCall) : List Json :=
  match calls.reverse with
  | _ :: _ :: evaluated :: _ =>
    if flagOf (evaluated.output host) "passed" then [] else itemsOf (evaluated.output host) "findings"
  | _ => []

/-- **No gap is dropped**: the fixes of the result name its gaps, and the deficiencies of a failed first
evaluation. -/
def NoGapDropped (host : Host) (calls : List StageCall) (result : Dict) : Prop :=
  (∀ gap ∈ itemsOf result "gap_findings", Named (itemsOf result "gap_fixes") (itemText "gap" gap)) ∧
    ∀ finding ∈ deficienciesFound host calls,
      Named (itemsOf result "gap_fixes") (itemText "finding" finding)

/-- **The worker's fixes cover** the gaps that it found, and the findings of its failed evaluation. -/
def FixesCover (host : Host) (calls : List StageCall) : Prop :=
  (∀ gap ∈ answered host .gapFinding "gaps" calls,
      Named (answered host .gapFixing "fixes" calls) (itemText "gap" gap)) ∧
    ∀ finding ∈ deficienciesFound host calls,
      Named (answered host .gapFixing "fixes" calls) (itemText "finding" finding)

theorem HandedOff.answered {calls : List StageCall} {gaps fixes : List Json} {artifact : String}
    (handed : HandedOff host calls gaps fixes artifact) :
    answered host .gapFinding "gaps" calls = gaps ∧
      answered host .gapFixing "fixes" calls = fixes := by
  cases handed with
  | plain found fixed evaluated criteria fixtures stages =>
    simp only [List.map_cons, List.map_nil, plainSequence, List.cons.injEq] at stages
    obtain ⟨one, two, three, four, five, -⟩ := stages
    constructor <;> simp [ArtifactFlow.answered, one, two, three, four, five]
  | repaired found fixed failed refixed evaluated criteria fixtures stages =>
    simp only [List.map_cons, List.map_nil, repairSequence, List.cons.injEq] at stages
    obtain ⟨one, two, three, four, five, six, seven, -⟩ := stages
    constructor <;> simp [ArtifactFlow.answered, one, two, three, four, five, six, seven]

/-- **A handoff drops no gap exactly where the fixes cover.** -/
theorem IsHandoff.drops_none_iff {calls : List StageCall} {result : Dict}
    (handoff : IsHandoff host calls result) : NoGapDropped host calls result ↔ FixesCover host calls := by
  obtain ⟨gaps, fixes, artifact, handed, found, fixed, -⟩ := handoff
  obtain ⟨gapsAnswered, fixesAnswered⟩ := handed.answered
  have findings : itemsOf result "gap_findings" = gaps := by rw [itemsOf, found]
  have given : itemsOf result "gap_fixes" = fixes := by rw [itemsOf, fixed]
  rw [NoGapDropped, FixesCover, gapsAnswered, fixesAnswered, findings, given]

theorem noGapDropped_replayed {calls : List StageCall} {original : Dict} :
    NoGapDropped host calls (replayed original) ↔ NoGapDropped host calls original := by
  have same : ∀ key, key ≠ "submission_disposition" →
      itemsOf (replayed original) key = itemsOf original key := by
    intro key other
    rw [itemsOf, itemsOf, replayed, get?_set_of_ne _ _ other]
  rw [NoGapDropped, NoGapDropped, same _ (by decide), same _ (by decide)]

/-- **An improved result drops no gap exactly where the worker's fixes cover them**: the fixes of the
run, or of the earlier run that it replays. -/
theorem noGapDropped_iff (host : Host) {reviews : List Review} {files : ResultFiles}
    (history : Reviews host reviews files) (trigger : Json) {w : FlowWorld} {result : Dict}
    (run : Exec (flowEnvironment host) { files } (runArtifactLifecycle host trigger) w (.done result))
    (improved : get? result "status" = some (.str "improved")) :
    (NoGapDropped host w.calls result ↔ FixesCover host w.calls) ∨
      w.calls = [] ∧ ∃ review ∈ reviews, ∃ original, review.ended = .done original ∧
        result = replayed original ∧
        (NoGapDropped host review.calls result ↔ FixesCover host review.calls) := by
  rcases history.improved run improved with handoff | ⟨idle, review, member, original, returned, handoff, same⟩
  · exact .inl handoff.drops_none_iff
  · refine .inr ⟨idle, review, member, original, returned, same, ?_⟩
    rw [same, noGapDropped_replayed]
    exact handoff.drops_none_iff

/-! ### Runs that cover their gap, and that drop it -/

/-- The fix of the gap of `gapWorker`. -/
def ownerFix : Json := .obj [("gap", .str "no owner"), ("fix", .str "named one")]

theorem improved_of_fixing :
    get? (calmResult (gapWorker [ownerFix]) "1" [] (draftTrigger "draft")) "status" =
      some (.str "improved") := by decide +kernel

theorem improved_of_dropping :
    get? (calmResult (gapWorker []) "1" [] (draftTrigger "draft")) "status" =
      some (.str "improved") := by decide +kernel

/-- **A worker that finds a gap and fixes none** hands the artifact off. -/
theorem dropped : ∃ w result,
    Exec (flowEnvironment plainHost) { files := [] } (runArtifactLifecycle plainHost (draftTrigger "draft")) w
      (.done result) ∧
    get? result "status" = some (.str "improved") ∧ ¬ NoGapDropped plainHost w.calls result := by
  refine ⟨_, _, exec_calmResult improved_of_dropping, improved_of_dropping, fun named => ?_⟩
  have found : itemsOf (calmResult (gapWorker []) "1" [] (draftTrigger "draft")) "gap_findings" ≠ [] := by
    decide +kernel
  have unfixed : itemsOf (calmResult (gapWorker []) "1" [] (draftTrigger "draft")) "gap_fixes" = [] := by
    decide +kernel
  obtain ⟨gap, listed⟩ := List.exists_mem_of_ne_nil _ found
  obtain ⟨fix, among, -⟩ := named.1 gap listed
  rw [unfixed] at among
  cases among

/-- A worker that fixes its gap. -/
theorem covered : ∃ w result,
    Exec (flowEnvironment plainHost) { files := [] } (runArtifactLifecycle plainHost (draftTrigger "draft")) w
      (.done result) ∧
    get? result "status" = some (.str "improved") ∧
    (NoGapDropped plainHost w.calls result ↔ FixesCover plainHost w.calls) := by
  have run := exec_calmResult improved_of_fixing
  refine ⟨_, _, run, improved_of_fixing, ?_⟩
  rcases noGapDropped_iff plainHost .none (draftTrigger "draft") run improved_of_fixing with own | replays
  · exact own
  · obtain ⟨-, review, among, -⟩ := replays
    cases among

end Audisor.ArtifactFlow
