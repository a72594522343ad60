/-
**The order of the stages, and what a handoff rests on.**

* `InOrder` — the executed stages are a prefix of the fixed sequence, with at most one repair cycle.
* `HandedOff` — the stages of a run that hands an artifact off: each met its schema, nothing is
  unresolved, and the last evaluation passed the artifact.
* `Justified` — what an improved result rests on. `IsHandoff.justified` — a handoff rests on it.
* **`follows_pipeline`** — the pipeline executes its stages in order, and an improved result of it is
  that of a handoff.
-/

import Audisor.ArtifactFlow.Persistence

namespace Audisor.ArtifactFlow

open Interaction Json
open Audisor.Lifecycle (Raised holdsText)

variable {host : Host}

/-! ### Order -/

def plainSequence : List Stage :=
  [.gapFinding, .gapFixing, .evaluation, .successCriteria, .fixtureDesign]

def repairSequence : List Stage :=
  [.gapFinding, .gapFixing, .evaluation, .gapFixing, .evaluation, .successCriteria, .fixtureDesign]

/-- **The stages of a run**, the first one first, are in order: a prefix of a sequence, with the repair
cycle after a failed evaluation. -/
structure InOrder (host : Host) (calls : List StageCall) : Prop where
  sequence : calls.map StageCall.stage <+: plainSequence ∨ calls.map StageCall.stage <+: repairSequence
  repair : ∀ found fixed evaluated refixed rest,
    calls = found :: fixed :: evaluated :: refixed :: rest → refixed.stage = .gapFixing →
    flagOf (evaluated.output host) "passed" = false

/-! ### What an improved result rests on -/

def StageCall.Met (host : Host) (call : StageCall) : Prop :=
  call.stage.schema.accepts (.obj (call.output host)) = true

def StageCall.given (call : StageCall) : Option Json := get? call.payload "improved_artifact"

/-- The last stage of a kind, of stages of which the last comes first. -/
def lastOf (stage : Stage) (calls : List StageCall) : Option StageCall :=
  calls.find? fun call => call.stage = stage

/-- **What an improved result rests on**: every stage met its schema, the last fixes leave nothing
unresolved, and the last evaluation passed the artifact of the result. -/
structure Justified (host : Host) (calls : List StageCall) (result : Dict) : Prop where
  met : ∀ call ∈ calls, call.Met host
  resolved : ∃ fixed, lastOf .gapFixing calls = some fixed ∧
    itemsOf (fixed.output host) "unresolved" = []
  passed : ∃ evaluated, lastOf .evaluation calls = some evaluated ∧
    flagOf (evaluated.output host) "passed" = true ∧ (evaluated.given).isSome ∧
    evaluated.given = get? result "improved_artifact"

/-- **The stages of a handoff**, the last first, with the gaps, the fixes and the artifact that they
hand off. -/
inductive HandedOff (host : Host) : List StageCall → List Json → List Json → String → Prop
  | plain (found fixed evaluated criteria fixtures : StageCall)
      (stages : [found, fixed, evaluated, criteria, fixtures].map StageCall.stage = plainSequence)
      (met : ∀ call ∈ [fixtures, criteria, evaluated, fixed, found], call.Met host)
      (resolved : itemsOf (fixed.output host) "unresolved" = [])
      (passed : flagOf (evaluated.output host) "passed" = true)
      (given : evaluated.given = some (.str (textOf (fixed.output host) "improved_artifact"))) :
      HandedOff host [fixtures, criteria, evaluated, fixed, found]
        (itemsOf (found.output host) "gaps") (itemsOf (fixed.output host) "fixes")
        (textOf (fixed.output host) "improved_artifact")
  | repaired (found fixed failed refixed evaluated criteria fixtures : StageCall)
      (stages : [found, fixed, failed, refixed, evaluated, criteria, fixtures].map StageCall.stage =
        repairSequence)
      (met : ∀ call ∈ [fixtures, criteria, evaluated, refixed, failed, fixed, found], call.Met host)
      (resolved : itemsOf (refixed.output host) "unresolved" = [])
      (failing : flagOf (failed.output host) "passed" = false)
      (passed : flagOf (evaluated.output host) "passed" = true)
      (given : evaluated.given = some (.str (textOf (refixed.output host) "improved_artifact"))) :
      HandedOff host [fixtures, criteria, evaluated, refixed, failed, fixed, found]
        (itemsOf (found.output host) "gaps")
        (itemsOf (fixed.output host) "fixes" ++ itemsOf (refixed.output host) "fixes")
        (textOf (refixed.output host) "improved_artifact")

def IsHandoff (host : Host) (calls : List StageCall) (result : Dict) : Prop :=
  ∃ gaps fixes artifact, HandedOff host calls gaps fixes artifact ∧
    get? result "gap_findings" = some (.arr gaps) ∧ get? result "gap_fixes" = some (.arr fixes) ∧
    get? result "improved_artifact" = some (.str artifact)

/-- **A handoff is justified.** -/
theorem IsHandoff.justified {calls : List StageCall} {result : Dict}
    (handoff : IsHandoff host calls result) : Justified host calls result := by
  obtain ⟨gaps, fixes, artifact, handed, -, -, improved⟩ := handoff
  cases handed with
  | plain found fixed evaluated criteria fixtures stages met resolved passed given =>
    simp only [List.map_cons, List.map_nil, plainSequence, List.cons.injEq] at stages
    obtain ⟨one, two, three, four, five, -⟩ := stages
    refine ⟨met, ⟨fixed, ?_, resolved⟩, ⟨evaluated, ?_, passed, ?_, ?_⟩⟩
    · simp [lastOf, two, three, four, five]
    · simp [lastOf, three, four, five]
    · rw [given]; rfl
    · rw [given, improved]
  | repaired found fixed failed refixed evaluated criteria fixtures stages met resolved failing passed
      given =>
    simp only [List.map_cons, List.map_nil, repairSequence, List.cons.injEq] at stages
    obtain ⟨one, two, three, four, five, six, seven, -⟩ := stages
    refine ⟨met, ⟨refixed, ?_, resolved⟩, ⟨evaluated, ?_, passed, ?_, ?_⟩⟩
    · simp [lastOf, four, five, six, seven]
    · simp [lastOf, five, six, seven]
    · rw [given]; rfl
    · rw [given, improved]

/-! ### The protocol -/

/-- **The pipeline executes its stages in order**, and leaves the result files alone. Its state are the
stages, the last first. It raises nothing. -/
def pipelineProtocol (host : Host) : Protocol flowSignature (List StageCall) where
  Move
    | calls, .runStage stage payload, answer, calls' =>
      calls' = ⟨stage, payload, answer⟩ :: calls ∧ InOrder host calls'.reverse
    | _, .lastResult _, _, _ | _, .persistResult _ _, _, _ => False
    | calls, _, _, calls' => calls' = calls
  Rest _ := False

theorem stageOutcome_cases {host : Host} (stage : Stage) (answer : WorkerAnswer) :
    get? (stageOutcome host stage answer).1 "status" = some (.str "error") ∨
      stage.schema.accepts (.obj (stageOutcome host stage answer).1) = true := by
  have checked : ∀ fields, get? (validated host stage fields) "status" = some (.str "error") ∨
      stage.schema.accepts (.obj (validated host stage fields)) = true := by
    intro fields
    unfold validated
    split
    · rename_i accepted
      exact .inr accepted
    · exact .inl rfl
  cases answer with
  | late => exact .inl rfl
  | provider code detail internalDetail => exact .inl rfl
  | raised typeName message => exact .inl rfl
  | output value =>
    cases value with
    | obj fields =>
      rw [stageOutcome]
      split
      · generalize pruneOutput stage fields = pruned
        obtain ⟨repaired, removed⟩ := pruned
        dsimp only
        split
        · exact .inl rfl
        · exact checked _
      · exact checked _
    | _ => exact .inl rfl

variable {marker : Option String} {calls : List StageCall} {evidence : Evidence}

theorem follows_updateActiveProgress {stage : Stage} {progress : Progress}
    {Q : List StageCall → Unit → Prop} (quiet : Q calls ()) :
    Follows (pipelineProtocol host) calls (updateActiveProgress marker stage progress) Q := by
  cases marker with
  | none => exact quiet
  | some name =>
    rintro (there : Bool)
    refine ⟨calls, rfl, ?_⟩
    cases there with
    | false => exact quiet
    | true => exact fun current => ⟨calls, rfl, fun _ => ⟨calls, rfl, quiet⟩⟩

/-! ### Computations that gather evidence -/

section Staged

variable {κ α β : Type} {P : Protocol flowSignature κ} {k : κ}

theorem follows_bind {x : Staged α} {next : α → Staged β} {Q : κ → β × Evidence → Prop}
    (first : Follows P k (x evidence) fun k' given => Follows P k' (next given.1 given.2) Q) :
    Follows P k ((x >>= next) evidence) Q := Follows.bind first

theorem follows_lift {p : Flow α} {Q : κ → α × Evidence → Prop}
    (first : Follows P k p fun k' a => Q k' (a, evidence)) :
    Follows P k ((p : Staged α) evidence) Q :=
  Follows.bind first

end Staged

theorem follows_reports {stage : Stage} {reports : List Progress}
    {Q : List StageCall → PUnit × Evidence → Prop} (quiet : Q calls ((), evidence)) :
    Follows (pipelineProtocol host) calls
      ((reports.forM fun progress => (updateActiveProgress marker stage progress : Flow Unit) :
        Staged PUnit) evidence) Q := by
  induction reports with
  | nil => exact quiet
  | cons progress rest ih => exact follows_bind (follows_lift (follows_updateActiveProgress ih))

/-- **One stage**: it is executed in its turn, and gives an error or an output of its schema. -/
theorem follows_executeStage {stage : Stage} {payload : Dict}
    {Q : List StageCall → Dict × Evidence → Prop}
    (inOrder : ∀ answer, InOrder host (StageCall.mk stage payload answer :: calls).reverse)
    (rest : ∀ answer evidence, Q (⟨stage, payload, answer⟩ :: calls)
      ((StageCall.mk stage payload answer).output host, evidence)) :
    Follows (pipelineProtocol host) calls (executeStage host marker stage payload evidence) Q := by
  unfold executeStage
  refine follows_bind (follows_lift fun reports => ⟨calls, rfl, ?_⟩)
  refine follows_bind (follows_reports ?_)
  refine follows_bind (follows_lift fun answer => ⟨_, ⟨rfl, inOrder answer⟩, ?_⟩)
  show Follows _ _ ((if (stageOutcome host stage answer).2 ≠ [] then _ else _ : Staged Dict) evidence) Q
  split
  · exact rest answer _
  · exact rest answer _

/-- **One stage, and what follows it**: an error ends the run, and an output that meets its schema
goes on. -/
theorem follows_stage {α : Type} {stage : Stage} {payload : Dict} {early : Dict → α}
    {next : Dict → Staged α} {Q : List StageCall → α × Evidence → Prop}
    (inOrder : ∀ answer, InOrder host (StageCall.mk stage payload answer :: calls).reverse)
    (failed : ∀ calls' result evidence, get? result "status" = some (.str "error") →
      Q calls' (early result, evidence))
    (goes : ∀ answer evidence, (StageCall.mk stage payload answer).Met host →
      Follows (pipelineProtocol host) (⟨stage, payload, answer⟩ :: calls)
        (next ((StageCall.mk stage payload answer).output host) evidence) Q) :
    Follows (pipelineProtocol host) calls
      ((do let output ← executeStage host marker stage payload
           if isError output then return early output
           next output : Staged α) evidence) Q := by
  refine follows_bind (follows_executeStage inOrder fun answer evidence => ?_)
  show Follows _ _ ((if isError ((StageCall.mk stage payload answer).output host) then _ else _ :
    Staged α) evidence) Q
  rcases stageOutcome_cases stage answer with error | accepted
  · rw [if_pos (by rw [isError, StageCall.output, error]; rfl)]
    exact failed _ _ _ error
  · have clean : isError ((StageCall.mk stage payload answer).output host) = false :=
      isError_of_accepts accepted
    rw [if_neg (Bool.eq_false_iff.mp clean)]
    exact goes answer evidence accepted

/-! ### The pipeline -/

variable {common : Dict} {content : String}

theorem get?_append_cons_self {fields rest : Dict} {key : String} {value : Json}
    (once : get? rest key = none) : get? (fields ++ (key, value) :: rest) key = some value := by
  rw [get?_append, get?_cons, once, if_pos rfl]
  rfl

/-- What a run of the pipeline ends with: an improved result is that of a handoff. -/
def EndsWell (host : Host) (calls : List StageCall) (given : Dict × Evidence) : Prop :=
  get? given.1 "status" = some (.str "improved") → IsHandoff host calls given.1

theorem endsWell_of_status {status : String} {given : Dict × Evidence}
    (other : get? given.1 "status" = some (.str status)) (different : status ≠ "improved") :
    EndsWell host calls given := by
  intro improved
  rw [other, Option.some.injEq, Json.str.injEq] at improved
  exact absurd improved different

theorem follows_handoff {gapFindings gapFixes : List Json} {improvedArtifact : String}
    {evaluation : Dict}
    (criteriaInOrder : ∀ payload answer,
      InOrder host (StageCall.mk .successCriteria payload answer :: calls).reverse)
    (fixturesInOrder : ∀ criteria payload answer, criteria.stage = .successCriteria →
      InOrder host (StageCall.mk .fixtureDesign payload answer :: criteria :: calls).reverse)
    (handed : ∀ criteria fixtures : StageCall, criteria.stage = .successCriteria →
      fixtures.stage = .fixtureDesign → criteria.Met host → fixtures.Met host →
      HandedOff host (fixtures :: criteria :: calls) gapFindings gapFixes improvedArtifact) :
    Follows (pipelineProtocol host) calls
      (runHandoffStages host marker common content gapFindings gapFixes improvedArtifact evaluation
        evidence) (EndsWell host) := by
  unfold runHandoffStages
  refine follows_stage (criteriaInOrder _) (fun _ _ _ error => endsWell_of_status error (by decide)) ?_
  intro criteria evidence metCriteria
  refine follows_stage (fun answer => fixturesInOrder _ _ answer rfl)
    (fun _ _ _ error => endsWell_of_status error (by decide)) ?_
  intro fixtures evidence metFixtures
  exact fun _ => ⟨gapFindings, gapFixes, improvedArtifact,
    handed _ _ rfl rfl metCriteria metFixtures, rfl, rfl, rfl⟩

theorem inOrder_plain {calls : List StageCall}
    (part : calls.map StageCall.stage <+: plainSequence) : InOrder host calls := by
  refine ⟨.inl part, ?_⟩
  rintro found fixed evaluated refixed rest rfl fixing
  obtain ⟨more, same⟩ := part
  simp only [List.map_cons, plainSequence, List.cons_append, List.cons.injEq] at same
  rw [fixing] at same
  exact absurd same.2.2.2.1 (by decide)

theorem inOrder_repair {found fixed failed : StageCall} {rest : List StageCall}
    (failing : flagOf (failed.output host) "passed" = false)
    (part : (found :: fixed :: failed :: rest).map StageCall.stage <+: repairSequence) :
    InOrder host (found :: fixed :: failed :: rest) := by
  refine ⟨.inr part, ?_⟩
  rintro _ _ _ refixed _ same -
  cases same
  exact failing

/-- What a repair cycle hands on: a passed one has verified the artifact that it fixed. -/
def RepairsWell (host : Host) (found fixed failed : StageCall) (calls : List StageCall) :
    Repaired × Evidence → Prop
  | (.early result, _) => get? result "status" ≠ some (.str "improved")
  | (.passed gapFixes improvedArtifact _, _) => ∃ refixed evaluated : StageCall,
      calls = [evaluated, refixed, failed, fixed, found] ∧ refixed.stage = .gapFixing ∧
      evaluated.stage = .evaluation ∧ refixed.Met host ∧ evaluated.Met host ∧
      itemsOf (refixed.output host) "unresolved" = [] ∧
      flagOf (evaluated.output host) "passed" = true ∧
      evaluated.given = some (.str (textOf (refixed.output host) "improved_artifact")) ∧
      gapFixes = itemsOf (fixed.output host) "fixes" ++ itemsOf (refixed.output host) "fixes" ∧
      improvedArtifact = textOf (refixed.output host) "improved_artifact"

theorem ne_improved {result : Dict} {status : String}
    (other : get? result "status" = some (.str status)) (different : status ≠ "improved") :
    get? result "status" ≠ some (.str "improved") := by
  rw [other, Ne, Option.some.injEq, Json.str.injEq]
  exact different

section Repair

variable {found fixed failed : StageCall} {gapFindings : List Json}
  (stages : [found, fixed, failed].map StageCall.stage = [.gapFinding, .gapFixing, .evaluation])
  (failing : flagOf (failed.output host) "passed" = false)

include stages failing

/-- **The second half of a repair cycle.** -/
theorem follows_verifyRepair {refixed : StageCall} {beforeRefix : String} {contract : List Json}
    {evaluated : Dict} (kind : refixed.stage = .gapFixing) (met : refixed.Met host)
    (resolved : itemsOf (refixed.output host) "unresolved" = []) :
    Follows (pipelineProtocol host) [refixed, failed, fixed, found]
      (verifyRepair host marker common content gapFindings (itemsOf (fixed.output host) "fixes")
        (refixed.output host) beforeRefix contract evaluated evidence)
      (RepairsWell host found fixed failed) := by
  simp only [List.map_cons, List.map_nil, List.cons.injEq] at stages
  obtain ⟨one, two, three, -⟩ := stages
  unfold verifyRepair
  split
  · exact ne_improved rfl (by decide)
  · refine follows_stage (fun answer => inOrder_repair failing ?_)
      (fun _ _ _ error => ne_improved error (by decide)) fun answer evidence metLast => ?_
    · simp [one, two, three, kind, repairSequence]
    · show Follows _ _ ((if flagOf _ "passed" then _ else _ : Staged Repaired) _) _
      split
      · rename_i passed
        exact ⟨refixed, _, rfl, kind, rfl, met, metLast, resolved, passed,
          get?_append_cons_self rfl, rfl, rfl⟩
      · exact ne_improved rfl (by decide)

/-- **The repair cycle.** -/
theorem follows_repairCycle {improvedArtifact : String} :
    Follows (pipelineProtocol host) [failed, fixed, found]
      (runRepairCycle host marker common content gapFindings (itemsOf (fixed.output host) "fixes")
        improvedArtifact (failed.output host) evidence)
      (RepairsWell host found fixed failed) := by
  have kinds := stages
  simp only [List.map_cons, List.map_nil, List.cons.injEq] at kinds
  obtain ⟨one, two, three, -⟩ := kinds
  unfold runRepairCycle
  refine follows_stage (fun answer => inOrder_repair failing ?_)
    (fun _ _ _ error => ne_improved error (by decide)) fun answer evidence met => ?_
  · simp [one, two, three, repairSequence]
  · show Follows _ _ ((if itemsOf _ "unresolved" ≠ [] then _ else _ : Staged Repaired) _) _
    split
    · exact ne_improved rfl (by decide)
    · rename_i resolved
      exact follows_verifyRepair stages failing rfl met (not_not.mp resolved)

end Repair

theorem follows_evaluated {found fixed evaluated : StageCall}
    (stages : [found, fixed, evaluated].map StageCall.stage = [.gapFinding, .gapFixing, .evaluation])
    (met : ∀ call ∈ [evaluated, fixed, found], call.Met host)
    (resolved : itemsOf (fixed.output host) "unresolved" = [])
    (given : evaluated.given = some (.str (textOf (fixed.output host) "improved_artifact"))) :
    Follows (pipelineProtocol host) [evaluated, fixed, found]
      (runEvaluated host marker common content (itemsOf (found.output host) "gaps")
        (itemsOf (fixed.output host) "fixes") (textOf (fixed.output host) "improved_artifact")
        (evaluated.output host) evidence) (EndsWell host) := by
  have kinds := stages
  simp only [List.map_cons, List.map_nil, List.cons.injEq] at kinds
  obtain ⟨one, two, three, -⟩ := kinds
  unfold runEvaluated
  cases passed : flagOf (evaluated.output host) "passed" with
  | true =>
    refine follows_handoff (fun payload answer => inOrder_plain ?_)
      (fun criteria payload answer kind => inOrder_plain ?_)
      fun criteria fixtures kind kind' metCriteria metFixtures => ?_
    · simp [one, two, three, plainSequence]
    · simp [one, two, three, kind, plainSequence]
    · refine .plain found fixed evaluated criteria fixtures ?_ ?_ resolved passed given
      · simp [one, two, three, kind, kind', plainSequence]
      · exact List.forall_mem_cons.mpr ⟨metFixtures, List.forall_mem_cons.mpr ⟨metCriteria, met⟩⟩
  | false =>
    rw [if_neg (by decide)]
    refine follows_bind ((follows_repairCycle stages passed).mono ?_)
    rintro calls' ⟨early | ⟨gapFixes, artifact, last⟩, evidence⟩ repaired
    · exact fun improved => absurd improved repaired
    · obtain ⟨refixed, second, rfl, four, five, metFixed, metLast, settled, verified, shown, rfl, rfl⟩ :=
        repaired
      refine follows_handoff (fun payload answer => inOrder_repair passed ?_)
        (fun criteria payload answer kind => inOrder_repair passed ?_)
        fun criteria fixtures kind kind' metCriteria metFixtures => ?_
      · simp [one, two, three, four, five, repairSequence]
      · simp [one, two, three, four, five, kind, repairSequence]
      · refine .repaired found fixed evaluated refixed second criteria fixtures ?_ ?_ settled passed
          verified shown
        · simp [one, two, three, four, five, kind, kind', repairSequence]
        · simp only [List.forall_mem_cons] at met ⊢
          exact ⟨metFixtures, metCriteria, metLast, metFixed, met⟩

/-- **The pipeline** executes its stages in order, and an improved result of it is that of a
handoff. -/
theorem follows_pipeline : Follows (pipelineProtocol host) []
    (runStagePipeline host marker common content evidence) (EndsWell host) := by
  unfold runStagePipeline
  refine follows_stage (fun answer => inOrder_plain ?_)
    (fun _ _ _ error => endsWell_of_status error (by decide)) fun found evidence metFound => ?_
  · simp [plainSequence]
  refine follows_stage (fun answer => inOrder_plain ?_)
    (fun _ _ _ error => endsWell_of_status error (by decide)) fun fixed evidence metFixed => ?_
  · simp [plainSequence]
  show Follows _ _ ((if itemsOf _ "unresolved" ≠ [] then _ else _ : Staged Dict) _) _
  split
  · exact endsWell_of_status rfl (by decide)
  · rename_i resolved
    refine follows_stage (fun answer => inOrder_plain ?_)
      (fun _ _ _ error => endsWell_of_status error (by decide)) fun evaluated evidence met => ?_
    · simp [plainSequence]
    · refine follows_evaluated rfl ?_ (not_not.mp resolved) ?_
      · simp only [List.forall_mem_cons]
        exact ⟨met, metFixed, metFound, fun _ among => nomatch among⟩
      · exact get?_append_cons_self rfl

end Audisor.ArtifactFlow
