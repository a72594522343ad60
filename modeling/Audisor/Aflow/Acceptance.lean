/-
**What `evaluate_result` accepts, and what it then returns.**

* `Admissible` — the condition on the documents; **`checkInputs_ok`** — it is exactly what is checked.
* `Evaluated` — one evaluation, step by step; **`evaluateResult_ok`** — every evaluation that returns
  is one.
* `Rated` — the entry of a requirement; **`buildTrace_ok`** — a trace has one for each requirement.
* **`judge_proven`** — the decision is `proven` when the drift does not block, no prohibited outcome is
  present and every entry is proven.
-/

import Audisor.Aflow.FinalDecision

namespace Audisor.Aflow

variable {sha : Sha256} {input : EvaluationInput}

/-! ### The checks on the input -/

theorem checkEvidence_ok {seen : List Identifier} {items : List Evidence} :
    checkEvidence sha seen items = .ok () ↔
      (∀ item ∈ items, item.validate sha = .ok ()) ∧ (items.map Evidence.evidenceId).Nodup ∧
        ∀ item ∈ items, item.evidenceId ∉ seen := by
  induction items generalizing seen with
  | nil => simp [checkEvidence]
  | cons item rest ih =>
    rw [checkEvidence, then_ok, then_ok, ih, ensure_ok]
    simp only [decide_eq_true_eq, List.mem_append, List.mem_singleton, List.forall_mem_cons,
      List.map_cons, List.nodup_cons, List.mem_map]
    grind

/-- **The documents that can be evaluated**: valid, sealed, bound to each other by exact references,
and naming nothing that is not locked. -/
structure Admissible (sha : Sha256) (input : EvaluationInput) : Prop where
  lockedPlan : input.lockedPlan.validate sha = .ok ()
  successDefinition : input.successDefinition.validate sha = .ok ()
  plan : input.plan.validate = .ok ()
  buildResult : input.buildResult.validate sha = .ok ()
  lockedBaseline : input.lockedBaseline.validate sha = .ok ()
  postBuildBaseline : input.postBuildBaseline.validate sha = .ok ()
  evidence : ∀ item ∈ input.evidence, item.validate sha = .ok ()
  evidenceIds : (input.evidence.map Evidence.evidenceId).Nodup
  bindsLock : input.buildResult.lockedPlanReference = input.lockedPlan.ref
  bindsPlan : input.lockedPlan.planReference = input.plan.ref sha
  bindsSuccess : input.lockedPlan.successDefinitionReference = input.successDefinition.ref sha
  bindsBaseline : input.lockedPlan.baselineReference = input.lockedBaseline.ref
  bindsPostBuild : input.buildResult.postBuildBaselineReference = input.postBuildBaseline.ref
  requirements : ∀ output ∈ input.buildResult.outputs, ∀ id ∈ output.requirementIds.val,
    id ∈ input.successDefinition.requirementIds
  validations : ∀ result ∈ input.buildResult.validationResults,
    result.validationId ∈ input.plan.validationIds
  outcomes : ∀ id ∈ input.buildResult.checkedOutcomes, id ∈ input.successDefinition.outcomeIds

/-- **The checks pass exactly on the admissible documents.** -/
theorem checkInputs_ok : input.checkInputs sha = .ok () ↔ Admissible sha input := by
  simp only [EvaluationInput.checkInputs, EvaluationInput.checkDocuments,
    EvaluationInput.checkBindings, EvaluationInput.checkNames, then_ok, ensure_ok, checkEvidence_ok,
    decide_eq_true_eq, List.all_eq_true, List.not_mem_nil, not_false_eq_true, implies_true, and_true]
  constructor
  · rintro ⟨⟨locked, success, plan, build, baseline, post, items, distinct⟩,
      ⟨lock, bound, defined, before, after⟩, requirements, validations, outcomes⟩
    exact ⟨locked, success, plan, build, baseline, post, items, distinct, lock, bound, defined, before,
      after, requirements, validations, outcomes⟩
  · intro admissible
    exact ⟨⟨admissible.lockedPlan, admissible.successDefinition, admissible.plan,
      admissible.buildResult, admissible.lockedBaseline, admissible.postBuildBaseline,
      admissible.evidence, admissible.evidenceIds⟩, ⟨admissible.bindsLock, admissible.bindsPlan,
      admissible.bindsSuccess, admissible.bindsBaseline, admissible.bindsPostBuild⟩,
      admissible.requirements, admissible.validations, admissible.outcomes⟩

/-! ### Drift -/

/-- The drift between the baselines invalidates the analysis. -/
def EvaluationInput.driftBlocks (input : EvaluationInput) : Bool :=
  (driftVerdict (baselineChanges input.lockedBaseline input.postBuildBaseline)).blocks

/-- What `compare_baselines` reports of the baselines. -/
def EvaluationInput.driftEvent (input : EvaluationInput) : DriftEvent :=
  { driftEventId := "drift." ++ input.postBuildBaseline.baselineId.val
    baselineReference := input.lockedBaseline.ref
    currentBaseline := input.postBuildBaseline
    changes := baselineChanges input.lockedBaseline input.postBuildBaseline
    observedAt := input.observedAt }

theorem drift_ok (admissible : Admissible sha input) {drift : DriftDecision} :
    input.drift sha = .ok drift ↔ input.driftEvent.validate = .ok () ∧
      drift = classify sha input.driftEvent
        (affectedRequirements input.successDefinition input.driftEvent.changes) := by
  have compared : compareBaselines sha input.lockedBaseline input.postBuildBaseline
      input.observedAt = .ok input.driftEvent := by
    rw [compareBaselines, admissible.lockedBaseline, admissible.postBuildBaseline]
    rfl
  rw [EvaluationInput.drift, compared]
  refine then_ok.trans (and_congr_right fun valid => ?_)
  rw [classify_validate sha valid]
  exact ⟨fun same => (Except.ok.inj same).symm, fun same => congrArg Except.ok same.symm⟩

/-! ### The entries of the trace -/

section

variable {given : TraceInput} {requirement : Requirement} {entry : TraceEntry}

/-- What the trusted evidence of a requirement states of a dimension, and the rating from it. -/
def TraceInput.Passes (given : TraceInput) (requirement : Requirement)
    (dimension : QualityDimension) : Prop :=
  ∃ stated, explicitQuality (given.trusted requirement) dimension = .ok stated ∧
    given.qualityStatus requirement dimension stated = .pass

/-- **When a requirement is proven.** -/
structure TraceInput.Proves (given : TraceInput) (requirement : Requirement) : Prop where
  uncontradicted : given.contradicted requirement = false
  base : given.baseProven requirement = true
  passes : ∀ dimension ∈ requirement.qualityDimensions.val, given.Passes requirement dimension

theorem qualityResult_ok {dimension : QualityDimension} {result : QualityResult} :
    given.qualityResult requirement dimension = .ok result ↔
      ∃ stated, explicitQuality (given.trusted requirement) dimension = .ok stated ∧
        result = {
          dimension, status := given.qualityStatus requirement dimension stated
          reason := qualityReason (given.qualityStatus requirement dimension stated)
          evidenceReferences := given.citedRefs requirement } := by
  rw [TraceInput.qualityResult, bind_ok]
  exact exists_congr fun stated => and_congr_right fun _ =>
    ⟨fun same => (Except.ok.inj same).symm, fun same => congrArg Except.ok same.symm⟩

theorem traceStatus_proven {required : List QualityStatus} :
    given.traceStatus requirement required = .proven ↔
      given.contradicted requirement = false ∧ given.baseProven requirement = true ∧
        ∀ status ∈ required, status = .pass := by
  rw [TraceInput.traceStatus]
  split
  · rename_i against
    refine iff_of_false (by simp) fun ⟨clear, _, passes⟩ => ?_
    rw [clear, Bool.false_or, decide_eq_true_eq] at against
    cases passes _ against
  · rename_i clear
    simp only [Bool.or_eq_true, decide_eq_true_eq, not_or, Bool.not_eq_true] at clear
    split
    · rename_i proven
      simp only [Bool.and_eq_true, List.all_eq_true, decide_eq_true_eq] at proven
      exact iff_of_true rfl ⟨clear.1, proven⟩
    · rename_i unproven
      simp only [Bool.and_eq_true, List.all_eq_true, decide_eq_true_eq] at unproven
      refine iff_of_false ?_ fun ⟨_, proven⟩ => unproven proven
      split <;> simp

/-- **The entry of a requirement.** -/
theorem traceEntry_ok (traced : given.traceEntry requirement = .ok entry) :
    entry.requirementId = requirement.requirementId ∧
      entry.evidenceReferences = given.citedRefs requirement ∧
        (entry.status = .proven ↔ given.Proves requirement) := by
  simp only [TraceInput.traceEntry, bind_ok, pure, Except.pure, Except.ok.injEq] at traced
  obtain ⟨results, rated, rfl⟩ := traced
  refine ⟨rfl, rfl, ?_⟩
  obtain ⟨forth, back⟩ := mapM_ok rated
  have passes : (∀ status ∈ TraceInput.requiredStatuses requirement results, status = .pass) ↔
      ∀ dimension ∈ requirement.qualityDimensions.val, given.Passes requirement dimension := by
    constructor
    · intro all dimension applicable
      obtain ⟨result, listed, same⟩ := forth dimension (mem_dimensions dimension)
      obtain ⟨stated, explicit, rfl⟩ := qualityResult_ok.mp same
      refine ⟨stated, explicit, all _ (List.mem_map.mpr ⟨_, List.mem_filter.mpr ⟨listed, ?_⟩, rfl⟩)⟩
      simpa using applicable
    · intro all status required
      obtain ⟨result, listed, rfl⟩ := List.mem_map.mp required
      obtain ⟨member, applicable⟩ := List.mem_filter.mp listed
      obtain ⟨dimension, _, same⟩ := back result member
      obtain ⟨stated, explicit, rfl⟩ := qualityResult_ok.mp same
      obtain ⟨other, explicit', pass⟩ := all dimension (by simpa using applicable)
      rw [explicit, Except.ok.injEq] at explicit'
      rw [explicit', pass]
  refine traceStatus_proven.trans ?_
  rw [passes]
  exact ⟨fun ⟨clear, base, all⟩ => ⟨clear, base, all⟩,
    fun proves => ⟨proves.uncontradicted, proves.base, proves.passes⟩⟩

end

/-- **A trace has an entry for every requirement, and no other.** -/
theorem buildTrace_ok {given : TraceInput} {built : RequirementTrace}
    (traced : given.buildTrace sha = .ok built) :
    (∀ requirement ∈ given.successDefinition.requirements.val, ∃ entry ∈ built.entries,
        given.traceEntry requirement = .ok entry) ∧
      ∀ entry ∈ built.entries, ∃ requirement ∈ given.successDefinition.requirements.val,
        given.traceEntry requirement = .ok entry := by
  simp only [TraceInput.buildTrace, bind_ok, pure, Except.pure, Except.ok.injEq] at traced
  obtain ⟨entries, walked, rfl⟩ := traced
  exact mapM_ok walked

/-! ### The decision -/

section

variable {drift : DriftDecision} {built trace : RequirementTrace}

theorem prohibitedPresent_false {build : BuildResult} :
    build.prohibitedOutcomesPresent = [] ↔ prohibitedPresent build = false := by
  simp [BuildResult.prohibitedOutcomesPresent, prohibitedPresent, List.filter_eq_nil_iff]

theorem entryFailures_nil {blocking : List TraceEntry} :
    entryFailures blocking = [] ↔ ∀ entry ∈ blocking, entry.status = .proven := by
  simp [entryFailures, List.filter_eq_nil_iff]

theorem judge_trace (clear : drift.blocking = false) :
    (judge sha input drift built).trace = built := by
  have settled : (settle sha input drift built).trace = built := by
    rw [settle, if_neg (by simp [clear])]
    split_ifs <;> rfl
  rw [judge]
  split <;> exact settled

theorem judge_invalidates (blocks : drift.blocking = true) {entry : TraceEntry}
    (member : entry ∈ (judge sha input drift built).trace.entries) :
    entry.status = .invalidatedByDrift := by
  have settled : (settle sha input drift built).trace.entries =
      built.entries.map TraceEntry.invalidate := by
    rw [settle, if_pos blocks]
    rfl
  have same : (judge sha input drift built).trace.entries =
      built.entries.map TraceEntry.invalidate := by
    rw [judge]
    split <;> exact settled
  rw [same] at member
  obtain ⟨original, _, rfl⟩ := List.mem_map.mp member
  rfl

/-- **When the decision is proven.** -/
theorem judge_proven :
    (judge sha input drift built).decision = .proven ↔
      drift.blocking = false ∧ prohibitedPresent input.buildResult = false ∧
        ∀ entry ∈ built.entries, entry.status = .proven := by
  have settled : (judge sha input drift built).decision = (settle sha input drift built).decision := by
    rw [judge]
    split <;> rfl
  rw [settled, settle]
  split
  · rename_i blocks
    exact iff_of_false (by simp) fun ⟨clear, _⟩ => by simp [clear] at blocks
  rename_i clear
  split
  · rename_i against
    refine iff_of_false (by simp) fun ⟨_, absent, all⟩ => ?_
    simp only [prohibitedPresent_false.mpr absent, List.isEmpty_nil, Bool.not_true, Bool.false_or,
      List.any_eq_true, decide_eq_true_eq] at against
    obtain ⟨entry, member, contradicted⟩ := against
    rw [all entry (List.mem_filter.mp member).1] at contradicted
    cases contradicted
  rename_i uncontradicted
  simp only [Bool.or_eq_true, Bool.not_eq_true', not_or, Bool.not_eq_false,
    List.isEmpty_iff] at uncontradicted
  split
  · rename_i proven
    simp only [Bool.and_eq_true, List.all_eq_true, decide_eq_true_eq] at proven
    exact iff_of_true rfl ⟨by simpa using clear, prohibitedPresent_false.mp uncontradicted.1, proven.2⟩
  · rename_i unproven
    refine iff_of_false (by split <;> simp) fun ⟨_, _, all⟩ => unproven ?_
    simp only [Bool.and_eq_true, List.isEmpty_iff, entryFailures_nil, List.all_eq_true,
      decide_eq_true_eq]
    exact ⟨fun entry member => all entry (List.mem_filter.mp member).1, all⟩

end

/-! ### The whole evaluation -/

/-- **One evaluation**, step by step. -/
structure Evaluated (sha : Sha256) (input : EvaluationInput) (trace : RequirementTrace)
    (evaluation : FinalEvaluation) where
  drift : DriftDecision
  built : RequirementTrace
  qualitySummary : List QualityResult
  admissible : Admissible sha input
  drifted : input.drift sha = .ok drift
  traced : input.buildTrace sha = .ok built
  judged : trace = (judge sha input drift built).trace
  traceValid : trace.validate sha = .ok ()
  summarised : aggregateQuality (trace.entries.flatMap TraceEntry.qualityResults) = .ok qualitySummary
  concluded : evaluation =
    (input.conclude (judge sha input drift built) qualitySummary).seal sha
  evaluationValid : evaluation.validate sha = .ok ()

/-- **Every evaluation that returns goes through all of its steps**, and the other way round. -/
theorem evaluateResult_ok {trace : RequirementTrace} {evaluation : FinalEvaluation} :
    evaluateResult sha input = .ok (trace, evaluation) ↔
      Nonempty (Evaluated sha input trace evaluation) := by
  rw [evaluateResult, then_ok, checkInputs_ok, bind_ok]
  constructor
  · rintro ⟨admissible, drift, drifted, returned⟩
    obtain ⟨built, traced, returned⟩ := bind_ok.mp returned
    obtain ⟨traceValid, returned⟩ := then_ok.mp returned
    obtain ⟨qualitySummary, summarised, returned⟩ := bind_ok.mp returned
    obtain ⟨evaluationValid, returned⟩ := then_ok.mp returned
    cases returned
    exact ⟨drift, built, qualitySummary, admissible, drifted, traced, rfl, traceValid, summarised, rfl,
      evaluationValid⟩
  · rintro ⟨run⟩
    obtain ⟨drift, built, qualitySummary, admissible, drifted, traced, rfl, traceValid, summarised,
      rfl, evaluationValid⟩ := run
    refine ⟨admissible, drift, drifted, bind_ok.mpr ⟨built, traced, ?_⟩⟩
    refine then_ok.mpr ⟨traceValid, bind_ok.mpr ⟨qualitySummary, summarised, ?_⟩⟩
    exact then_ok.mpr ⟨evaluationValid, rfl⟩

section

variable {trace : RequirementTrace} {evaluation : FinalEvaluation}
  (run : Evaluated sha input trace evaluation)

include run

theorem Evaluated.driftBlocks : run.drift.blocking = input.driftBlocks := by
  obtain ⟨_, classified⟩ := (drift_ok run.admissible).mp run.drifted
  rw [classified]
  rfl

/-- **The entries that are proven**: those of the requirements that are, unless the drift blocks. -/
theorem Evaluated.proven_entry {entry : TraceEntry} :
    entry ∈ trace.entries ∧ entry.status = .proven ↔
      input.driftBlocks = false ∧ ∃ requirement ∈ input.successDefinition.requirements.val,
        input.traceEntry requirement = .ok entry ∧ input.Proves requirement := by
  rw [run.judged, ← run.driftBlocks]
  cases blocks : run.drift.blocking with
  | true =>
    refine iff_of_false (fun ⟨member, proven⟩ => ?_) (by simp)
    rw [judge_invalidates blocks member] at proven
    cases proven
  | false =>
    rw [judge_trace blocks]
    obtain ⟨forth, back⟩ := buildTrace_ok run.traced
    constructor
    · rintro ⟨member, proven⟩
      obtain ⟨requirement, required, traced⟩ := back entry member
      exact ⟨rfl, requirement, required, traced, (traceEntry_ok traced).2.2.mp proven⟩
    · rintro ⟨_, requirement, required, traced, proves⟩
      obtain ⟨other, member, same⟩ := forth requirement required
      rw [traced, Except.ok.injEq] at same
      exact ⟨same ▸ member, (traceEntry_ok traced).2.2.mpr proves⟩

/-- **The decision is proven** when the drift does not block, no prohibited outcome is present, and
every requirement is proven. -/
theorem Evaluated.decision_proven : evaluation.decision = .proven ↔
    input.driftBlocks = false ∧ prohibitedPresent input.buildResult = false ∧
      ∀ requirement ∈ input.successDefinition.requirements.val, input.Proves requirement := by
  have decided : evaluation.decision = (judge sha input run.drift run.built).decision :=
    congrArg (fun concluded : FinalEvaluation => concluded.decision) run.concluded
  rw [decided, judge_proven, run.driftBlocks]
  refine and_congr_right fun _ => and_congr_right fun _ => ?_
  obtain ⟨forth, back⟩ := buildTrace_ok run.traced
  constructor
  · intro all requirement required
    obtain ⟨entry, member, traced⟩ := forth requirement required
    exact (traceEntry_ok traced).2.2.mp (all entry member)
  · intro all entry member
    obtain ⟨requirement, required, traced⟩ := back entry member
    exact (traceEntry_ok traced).2.2.mpr (all requirement required)

end

end Audisor.Aflow
