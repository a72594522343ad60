/-
**When an evaluation returns.**

* `Fits` — the ids that `evaluate_result` composes are short enough and distinct, and every rating that
  the evidence states is a known word.
* **`evaluateResult_returns`** — on admissible documents that fit, `evaluate_result` does not raise: the
  trace and the evaluation that it builds satisfy their own schemas and invariants.
-/

import Audisor.Aflow.Acceptance

namespace Audisor.Aflow

variable {sha : Sha256} {input : EvaluationInput}

/-! ### Ratings -/

section

variable {given : TraceInput} {requirement : Requirement}

theorem implicitStatus_rated (dimension : QualityDimension) :
    (given.implicitStatus requirement dimension).rank.isSome = true := by
  cases dimension <;> simp only [TraceInput.implicitStatus] <;> (try split) <;> rfl

theorem qualityStatus_rated {dimension : QualityDimension} {stated : Option QualityStatus}
    (known : ∀ status, stated = some status → status.rank.isSome = true) :
    (given.qualityStatus requirement dimension stated).rank.isSome = true := by
  rw [TraceInput.qualityStatus]
  split_ifs
  · rfl
  · cases stated with
    | none => exact implicitStatus_rated dimension
    | some status => exact known status rfl
  · rfl

/-- The trusted evidence of a requirement states known ratings only. -/
def TraceInput.StatesKnown (given : TraceInput) (requirement : Requirement) : Prop :=
  ∀ dimension, ∃ stated, explicitQuality (given.trusted requirement) dimension = .ok stated ∧
    ∀ status, stated = some status → status.rank.isSome = true

theorem explicitQuality_silent
    (silent : ∀ item ∈ given.evidence, ∀ dimension, statedQuality dimension item = none)
    (dimension : QualityDimension) :
    explicitQuality (given.trusted requirement) dimension = .ok none := by
  have unrated : (given.trusted requirement).filterMap (statedQuality dimension) = [] := by
    rw [List.filterMap_eq_nil_iff]
    intro item trusted
    obtain ⟨ref, _, found⟩ := List.mem_filterMap.mp (List.mem_filter.mp trusted).1
    exact silent item (resolve_some found).1 dimension
  rw [explicitQuality, unrated]
  rfl

theorem statesKnown_of_silent
    (silent : ∀ item ∈ given.evidence, ∀ dimension, statedQuality dimension item = none) :
    given.StatesKnown requirement :=
  fun dimension => ⟨none, explicitQuality_silent silent dimension, by simp⟩

theorem traceEntry_returns (known : given.StatesKnown requirement) :
    ∃ entry, given.traceEntry requirement = .ok entry := by
  obtain ⟨results, rated⟩ : ∃ results, dimensions.mapM (given.qualityResult requirement) =
      .ok results := mapM_returns fun dimension _ => by
    obtain ⟨stated, explicit, _⟩ := known dimension
    exact ⟨_, qualityResult_ok.mpr ⟨stated, explicit, rfl⟩⟩
  exact ⟨_, by rw [TraceInput.traceEntry, rated]; rfl⟩

theorem traceEntry_results {entry : TraceEntry}
    (traced : given.traceEntry requirement = .ok entry) :
    entry.qualityResults.map QualityResult.dimension = dimensions ∧
      ∀ result ∈ entry.qualityResults, ∃ stated,
        explicitQuality (given.trusted requirement) result.dimension = .ok stated ∧
          result.status = given.qualityStatus requirement result.dimension stated := by
  simp only [TraceInput.traceEntry, bind_ok, pure, Except.pure, Except.ok.injEq] at traced
  obtain ⟨results, rated, rfl⟩ := traced
  constructor
  · refine (mapM_map id QualityResult.dimension rated fun dimension result same => ?_).trans (List.map_id _)
    obtain ⟨_, _, rfl⟩ := qualityResult_ok.mp same
    rfl
  · intro result listed
    obtain ⟨dimension, _, same⟩ := (mapM_ok rated).2 result listed
    obtain ⟨stated, explicit, rfl⟩ := qualityResult_ok.mp same
    exact ⟨stated, explicit, rfl⟩

theorem traceEntry_passes {entry : TraceEntry} (traced : given.traceEntry requirement = .ok entry)
    (proves : given.Proves requirement) :
    ∀ result ∈ entry.qualityResults, result.status = .pass ∨ result.status = .notApplicable := by
  intro result listed
  obtain ⟨stated, explicit, same⟩ := (traceEntry_results traced).2 result listed
  rw [same]
  by_cases applicable : result.dimension ∈ requirement.qualityDimensions.val
  · obtain ⟨other, explicit', pass⟩ := proves.passes result.dimension applicable
    rw [explicit, Except.ok.injEq] at explicit'
    exact Or.inl (explicit' ▸ pass)
  · exact Or.inr (by rw [TraceInput.qualityStatus, if_neg applicable])

end

/-- **The composed ids and the stated ratings are in order.** -/
structure Fits (input : EvaluationInput) : Prop where
  drift : isIdentifier ("drift." ++ input.postBuildBaseline.baselineId.val) = true
  trace : isIdentifier ("trace." ++ input.buildResult.buildResultId.val) = true
  evaluation : isIdentifier ("evaluation." ++ input.buildResult.buildResultId.val) = true
  failures : ∀ id ∈ input.successDefinition.requirementIds, isIdentifier ("failure." ++ id.val) = true
  apart : ∀ id ∈ input.successDefinition.requirementIds, id.val ≠ "relevant-drift"
  rated : ∀ requirement ∈ input.successDefinition.requirements.val, input.StatesKnown requirement

/-! ### The trace -/

/-- Rows of a trace: an entry for each requirement, with a known rating of each dimension. -/
structure Rows (success : SuccessDefinition) (entries : List TraceEntry) : Prop where
  requirements : entries.map TraceEntry.requirementId = success.requirementIds
  dimensions : ∀ entry ∈ entries, entry.qualityResults.map QualityResult.dimension = dimensions
  rated : ∀ entry ∈ entries, ∀ result ∈ entry.qualityResults, result.rated = true

theorem Rows.invalidate {success : SuccessDefinition} {entries : List TraceEntry}
    (rows : Rows success entries) : Rows success (entries.map TraceEntry.invalidate) := by
  refine ⟨?_, ?_, ?_⟩
  · rw [List.map_map, ← rows.requirements]
    rfl
  · intro entry member
    obtain ⟨original, listed, rfl⟩ := List.mem_map.mp member
    exact rows.dimensions original listed
  · intro entry member
    obtain ⟨original, listed, rfl⟩ := List.mem_map.mp member
    exact rows.rated original listed

theorem buildTrace_rows (fits : Fits input) {built : RequirementTrace}
    (traced : input.buildTrace sha = .ok built) : Rows input.successDefinition built.entries := by
  obtain ⟨_, back⟩ := buildTrace_ok traced
  refine ⟨?_, ?_, ?_⟩
  · simp only [TraceInput.buildTrace, bind_ok, pure, Except.pure, Except.ok.injEq] at traced
    obtain ⟨entries, walked, rfl⟩ := traced
    exact mapM_map Requirement.requirementId TraceEntry.requirementId walked
      fun requirement entry same => (traceEntry_ok same).1
  · intro entry member
    obtain ⟨requirement, _, same⟩ := back entry member
    exact (traceEntry_results same).1
  · intro entry member result listed
    obtain ⟨requirement, required, same⟩ := back entry member
    obtain ⟨stated, explicit, status⟩ := (traceEntry_results same).2 result listed
    obtain ⟨other, explicit', known⟩ := fits.rated requirement required result.dimension
    rw [explicit, Except.ok.injEq] at explicit'
    rw [QualityResult.rated, status]
    exact qualityStatus_rated (explicit' ▸ known)

theorem RequirementTrace.validate_ok {trace : RequirementTrace} {success : SuccessDefinition}
    (rows : Rows success trace.entries) (named : isIdentifier trace.traceId = true)
    (some : success.requirementIds ≠ []) (distinct : success.requirementIds.Nodup)
    (verified : verifyHash sha trace.contentHash trace.toJson = true) :
    trace.validate sha = .ok () := by
  have admitted : trace.admitted = true := by
    have unempty : trace.entries ≠ [] := by
      rintro empty
      have none := rows.requirements
      rw [empty] at none
      exact some none.symm
    simp only [RequirementTrace.admitted, named, Bool.true_and, Bool.and_eq_true,
      Bool.not_eq_true', List.all_eq_true, List.isEmpty_eq_false_iff]
    refine ⟨unempty, fun entry member => ⟨fun empty => ?_, rows.rated entry member⟩⟩
    have none := rows.dimensions entry member
    rw [empty] at none
    cases none
  rw [RequirementTrace.validate, if_pos admitted]
  refine then_ok.mpr ⟨rfl, then_ok.mpr ⟨?_, then_ok.mpr ⟨?_, require_ok.mpr verified⟩⟩⟩
  · rw [unique_ok, ids_nodup, rows.requirements]
    exact distinct
  · refine forM_ok.mpr fun entry member => unique_ok.mpr ?_
    have names : (entry.qualityResults.map fun result => result.dimension.value) =
        dimensions.map QualityDimension.value := by
      rw [← rows.dimensions entry member, List.map_map]
      rfl
    rw [names]
    decide

/-! ### The evaluation -/

section

variable {drift : DriftDecision} {built : RequirementTrace}

theorem judge_trace_cases (sha : Sha256) (input : EvaluationInput) (drift : DriftDecision)
    (built : RequirementTrace) : (judge sha input drift built).trace = built ∨
    (judge sha input drift built).trace = UnsealedTrace.seal sha
      { built with entries := built.entries.map TraceEntry.invalidate } := by
  cases blocks : drift.blocking with
  | false => exact Or.inl (judge_trace blocks)
  | true =>
    refine Or.inr ?_
    have settled : (settle sha input drift built).trace = UnsealedTrace.seal sha
        { built with entries := built.entries.map TraceEntry.invalidate } := by
      rw [settle, if_pos blocks]
    rw [judge]
    split <;> exact settled

/-- **The failures of a judgement**: those of the blocking requirements, and at most one more. -/
theorem judge_failures (sha : Sha256) (input : EvaluationInput) (drift : DriftDecision)
    (built : RequirementTrace) :
    let failures := entryFailures (blockingEntries input.successDefinition built.entries)
    (judge sha input drift built).failures = failures ∨
      ∃ failure, (judge sha input drift built).failures = failures ++ [failure] ∧
        (failure.failureId = "failure.relevant-drift" ∨ failures = [] ∧
          failure.failureId ∈ ["failure.prohibited-outcome", "failure.output"]) := by
  intro failures
  rw [judge]
  split
  · rename_i none
    obtain ⟨_, none⟩ := Bool.and_eq_true_iff.mp none
    have empty : failures = [] := by
      rw [List.isEmpty_iff, settle] at none
      split_ifs at none with _ _ _ <;> first | exact none | simp at none
    exact Or.inr ⟨_, by rw [empty]; rfl, Or.inr ⟨empty, by decide⟩⟩
  · rw [settle]
    split_ifs with blocks against empty
    · exact Or.inr ⟨_, rfl, Or.inl rfl⟩
    · have none : failures = [] := List.isEmpty_iff.mp (Bool.and_eq_true_iff.mp empty).2
      exact Or.inr ⟨_, by rw [none]; rfl, Or.inr ⟨none, by decide⟩⟩
    all_goals exact Or.inl rfl

theorem judge_proven_failures (proven : (judge sha input drift built).decision = .proven) :
    (judge sha input drift built).failures = [] := by
  obtain ⟨clear, absent, all⟩ := judge_proven.mp proven
  have blocking : ∀ entry ∈ blockingEntries input.successDefinition built.entries,
      entry.status = .proven := fun entry member => all entry (List.mem_filter.mp member).1
  have none := entryFailures_nil.mpr blocking
  have settled : (settle sha input drift built).failures = [] := by
    rw [settle, if_neg (by simp [clear]), if_neg, none]
    · split_ifs <;> rfl
    · simp only [prohibitedPresent_false.mpr absent, List.isEmpty_nil, Bool.not_true, Bool.false_or,
        List.any_eq_true, decide_eq_true_eq, not_exists, not_and]
      intro entry member
      rw [blocking entry member]
      decide
  rw [judge] at proven ⊢
  split at proven
  · rename_i against
    rw [proven] at against
    cases against
  · rename_i unchanged
    rw [if_neg unchanged, settled]

theorem judge_blocks (blocks : (judge sha input drift built).decision.blocks = true) :
    (judge sha input drift built).failures ≠ [] := by
  rw [judge]
  split
  · simp
  · rename_i some
    rw [judge, if_neg some] at blocks
    simpa [blocks] using some

end

theorem aggregateDimension_returns {rows : List QualityResult}
    (rated : ∀ row ∈ rows, row.rated = true) (dimension : QualityDimension) :
    ∃ result, aggregateDimension rows dimension = .ok result := by
  rw [aggregateDimension, if_pos]
  · split <;> exact ⟨_, rfl⟩
  · rw [List.all_eq_true]
    exact fun row member => rated row (List.mem_filter.mp member).1

theorem aggregateDimension_ok {rows : List QualityResult} {dimension : QualityDimension}
    {result : QualityResult} (summarised : aggregateDimension rows dimension = .ok result) :
    result.dimension = dimension ∧
      (result.status = .notApplicable ∨ ∃ row ∈ rows, row.status ≠ .notApplicable ∧
        result.status = row.status) := by
  rw [aggregateDimension] at summarised
  split at summarised
  · split at summarised
    · rename_i worst found
      cases summarised
      obtain ⟨member, applicable⟩ := List.mem_filter.mp (List.argmin_mem found)
      exact ⟨rfl, Or.inr ⟨worst, member, by simpa using (by simpa using applicable : _ ∧ _).2, rfl⟩⟩
    · cases summarised
      exact ⟨rfl, Or.inl rfl⟩
  · cases summarised

/-! ### The failures -/

theorem append_injective (front : String) : Function.Injective (front ++ ·) :=
  fun _ _ same => (String.append_right_inj front).mp same

section

variable {drift : DriftDecision} {built : RequirementTrace}

theorem entryFailures_sublist (rows : Rows input.successDefinition built.entries) :
    List.Sublist
      ((entryFailures (blockingEntries input.successDefinition built.entries)).map
        BlockingFailure.failureId)
      (input.successDefinition.requirementIds.map fun id => "failure." ++ id.val) := by
  rw [← rows.requirements, entryFailures, List.map_map, List.map_map]
  exact (List.filter_sublist.trans List.filter_sublist).map _

theorem judge_failures_ids (sha : Sha256) (drift : DriftDecision) (fits : Fits input)
    (distinct : input.successDefinition.requirementIds.Nodup)
    (rows : Rows input.successDefinition built.entries) :
    ((judge sha input drift built).failures.map BlockingFailure.failureId).Nodup ∧
      ∀ failure ∈ (judge sha input drift built).failures,
        isIdentifier failure.failureId = true := by
  have within := entryFailures_sublist rows
  have separate : (input.successDefinition.requirementIds.map fun id =>
      "failure." ++ id.val).Nodup :=
    distinct.map ((append_injective _).comp Subtype.val_injective)
  have named : ∀ failure ∈ entryFailures (blockingEntries input.successDefinition built.entries),
      isIdentifier failure.failureId = true := by
    intro failure member
    obtain ⟨id, required, same⟩ :=
      List.mem_map.mp (within.subset (List.mem_map_of_mem member))
    rw [← same]
    exact fits.failures id required
  obtain same | ⟨failure, same, which⟩ := judge_failures sha input drift built
  · rw [same]
    exact ⟨separate.sublist within, named⟩
  · have own : isIdentifier failure.failureId = true := by
      have known : failure.failureId ∈ ["failure.relevant-drift", "failure.prohibited-outcome",
          "failure.output"] := by
        rcases which with drifted | ⟨_, listed⟩
        · exact drifted ▸ List.mem_cons_self
        · exact List.mem_cons_of_mem _ listed
      have all : ∀ id ∈ ["failure.relevant-drift", "failure.prohibited-outcome", "failure.output"],
          isIdentifier id = true := by decide
      exact all _ known
    have apart : failure.failureId ∉ (entryFailures (blockingEntries input.successDefinition
        built.entries)).map BlockingFailure.failureId := by
      rcases which with drifted | ⟨none, _⟩
      · intro listed
        obtain ⟨id, required, same⟩ := List.mem_map.mp (within.subset listed)
        exact fits.apart id required (append_injective "failure." (same.trans drifted))
      · rw [none]
        exact List.not_mem_nil
    rw [same, List.map_append]
    constructor
    · refine (separate.sublist within).append (List.nodup_singleton _) ?_
      simpa using apart
    · intro other member
      rcases List.mem_append.mp member with member | member
      · exact named other member
      · rw [List.mem_singleton.mp member]
        exact own

end

theorem conclude_validate {judged : Judgement} {qualitySummary : List QualityResult}
    (fits : Fits input) (traceNamed : judged.trace.traceId =
      "trace." ++ input.buildResult.buildResultId.val)
    (dimensioned : qualitySummary.map QualityResult.dimension = dimensions)
    (rated : ∀ result ∈ qualitySummary, result.rated = true)
    (named : ∀ failure ∈ judged.failures, isIdentifier failure.failureId = true)
    (distinct : (judged.failures.map BlockingFailure.failureId).Nodup)
    (proven : judged.decision = .proven → judged.failures = [] ∧
      prohibitedPresent input.buildResult = false ∧
        ∀ result ∈ qualitySummary, result.status = .pass ∨ result.status = .notApplicable)
    (blocks : judged.decision.blocks = true → judged.failures ≠ []) :
    ((input.conclude judged qualitySummary).seal sha).validate sha = .ok () := by
  have clean : (judged.decision != .proven || (!judged.decision.blocks &&
      judged.failures.isEmpty && input.buildResult.prohibitedOutcomesPresent.isEmpty)) = true := by
    cases decided : judged.decision
    case proven =>
      obtain ⟨none, absent, _⟩ := proven decided
      rw [none, prohibitedPresent_false.mpr absent]
      rfl
    all_goals rfl
  have failing : (!judged.decision.blocks ||
      (judged.decision.blocks && !judged.failures.isEmpty)) = true := by
    cases blocking : judged.decision.blocks with
    | false => rfl
    | true => simpa using blocks blocking
  have passing : (judged.decision != .proven || qualitySummary.all fun result =>
      result.status ∈ [.pass, .notApplicable]) = true := by
    cases decided : judged.decision
    case proven => simpa using (proven decided).2.2
    all_goals rfl
  have unempty : (!qualitySummary.isEmpty) = true := by
    cases qualitySummary with
    | nil => cases dimensioned
    | cons _ _ => rfl
  have names : (qualitySummary.map fun result => result.dimension.value) =
      dimensions.map QualityDimension.value := by
    rw [← dimensioned, List.map_map]
    rfl
  have admitted : ((input.conclude judged qualitySummary).seal sha).admitted = true := by
    simp only [UnsealedEvaluation.admitted, UnsealedEvaluation.seal, EvaluationInput.conclude,
      RequirementTrace.ref, traceNamed, fits.trace, fits.evaluation, unempty, clean, failing,
      Bool.true_and, Bool.and_true, Bool.and_eq_true, List.all_eq_true]
    exact ⟨rated, named⟩
  rw [FinalEvaluation.validate, if_pos admitted]
  refine then_ok.mpr ⟨rfl, then_ok.mpr ⟨unique_ok.mpr ?_, then_ok.mpr ⟨unique_ok.mpr distinct, ?_⟩⟩⟩
  · change (qualitySummary.map fun result => result.dimension.value).Nodup
    rw [names]
    decide
  · exact then_ok.mpr ⟨require_ok.mpr clean, then_ok.mpr ⟨require_ok.mpr failing,
      then_ok.mpr ⟨require_ok.mpr passing, require_ok.mpr (UnsealedEvaluation.seal_verifies sha _)⟩⟩⟩

/-- **An evaluation of admissible documents that fit returns.** -/
theorem evaluateResult_returns (admissible : Admissible sha input) (fits : Fits input) :
    ∃ trace evaluation, evaluateResult sha input = .ok (trace, evaluation) := by
  have distinct : input.successDefinition.requirementIds.Nodup := by
    have valid := admissible.successDefinition
    simp only [SuccessDefinition.validate, then_ok, unique_ok, ids_nodup] at valid
    exact valid.2.1
  have some : input.successDefinition.requirementIds ≠ [] := by
    rw [SuccessDefinition.requirementIds, ne_eq, List.map_eq_nil_iff]
    exact input.successDefinition.requirements.property
  obtain ⟨entries, walked⟩ := mapM_returns fun requirement required =>
    traceEntry_returns (fits.rated requirement required)
  obtain ⟨built, traced, sealed, traceNamed⟩ : ∃ built, input.buildTrace sha = .ok built ∧
      verifyHash sha built.contentHash built.toJson = true ∧
        built.traceId = "trace." ++ input.buildResult.buildResultId.val :=
    ⟨_, by rw [TraceInput.buildTrace, walked]; rfl, UnsealedTrace.seal_verifies sha _, rfl⟩
  have rows := buildTrace_rows fits traced
  obtain ⟨drift, drifted⟩ : ∃ drift, input.drift sha = .ok drift :=
    ⟨_, (drift_ok admissible).mpr ⟨by rw [DriftEvent.validate]; exact if_pos fits.drift, rfl⟩⟩
  obtain ⟨judgedRows, judgedNamed, judgedSealed⟩ :
      Rows input.successDefinition (judge sha input drift built).trace.entries ∧
      (judge sha input drift built).trace.traceId =
        "trace." ++ input.buildResult.buildResultId.val ∧
      verifyHash sha (judge sha input drift built).trace.contentHash
        (judge sha input drift built).trace.toJson = true := by
    rcases judge_trace_cases sha input drift built with same | same
    · rw [same]
      exact ⟨rows, traceNamed, sealed⟩
    · rw [same]
      exact ⟨rows.invalidate, traceNamed, UnsealedTrace.seal_verifies sha _⟩
  have rated : ∀ row ∈ (judge sha input drift built).trace.entries.flatMap
      TraceEntry.qualityResults, row.rated = true := by
    intro row listed
    obtain ⟨entry, member, listed⟩ := List.mem_flatMap.mp listed
    exact judgedRows.rated entry member row listed
  obtain ⟨qualitySummary, summarised⟩ := mapM_returns fun dimension (_ : dimension ∈ dimensions) =>
    aggregateDimension_returns rated dimension
  have summary : ∀ result ∈ qualitySummary, result.status = .notApplicable ∨
      ∃ row ∈ (judge sha input drift built).trace.entries.flatMap TraceEntry.qualityResults,
        row.status ≠ .notApplicable ∧ result.status = row.status := by
    intro result member
    obtain ⟨dimension, _, same⟩ := (mapM_ok summarised).2 result member
    exact (aggregateDimension_ok same).2
  obtain ⟨failuresDistinct, failuresNamed⟩ := judge_failures_ids sha drift fits distinct rows
  have valid : ((input.conclude (judge sha input drift built) qualitySummary).seal sha).validate
      sha = .ok () := by
    refine conclude_validate fits judgedNamed ?_ ?_ failuresNamed failuresDistinct ?_ judge_blocks
    · exact (mapM_map id QualityResult.dimension summarised fun dimension result same =>
        (aggregateDimension_ok same).1).trans (List.map_id _)
    · intro result member
      rcases summary result member with none | ⟨row, listed, _, same⟩
      · rw [QualityResult.rated, none]
        rfl
      · rw [QualityResult.rated, same]
        exact rated row listed
    · intro proven
      obtain ⟨clear, absent, all⟩ := judge_proven.mp proven
      refine ⟨judge_proven_failures proven, absent, fun result member => ?_⟩
      rcases summary result member with none | ⟨row, listed, applicable, same⟩
      · exact Or.inr none
      · rw [judge_trace clear] at listed
        obtain ⟨entry, listed, within⟩ := List.mem_flatMap.mp listed
        obtain ⟨requirement, _, entered⟩ := (buildTrace_ok traced).2 entry listed
        rw [same]
        exact traceEntry_passes entered ((traceEntry_ok entered).2.2.mp (all entry listed)) row within
  exact ⟨_, _, evaluateResult_ok.mpr ⟨drift, built, qualitySummary, admissible, drifted, traced, rfl,
    RequirementTrace.validate_ok judgedRows (judgedNamed ▸ fits.trace) some distinct judgedSealed,
    summarised, rfl, valid⟩⟩

end Audisor.Aflow
