/-
**When the decision on a build agrees with its trace.**

* `judge_partial` — the decision is `partially_proven` when the drift does not block, no prohibited
  outcome is present, every blocking requirement is proven and some requirement is not.
* `Evinces` — the evidence of a build shows something for a requirement. **`traceEntry_evinces`** —
  this is what the entry of the requirement reports.
* `AgreesWithTrace` — a decision of `partially_proven` rests on a build that has not failed, and on
  an entry that is proven, at least in part. **`agrees_iff`** — this holds exactly when some
  requirement is blocking, the drift blocks, a prohibited outcome is present, or something is shown
  for a requirement.
-/

import Audisor.Aflow.ProvenBuilds

namespace Audisor.Aflow

variable {sha : Sha256} {input : EvaluationInput}

/-! ### The last branch of the decision -/

section

variable {drift : DriftDecision} {built : RequirementTrace}

/-- **When the decision is partially proven.** -/
theorem judge_partial :
    (judge sha input drift built).decision = .partiallyProven ↔
      drift.blocking = false ∧ prohibitedPresent input.buildResult = false ∧
        (∀ entry ∈ blockingEntries input.successDefinition built.entries, entry.status = .proven) ∧
          ∃ entry ∈ built.entries, entry.status ≠ .proven := by
  have settled : (judge sha input drift built).decision = (settle sha input drift built).decision := by
    rw [judge]
    split <;> rfl
  rw [settled, settle]
  split
  · rename_i blocks
    refine iff_of_false (by simp) ?_
    rintro ⟨clear, -⟩
    simp [clear] at blocks
  rename_i clear
  split
  · rename_i against
    refine iff_of_false (by simp) ?_
    rintro ⟨-, absent, proven, -⟩
    simp only [prohibitedPresent_false.mpr absent, List.isEmpty_nil, Bool.not_true, Bool.false_or,
      List.any_eq_true, decide_eq_true_eq] at against
    obtain ⟨entry, member, contradicted⟩ := against
    rw [proven entry member] at contradicted
    cases contradicted
  rename_i uncontradicted
  simp only [Bool.or_eq_true, Bool.not_eq_true', not_or, Bool.not_eq_false,
    List.isEmpty_iff] at uncontradicted
  split
  · rename_i proven
    simp only [Bool.and_eq_true, List.all_eq_true, decide_eq_true_eq] at proven
    refine iff_of_false (by simp) ?_
    rintro ⟨-, -, -, entry, member, unproven⟩
    exact unproven (proven.2 entry member)
  rename_i unproven
  split
  · rename_i failing
    refine iff_of_false (by simp) ?_
    rintro ⟨-, -, proven, -⟩
    rw [entryFailures_nil.mpr proven] at failing
    cases failing
  · rename_i passing
    simp only [Bool.not_eq_true', Bool.not_eq_false, List.isEmpty_iff] at passing
    refine iff_of_true rfl ⟨by simpa using clear, prohibitedPresent_false.mp uncontradicted.1,
      entryFailures_nil.mp passing, ?_⟩
    by_contra all
    refine unproven ?_
    simp only [passing, List.isEmpty_nil, Bool.true_and, List.all_eq_true, decide_eq_true_eq]
    intro entry member
    by_contra other
    exact all ⟨entry, member, other⟩

end

/-! ### What is shown for a requirement -/

/-- Every type of evidence that a proof of the requirement asks for is cited, and trusted. -/
def TraceInput.Covered (given : TraceInput) (requirement : Requirement) : Prop :=
  ∀ proof ∈ given.successDefinition.proofObligations.val,
    requirement.requirementId ∈ proof.requirementIds.val →
      ∀ types, proof.requiredEvidenceTypes = some types → ∀ type ∈ types.val,
        ∃ ref item, given.Cites requirement ref ∧ Evidences given.evidence ref item ∧
          isTrustedEvidence item = true ∧ item.evidenceType = type

/-- **What makes a dimension pass of which the evidence says nothing.** -/
def TraceInput.Implies (given : TraceInput) (requirement : Requirement) : QualityDimension → Prop
  | .evidenceQuality =>
    (∀ ref, given.Cites requirement ref → ∃ item, Evidences given.evidence ref item) ∧
      given.Covered requirement
  | .constraintCompliance => given.AbsenceShown ∧ given.buildResult.status = .completed
  | .correctness | .completeness => given.Supported requirement ∧ given.AbsenceShown
  | .usability | .consistency | .reliability => False

def TraceInput.Shows (given : TraceInput) (requirement : Requirement)
    (dimension : QualityDimension) : Prop :=
  explicitQuality (given.trusted requirement) dimension = .ok (some .pass) ∨
    explicitQuality (given.trusted requirement) dimension = .ok (some .partly) ∨
      explicitQuality (given.trusted requirement) dimension = .ok none ∧
        given.Implies requirement dimension

/-- **The evidence shows something for a requirement**: the build has not failed and has an output
for it, nothing that is cited contradicts it, no dimension of it is stated to fail, and one of them
passes. -/
structure TraceInput.Evinces (given : TraceInput) (requirement : Requirement) : Prop where
  finished : given.buildResult.status ≠ .failed
  uncontradicted : ∀ ref item, given.Cites requirement ref → Evidences given.evidence ref item →
    item.source.evidenceStatus ≠ .contradicted
  output : ∃ output ∈ given.buildResult.outputs,
    requirement.requirementId ∈ output.requirementIds.val
  unfailed : ∀ dimension ∈ requirement.qualityDimensions.val,
    explicitQuality (given.trusted requirement) dimension ≠ .ok (some .fail)
  shown : ∃ dimension ∈ requirement.qualityDimensions.val, given.Shows requirement dimension

section

variable {given : TraceInput} {requirement : Requirement} {entry : TraceEntry}

theorem outputs_isEmpty : (given.outputs requirement).isEmpty = false ↔
    ∃ output ∈ given.buildResult.outputs,
      requirement.requirementId ∈ output.requirementIds.val := by
  rw [TraceInput.outputs, List.isEmpty_eq_false_iff_exists_mem]
  simp only [List.mem_filter, decide_eq_true_eq]

theorem traceStatus_shown {required : List QualityStatus} (some : required ≠ []) :
    (given.traceStatus requirement required = .proven ∨
        given.traceStatus requirement required = .partiallyProven) ↔
      given.contradicted requirement = false ∧ QualityStatus.fail ∉ required ∧
        (given.outputs requirement).isEmpty = false ∧
          ∃ status ∈ required, status = .pass ∨ status = .partly := by
  rw [TraceInput.traceStatus]
  split
  · rename_i against
    refine iff_of_false (by simp) ?_
    rintro ⟨clear, unfailed, -⟩
    rw [clear, Bool.false_or, decide_eq_true_eq] at against
    exact unfailed against
  rename_i clear
  simp only [Bool.or_eq_true, decide_eq_true_eq, not_or, Bool.not_eq_true] at clear
  split
  · rename_i proven
    simp only [Bool.and_eq_true, List.all_eq_true, decide_eq_true_eq] at proven
    obtain ⟨first, listed⟩ := List.exists_mem_of_ne_nil _ some
    have base := proven.1
    simp only [TraceInput.baseProven, Bool.and_eq_true, Bool.not_eq_true'] at base
    exact iff_of_true (Or.inl rfl)
      ⟨clear.1, clear.2, base.1.1.1.1.1.1, first, listed, Or.inl (proven.2 first listed)⟩
  split
  · rename_i shown
    simp only [Bool.and_eq_true, List.any_eq_true, decide_eq_true_eq, List.mem_cons,
      List.not_mem_nil, or_false, Bool.not_eq_true'] at shown
    exact iff_of_true (Or.inr rfl) ⟨clear.1, clear.2, shown.2, shown.1⟩
  · rename_i unshown
    refine iff_of_false (by simp) ?_
    rintro ⟨-, -, output, shown⟩
    refine unshown ?_
    simp only [Bool.and_eq_true, List.any_eq_true, decide_eq_true_eq, List.mem_cons,
      List.not_mem_nil, or_false, Bool.not_eq_true']
    exact ⟨shown, output⟩

theorem mem_requiredStatuses {results : List QualityResult} {status : QualityStatus}
    (rated : dimensions.mapM (given.qualityResult requirement) = .ok results) :
    status ∈ TraceInput.requiredStatuses requirement results ↔
      ∃ dimension ∈ requirement.qualityDimensions.val, ∃ stated,
        explicitQuality (given.trusted requirement) dimension = .ok stated ∧
          given.qualityStatus requirement dimension stated = status := by
  obtain ⟨forth, back⟩ := mapM_ok rated
  constructor
  · intro required
    obtain ⟨result, listed, rfl⟩ := List.mem_map.mp required
    obtain ⟨member, applicable⟩ := List.mem_filter.mp listed
    obtain ⟨dimension, _, same⟩ := back result member
    obtain ⟨stated, explicit, rfl⟩ := qualityResult_ok.mp same
    exact ⟨dimension, by simpa using applicable, stated, explicit, rfl⟩
  · rintro ⟨dimension, applicable, stated, explicit, rfl⟩
    obtain ⟨result, listed, same⟩ := forth dimension (mem_dimensions dimension)
    obtain ⟨other, explicit', rfl⟩ := qualityResult_ok.mp same
    obtain rfl : stated = other := Except.ok.inj (explicit.symm.trans explicit')
    exact List.mem_map.mpr ⟨_, List.mem_filter.mpr ⟨listed, by simpa using applicable⟩, rfl⟩

section

variable (distinct : given.Distinct) (absent : prohibitedPresent given.buildResult = false)

include distinct absent

theorem implicitStatus_implies {dimension : QualityDimension}
    (clear : given.contradicted requirement = false)
    (output : ∃ output ∈ given.buildResult.outputs,
      requirement.requirementId ∈ output.requirementIds.val) :
    given.implicitStatus requirement dimension = .pass ↔ given.Implies requirement dimension := by
  have shown : given.absenceEvidenced = true ↔ given.AbsenceShown :=
    ⟨fun evidenced => (absence_iff distinct).mp ⟨absent, evidenced⟩,
      fun evidenced => ((absence_iff distinct).mpr evidenced).2⟩
  have base : given.baseProven requirement = true ↔
      given.Supported requirement ∧ given.AbsenceShown :=
    ⟨fun proven => ((base_iff distinct).mp ⟨clear, proven⟩).2,
      fun proven => ((base_iff distinct).mpr ⟨((contradicted_iff distinct).mp clear).1, proven⟩).2⟩
  cases dimension
  case evidenceQuality =>
    simp only [TraceInput.implicitStatus, TraceInput.Implies, TraceInput.Covered, ite_eq_left_iff,
      reduceCtorEq, imp_false, not_not, Bool.and_eq_true, refsValid_iff distinct output,
      typesMatch_iff distinct]
  case constraintCompliance =>
    simp only [TraceInput.implicitStatus, TraceInput.Implies, ite_eq_left_iff, reduceCtorEq,
      imp_false, not_not, Bool.and_eq_true, shown, decide_eq_true_eq]
  case correctness | completeness =>
    simp only [TraceInput.implicitStatus, TraceInput.Implies, ite_eq_left_iff, reduceCtorEq,
      imp_false, not_not, base]
  all_goals exact iff_of_false (by simp [TraceInput.implicitStatus]) id

omit distinct in
theorem qualityStatus_applicable {dimension : QualityDimension} {stated : Option QualityStatus}
    (applicable : dimension ∈ requirement.qualityDimensions.val) :
    given.qualityStatus requirement dimension stated =
      stated.getD (given.implicitStatus requirement dimension) := by
  rw [TraceInput.qualityStatus, if_pos applicable, absent, Bool.and_false]
  exact if_neg Bool.false_ne_true

omit distinct absent in
theorem implicitStatus_cases (dimension : QualityDimension) :
    given.implicitStatus requirement dimension = .pass ∨
      given.implicitStatus requirement dimension = .unproven := by
  cases dimension <;> simp only [TraceInput.implicitStatus] <;> grind

/-- **What the entry of a requirement reports**, when no prohibited outcome is present. -/
theorem traceEntry_evinces (traced : given.traceEntry requirement = .ok entry) :
    (entry.status = .proven ∨ entry.status = .partiallyProven) ↔ given.Evinces requirement := by
  simp only [TraceInput.traceEntry, bind_ok, pure, Except.pure, Except.ok.injEq] at traced
  obtain ⟨results, rated, rfl⟩ := traced
  have stated (dimension : QualityDimension) :
      ∃ stated, explicitQuality (given.trusted requirement) dimension = .ok stated := by
    obtain ⟨result, _, same⟩ := (mapM_ok rated).1 dimension (mem_dimensions dimension)
    obtain ⟨stated, explicit, _⟩ := qualityResult_ok.mp same
    exact ⟨stated, explicit⟩
  have some : TraceInput.requiredStatuses requirement results ≠ [] := by
    obtain ⟨dimension, applicable⟩ :=
      List.exists_mem_of_ne_nil _ requirement.qualityDimensions.property.1
    obtain ⟨rating, explicit⟩ := stated dimension
    exact List.ne_nil_of_mem
      ((mem_requiredStatuses rated).mpr ⟨dimension, applicable, rating, explicit, rfl⟩)
  rw [traceStatus_shown some, contradicted_iff distinct, outputs_isEmpty]
  constructor
  · rintro ⟨⟨finished, uncontradicted⟩, unfailed, output, status, required, passes⟩
    have clear := (contradicted_iff distinct).mpr ⟨finished, uncontradicted⟩
    refine ⟨finished, uncontradicted, output, fun dimension applicable fails => unfailed ?_, ?_⟩
    · refine (mem_requiredStatuses rated).mpr ⟨dimension, applicable, _, fails, ?_⟩
      rw [qualityStatus_applicable absent applicable, Option.getD_some]
    · obtain ⟨dimension, applicable, stated, explicit, same⟩ := (mem_requiredStatuses rated).mp required
      refine ⟨dimension, applicable, ?_⟩
      rw [qualityStatus_applicable absent applicable] at same
      cases stated with
      | some rating =>
        rw [Option.getD_some] at same
        rcases passes with rfl | rfl
        · exact Or.inl (same ▸ explicit)
        · exact Or.inr (Or.inl (same ▸ explicit))
      | none =>
        rw [Option.getD_none] at same
        refine Or.inr (Or.inr ⟨explicit, (implicitStatus_implies distinct absent clear output).mp ?_⟩)
        rcases implicitStatus_cases dimension with pass | unproven
        · exact pass
        · rw [unproven] at same
          simp [← same] at passes
  · rintro ⟨finished, uncontradicted, output, unfailed, dimension, applicable, shows⟩
    have clear := (contradicted_iff distinct).mpr ⟨finished, uncontradicted⟩
    refine ⟨⟨finished, uncontradicted⟩, fun failing => ?_, output, ?_⟩
    · obtain ⟨failed, applies, stated, explicit, same⟩ := (mem_requiredStatuses rated).mp failing
      rw [qualityStatus_applicable absent applies] at same
      cases stated with
      | some rating => exact unfailed failed applies (explicit.trans (by rw [← same]; rfl))
      | none =>
        rw [Option.getD_none] at same
        rcases implicitStatus_cases failed with pass | unproven
        · rw [pass] at same
          cases same
        · rw [unproven] at same
          cases same
    · have rating {stated status} (explicit : explicitQuality (given.trusted requirement) dimension =
          .ok stated) (same : stated.getD (given.implicitStatus requirement dimension) = status) :
          status ∈ TraceInput.requiredStatuses requirement results :=
        (mem_requiredStatuses rated).mpr ⟨dimension, applicable, stated, explicit,
          (qualityStatus_applicable absent applicable).trans same⟩
      rcases shows with pass | part | ⟨silent, implied⟩
      · exact ⟨.pass, rating pass rfl, Or.inl rfl⟩
      · exact ⟨.partly, rating part rfl, Or.inr rfl⟩
      · exact ⟨.pass, rating silent ((implicitStatus_implies distinct absent clear output).mpr implied),
          Or.inl rfl⟩

end

end

/-! ### Agreement -/

/-- **The decision agrees with the trace**: a decision that does not block is `proven` or
`partially_proven`, and the latter rests on a build that has not failed, without a prohibited
outcome, and on an entry that is proven, at least in part. -/
structure AgreesWithTrace (input : EvaluationInput) (trace : RequirementTrace)
    (evaluation : FinalEvaluation) : Prop where
  nonBlocking : evaluation.blocking = false ↔
    evaluation.decision = .proven ∨ evaluation.decision = .partiallyProven
  finished : evaluation.decision = .partiallyProven → input.buildResult.status ≠ .failed
  absent : evaluation.decision = .partiallyProven →
    ∀ check ∈ input.buildResult.prohibitedOutcomeChecks, check.present = false
  shown : evaluation.decision = .partiallyProven →
    ∃ entry ∈ trace.entries, entry.status = .proven ∨ entry.status = .partiallyProven

section

variable {trace : RequirementTrace} {evaluation : FinalEvaluation}
  (run : Evaluated sha input trace evaluation)

include run

theorem Evaluated.decided :
    evaluation.decision = (judge sha input run.drift run.built).decision :=
  congrArg (fun concluded : FinalEvaluation => concluded.decision) run.concluded

theorem Evaluated.nonBlocking : evaluation.blocking = false ↔
    evaluation.decision = .proven ∨ evaluation.decision = .partiallyProven := by
  have blocks : evaluation.blocking = evaluation.decision.blocks := by
    rw [run.concluded]
    rfl
  rw [blocks]
  cases evaluation.decision <;> simp [RequirementStatus.blocks]

theorem Evaluated.blocking_proven {requirement : Requirement}
    (required : requirement ∈ input.successDefinition.requirements.val)
    (blocking : requirement.priority = .blocking)
    (partially : evaluation.decision = .partiallyProven) :
    ∃ entry ∈ trace.entries, input.traceEntry requirement = .ok entry ∧ entry.status = .proven := by
  rw [run.decided, judge_partial] at partially
  obtain ⟨clear, _, proven, _⟩ := partially
  obtain ⟨entry, member, traced⟩ := (buildTrace_ok run.traced).1 requirement required
  have ids : input.successDefinition.requirementIds.Nodup := by
    have valid := run.admissible.successDefinition
    simp only [SuccessDefinition.validate, then_ok, unique_ok, ids_nodup] at valid
    exact valid.2.1
  refine ⟨entry, ?_, traced, proven entry (List.mem_filter.mpr ⟨member, ?_⟩)⟩
  · rw [run.judged, judge_trace clear]
    exact member
  · rw [(traceEntry_ok traced).1, SuccessDefinition.priority, byKey_mem ids required]
    simp [blocking]

end

/-! ### A failed build without blocking requirements -/

section

variable (sha : Sha256)

/-- The success definition of the small build, whose requirement is a minor one. -/
def minorSuccess : SuccessDefinition :=
  SuccessDefinition.confirm sha { smallSuccess sha [] with
    requirements := ⟨[{ smallRequirement with priority := .minor }], List.cons_ne_nil _ _⟩ }

def minorPlan : Plan :=
  { smallPlan sha [] with successDefinitionReference := (minorSuccess sha).ref sha }

def minorLock : LockedPlan :=
  LockedPlan.seal sha { smallLock sha [] with
    planReference := (minorPlan sha).ref sha
    successDefinitionReference := (minorSuccess sha).ref sha }

def failedResult : BuildResult :=
  BuildResult.seal sha { smallResult sha .deterministicLocal [] [] with
    lockedPlanReference := (minorLock sha).ref, status := .failed }

def failedBuild : EvaluationInput :=
  { lockedPlan := minorLock sha, successDefinition := minorSuccess sha, plan := minorPlan sha
    buildResult := failedResult sha, evidence := [smallEvidence sha .deterministicLocal]
    lockedBaseline := smallBaseline sha, postBuildBaseline := smallBaseline sha
    observedAt := "2026-01-01T00:00:02Z", decidedAt := "2026-01-01T00:00:03Z" }

theorem failedBuild_admissible : Admissible sha (failedBuild sha) where
  lockedPlan := require_ok.mpr (LockedPlan.seal_verifies sha _)
  successDefinition := by
    refine then_ok.mpr ⟨unique_ok.mpr (List.nodup_singleton _), then_ok.mpr
      ⟨unique_ok.mpr (List.nodup_singleton _), then_ok.mpr
      ⟨unique_ok.mpr List.nodup_nil, then_ok.mpr ⟨unique_ok.mpr List.nodup_nil,
      then_ok.mpr ⟨unique_ok.mpr (List.nodup_singleton _), require_ok.mpr ?_⟩⟩⟩⟩⟩
    exact SuccessDefinition.confirm_verifies sha _
  plan := by rfl
  buildResult := by
    refine then_ok.mpr ⟨unique_ok.mpr (List.nodup_singleton _), then_ok.mpr
      ⟨unique_ok.mpr (List.nodup_singleton _), then_ok.mpr
      ⟨unique_ok.mpr List.nodup_nil, require_ok.mpr ?_⟩⟩⟩
    exact BuildResult.seal_verifies sha _
  lockedBaseline := then_ok.mpr ⟨rfl, then_ok.mpr ⟨rfl,
    require_ok.mpr (Baseline.seal_verifies sha _)⟩⟩
  postBuildBaseline := then_ok.mpr ⟨rfl, then_ok.mpr ⟨rfl,
    require_ok.mpr (Baseline.seal_verifies sha _)⟩⟩
  evidence := List.forall_mem_singleton.mpr (require_ok.mpr (Evidence.seal_verifies sha _))
  evidenceIds := List.nodup_singleton _
  bindsLock := rfl
  bindsPlan := rfl
  bindsSuccess := rfl
  bindsBaseline := rfl
  bindsPostBuild := rfl
  requirements := List.forall_mem_singleton.mpr (List.forall_mem_singleton.mpr List.mem_cons_self)
  validations := List.forall_mem_singleton.mpr List.mem_cons_self
  outcomes := List.forall_mem_nil _

theorem failedBuild_silent : ∀ item ∈ (failedBuild sha).evidence,
    ∀ dimension, statedQuality dimension item = none :=
  List.forall_mem_singleton.mpr
    (@smallEvidence_silent sha .deterministicLocal [] [] _ (List.mem_singleton_self _))

theorem failedBuild_fits : Fits (failedBuild sha) where
  drift := (by decide : isIdentifier ("drift." ++ "baseline-1") = true)
  trace := (by decide : isIdentifier ("trace." ++ "build-1") = true)
  evaluation := (by decide : isIdentifier ("evaluation." ++ "build-1") = true)
  failures := List.forall_mem_singleton.mpr (by decide)
  apart := List.forall_mem_singleton.mpr (by decide)
  rated _ _ := statesKnown_of_silent (failedBuild_silent sha)

theorem failedBuild_steady : (failedBuild sha).driftBlocks = false := by
  have none : baselineChanges (smallBaseline sha) (smallBaseline sha) = [] :=
    baselineChanges_same rfl rfl rfl rfl
  exact congrArg (fun changes => (driftVerdict changes).blocks) none

theorem failedBuild_unpresent : prohibitedPresent (failedBuild sha).buildResult = false := rfl

theorem failedBuild_partial : ∃ trace evaluation,
    evaluateResult sha (failedBuild sha) = .ok (trace, evaluation) ∧
      evaluation.decision = .partiallyProven := by
  obtain ⟨trace, evaluation, returned⟩ :=
    evaluateResult_returns (failedBuild_admissible sha) (failedBuild_fits sha)
  obtain ⟨run⟩ := evaluateResult_ok.mp returned
  refine ⟨trace, evaluation, returned, ?_⟩
  rw [run.decided, judge_partial]
  have minor : ∀ requirement ∈ (failedBuild sha).successDefinition.requirements.val,
      requirement.priority = .minor := List.forall_mem_singleton.mpr rfl
  refine ⟨run.driftBlocks.trans (failedBuild_steady sha), failedBuild_unpresent sha,
    fun entry member => ?_, ?_⟩
  · obtain ⟨_, blocking⟩ := List.mem_filter.mp member
    simp only [SuccessDefinition.priority, decide_eq_true_eq, Option.map_eq_some_iff] at blocking
    obtain ⟨requirement, found, blocking⟩ := blocking
    rw [minor requirement (byKey_some found).1] at blocking
    cases blocking
  · obtain ⟨requirement, required⟩ :=
      List.exists_mem_of_ne_nil _ (failedBuild sha).successDefinition.requirements.property
    obtain ⟨entry, member, traced⟩ := (buildTrace_ok run.traced).1 requirement required
    refine ⟨entry, member, fun proven => ?_⟩
    have proves := (traceEntry_ok traced).2.2.mp proven
    exact ((contradicted_iff run.admissible.distinct).mp proves.uncontradicted).1 rfl

end

/-- **The decision agrees with the trace exactly when it cannot fall through**: some requirement is
blocking, the drift blocks, a prohibited outcome is present, or the evidence shows something. -/
theorem agrees_iff {trace : RequirementTrace} {evaluation : FinalEvaluation}
    (returned : evaluateResult sha input = .ok (trace, evaluation)) :
    AgreesWithTrace input trace evaluation ↔
      (∃ requirement ∈ input.successDefinition.requirements.val, requirement.priority = .blocking) ∨
      input.driftBlocks = true ∨
      (∃ check ∈ input.buildResult.prohibitedOutcomeChecks, check.present = true) ∨
      ∃ requirement ∈ input.successDefinition.requirements.val, input.Evinces requirement := by
  obtain ⟨run⟩ := evaluateResult_ok.mp returned
  have distinct := run.admissible.distinct
  have present : prohibitedPresent input.buildResult = true ↔
      ∃ check ∈ input.buildResult.prohibitedOutcomeChecks, check.present = true := by
    rw [prohibitedPresent, List.any_eq_true]
  have absences (absent : prohibitedPresent input.buildResult = false) :
      ∀ check ∈ input.buildResult.prohibitedOutcomeChecks, check.present = false := by
    simpa [prohibitedPresent] using absent
  constructor
  · intro agrees
    by_contra none
    simp only [not_or] at none
    obtain ⟨unblocking, steady, unpresent, unshown⟩ := none
    have clear : run.drift.blocking = false := by
      rw [run.driftBlocks]
      simpa using steady
    have absent : prohibitedPresent input.buildResult = false := by
      simpa using mt present.mp unpresent
    have silent : ∀ entry ∈ run.built.entries,
        ¬ (entry.status = .proven ∨ entry.status = .partiallyProven) := by
      intro entry member shown
      obtain ⟨requirement, required, traced⟩ := (buildTrace_ok run.traced).2 entry member
      exact unshown ⟨requirement, required, (traceEntry_evinces distinct absent traced).mp shown⟩
    have partially : evaluation.decision = .partiallyProven := by
      rw [run.decided, judge_partial]
      refine ⟨clear, absent, fun entry member => ?_, ?_⟩
      · obtain ⟨_, blocking⟩ := List.mem_filter.mp member
        simp only [SuccessDefinition.priority, decide_eq_true_eq, Option.map_eq_some_iff] at blocking
        obtain ⟨requirement, found, blocking⟩ := blocking
        exact (unblocking ⟨requirement, (byKey_some found).1, blocking⟩).elim
      · obtain ⟨requirement, required⟩ :=
          List.exists_mem_of_ne_nil _ input.successDefinition.requirements.property
        obtain ⟨entry, member, _⟩ := (buildTrace_ok run.traced).1 requirement required
        exact ⟨entry, member, fun proven => silent entry member (Or.inl proven)⟩
    obtain ⟨entry, member, shown⟩ := agrees.shown partially
    rw [run.judged, judge_trace clear] at member
    exact silent entry member shown
  · intro condition
    have grounded (partially : evaluation.decision = .partiallyProven) :
        input.buildResult.status ≠ .failed ∧ (∃ entry ∈ trace.entries,
          entry.status = .proven ∨ entry.status = .partiallyProven) := by
      have decided := partially
      rw [run.decided, judge_partial] at decided
      obtain ⟨clear, absent, _, _⟩ := decided
      rcases condition with ⟨requirement, required, blocking⟩ | drifts | checks | shown
      · obtain ⟨entry, member, traced, proven⟩ := run.blocking_proven required blocking partially
        have evinced := (traceEntry_evinces distinct absent traced).mp (Or.inl proven)
        exact ⟨evinced.finished, entry, member, Or.inl proven⟩
      · rw [← run.driftBlocks, clear] at drifts
        cases drifts
      · rw [present.mpr checks] at absent
        cases absent
      · obtain ⟨requirement, required, evinced⟩ := shown
        obtain ⟨entry, member, traced⟩ := (buildTrace_ok run.traced).1 requirement required
        refine ⟨evinced.finished, entry, ?_, (traceEntry_evinces distinct absent traced).mpr evinced⟩
        rw [run.judged, judge_trace clear]
        exact member
    refine ⟨run.nonBlocking, fun partially => (grounded partially).1, fun partially => ?_,
      fun partially => (grounded partially).2⟩
    rw [run.decided, judge_partial] at partially
    exact absences partially.2.1

theorem agrees_small : ∃ trace evaluation,
    evaluateResult sha256 (smallBuild sha256 .deterministicLocal [] []) = .ok (trace, evaluation) ∧
      (AgreesWithTrace (smallBuild sha256 .deterministicLocal [] []) trace evaluation ↔
        (∃ requirement ∈ (smallBuild sha256 .deterministicLocal [] []).successDefinition.requirements.val,
          requirement.priority = .blocking) ∨
        (smallBuild sha256 .deterministicLocal [] []).driftBlocks = true ∨
        (∃ check ∈ (smallBuild sha256 .deterministicLocal [] []).buildResult.prohibitedOutcomeChecks,
          check.present = true) ∨
        ∃ requirement ∈ (smallBuild sha256 .deterministicLocal [] []).successDefinition.requirements.val,
          (smallBuild sha256 .deterministicLocal [] []).Evinces requirement) := by
  obtain ⟨trace, evaluation, returned⟩ :=
    smallBuild_returns sha256 .deterministicLocal [] [] List.nodup_nil rfl
  exact ⟨trace, evaluation, returned, agrees_iff returned⟩

/-- The decision on a failed build without blocking requirements does not block. -/
theorem failed_agreement : ∃ trace evaluation,
    evaluateResult sha256 (failedBuild sha256) = .ok (trace, evaluation) ∧
      (failedBuild sha256).buildResult.status = .failed ∧
      evaluation.decision = .partiallyProven ∧
      ¬ AgreesWithTrace (failedBuild sha256) trace evaluation := by
  obtain ⟨trace, evaluation, returned, partially⟩ := failedBuild_partial sha256
  exact ⟨trace, evaluation, returned, rfl, partially, fun agrees => agrees.finished partially rfl⟩

end Audisor.Aflow
