/-
**What a proven build has for its evidence.**

* `AbsenceEvidenced` — every prohibited outcome has been checked for, is absent, and has trusted evidence
  for its absence. **`absenceEvidenced_iff`** — in a proven build this holds exactly when every check
  cites something: a check that cites nothing passes.
* `TrustworthyProof` — every proven entry cites trusted evidence, and without trusted evidence nothing is
  proven. **`trustworthyProof_iff`** — this holds exactly when no requirement `RestsOnBuilder`.
-/

import Audisor.Aflow.ProvenBuilds

namespace Audisor.Aflow

variable {sha : Sha256} {input : EvaluationInput} {trace : RequirementTrace}
  {evaluation : FinalEvaluation}

/-! ### The absence of prohibited outcomes -/

/-- **The absence of every prohibited outcome has trusted evidence.** -/
structure AbsenceEvidenced (input : EvaluationInput) : Prop where
  checked : ∀ id, id ∈ input.buildResult.checkedOutcomes ↔ id ∈ input.successDefinition.outcomeIds
  absent : ∀ check ∈ input.buildResult.prohibitedOutcomeChecks, check.present = false
  evidenced : ∀ check ∈ input.buildResult.prohibitedOutcomeChecks, ∃ ref ∈ check.evidenceReferences,
    ∃ item, Evidences input.evidence ref item ∧ isTrustedEvidence item = true

theorem Evaluated.supported (run : Evaluated sha input trace evaluation) {requirement : Requirement}
    (proves : input.Proves requirement) :
    input.buildResult.status ≠ .failed ∧ input.Supported requirement ∧ input.AbsenceShown :=
  (base_iff run.admissible.distinct).mp ⟨proves.uncontradicted, proves.base⟩

/-- **In a proven build the absence is evidenced exactly when every check cites something.** -/
theorem absenceEvidenced_iff (returned : evaluateResult sha input = .ok (trace, evaluation))
    (proven : evaluation.decision = .proven) :
    AbsenceEvidenced input ↔
      ∀ check ∈ input.buildResult.prohibitedOutcomeChecks, check.evidenceReferences ≠ [] := by
  obtain ⟨run⟩ := evaluateResult_ok.mp returned
  obtain ⟨_, _, proves⟩ := run.decision_proven.mp proven
  obtain ⟨requirement, required⟩ :=
    List.exists_mem_of_ne_nil _ input.successDefinition.requirements.property
  obtain ⟨_, _, shown⟩ := run.supported (proves requirement required)
  constructor
  · intro evidenced check member none
    obtain ⟨ref, cited, _⟩ := evidenced.evidenced check member
    rw [none] at cited
    cases cited
  · intro citing
    refine ⟨shown.checked, shown.absent, fun check member => ?_⟩
    obtain ⟨ref, cited⟩ := List.exists_mem_of_ne_nil _ (citing check member)
    exact ⟨ref, cited, shown.trusted check member ref cited⟩

def smallOutcome : ProhibitedOutcome :=
  { outcomeId := identifier "outcome-1", statement := word "It writes.", blocking := true }

def smallCheck (references : List EvidenceRef) : OutcomeCheck :=
  { outcomeId := identifier "outcome-1", present := false, evidenceReferences := references }

theorem smallBuild_checked (sha : Sha256) {references : List EvidenceRef}
    (trusted : ∀ ref ∈ references, ref = (smallEvidence sha .human).ref) :
    (smallBuild sha .human [smallOutcome] [smallCheck references]).AbsenceShown where
  absent := List.forall_mem_singleton.mpr rfl
  checked _ := Iff.rfl
  trusted := List.forall_mem_singleton.mpr fun ref cited => by
    rw [trusted ref cited]
    exact ⟨_, (smallBuild_evidences sha .human).mpr rfl, rfl⟩

theorem absenceEvidenced_cited : ∃ trace evaluation,
    evaluateResult sha256 (smallBuild sha256 .human [smallOutcome]
      [smallCheck [(smallEvidence sha256 .human).ref]]) = .ok (trace, evaluation) ∧
    (AbsenceEvidenced (smallBuild sha256 .human [smallOutcome]
      [smallCheck [(smallEvidence sha256 .human).ref]]) ↔
        ∀ check ∈ [smallCheck [(smallEvidence sha256 .human).ref]], check.evidenceReferences ≠ []) := by
  obtain ⟨trace, evaluation, returned, proven⟩ := smallBuild_proven sha256 .human
    (smallBuild_checked sha256 fun ref => List.mem_singleton.mp) (List.nodup_singleton _) rfl
  exact ⟨trace, evaluation, returned, absenceEvidenced_iff returned proven⟩

/-- A check that cites nothing lets the build be proven. -/
theorem absence_unevidenced : ∃ trace evaluation,
    evaluateResult sha256 (smallBuild sha256 .human [smallOutcome] [smallCheck []]) =
      .ok (trace, evaluation) ∧ evaluation.decision = .proven ∧
      ¬ AbsenceEvidenced (smallBuild sha256 .human [smallOutcome] [smallCheck []]) := by
  obtain ⟨trace, evaluation, returned, proven⟩ := smallBuild_proven sha256 .human
    (smallBuild_checked sha256 (List.forall_mem_nil _)) (List.nodup_singleton _) rfl
  refine ⟨trace, evaluation, returned, proven, fun evidenced => ?_⟩
  obtain ⟨ref, cited, _⟩ := evidenced.evidenced _ (List.mem_singleton_self _)
  cases cited

/-! ### Trust -/

/-- **Nothing is proven on untrusted evidence.** -/
structure TrustworthyProof (input : EvaluationInput) (trace : RequirementTrace)
    (evaluation : FinalEvaluation) : Prop where
  entries : ∀ entry ∈ trace.entries, entry.status = .proven → ∃ ref ∈ entry.evidenceReferences,
    ∃ item, Evidences input.evidence ref item ∧ isTrustedEvidence item = true
  decision : (∀ item ∈ input.evidence, isTrustedEvidence item = false) →
    evaluation.decision ≠ .proven

/-- **A requirement that untrusted evidence alone supports**: its dimensions are all of those that pass
where the evidence says nothing, and everything that is cited for it is untrusted. -/
structure RestsOnBuilder (given : TraceInput) (requirement : Requirement) : Prop where
  supported : given.Supported requirement
  absence : given.AbsenceShown
  finished : given.buildResult.status ≠ .failed
  implicit : ∀ dimension ∈ requirement.qualityDimensions.val,
    dimension ∈ [.correctness, .completeness, .evidenceQuality, .constraintCompliance]
  completed : .constraintCompliance ∈ requirement.qualityDimensions.val →
    given.buildResult.status = .completed
  untrusted : ∀ ref item, given.Cites requirement ref → Evidences given.evidence ref item →
    isTrustedEvidence item = false

section

variable {given : TraceInput} {requirement : Requirement}

theorem trusted_nil (distinct : given.Distinct) :
    given.trusted requirement = [] ↔ ∀ ref item, given.Cites requirement ref →
      Evidences given.evidence ref item → isTrustedEvidence item = false := by
  rw [List.eq_nil_iff_forall_not_mem]
  simp only [mem_trusted distinct, not_exists, not_and, Bool.not_eq_true]
  exact ⟨fun none ref item => none item ref, fun none item ref => none ref item⟩

theorem passes_untrusted (none : given.trusted requirement = [])
    (absent : prohibitedPresent given.buildResult = false) {dimension : QualityDimension}
    (applicable : dimension ∈ requirement.qualityDimensions.val) :
    given.Passes requirement dimension ↔ given.implicitStatus requirement dimension = .pass := by
  have silent : given.qualityStatus requirement dimension Option.none =
      given.implicitStatus requirement dimension := by
    rw [TraceInput.qualityStatus, if_pos applicable, absent, Bool.and_false]
    rfl
  rw [TraceInput.Passes, none, ← silent]
  constructor
  · rintro ⟨stated, explicit, pass⟩
    cases explicit
    exact pass
  · exact fun pass => ⟨Option.none, rfl, pass⟩

theorem implicitStatus_pass (base : given.baseProven requirement = true)
    {dimension : QualityDimension} :
    given.implicitStatus requirement dimension = .pass ↔
      dimension ∈ [.correctness, .completeness, .evidenceQuality, .constraintCompliance] ∧
        (dimension = .constraintCompliance → given.buildResult.status = .completed) := by
  have parts := base
  simp only [TraceInput.baseProven, Bool.and_eq_true] at parts
  obtain ⟨⟨⟨⟨⟨_, valid⟩, _⟩, types⟩, _⟩, absence⟩ := parts
  cases dimension <;> simp [TraceInput.implicitStatus, base, valid, types, absence]

/-- **A requirement is proven without trusted evidence** exactly when it rests on the builder. -/
theorem restsOnBuilder_iff (distinct : given.Distinct) :
    RestsOnBuilder given requirement ↔
      given.Proves requirement ∧ given.trusted requirement = [] := by
  constructor
  · intro rests
    have none := (trusted_nil distinct).mpr rests.untrusted
    obtain ⟨uncontradicted, base⟩ :=
      (base_iff distinct).mpr ⟨rests.finished, rests.supported, rests.absence⟩
    have absent := ((absence_iff distinct).mpr rests.absence).1
    refine ⟨⟨uncontradicted, base, fun dimension applicable => ?_⟩, none⟩
    refine (passes_untrusted none absent applicable).mpr ((implicitStatus_pass base).mpr ?_)
    exact ⟨rests.implicit dimension applicable, fun same => rests.completed (same ▸ applicable)⟩
  · rintro ⟨proves, none⟩
    obtain ⟨finished, supported, absence⟩ := (base_iff distinct).mp ⟨proves.uncontradicted, proves.base⟩
    have absent := ((absence_iff distinct).mpr absence).1
    have passes (dimension : QualityDimension)
        (applicable : dimension ∈ requirement.qualityDimensions.val) :=
      (implicitStatus_pass proves.base).mp
        ((passes_untrusted none absent applicable).mp (proves.passes dimension applicable))
    exact ⟨supported, absence, finished, fun dimension applicable => (passes dimension applicable).1,
      fun applicable => (passes _ applicable).2 rfl, (trusted_nil distinct).mp none⟩

end

/-- **When nothing is proven on untrusted evidence**: the drift blocks, or no requirement rests on the
builder. -/
theorem trustworthyProof_iff (returned : evaluateResult sha input = .ok (trace, evaluation)) :
    TrustworthyProof input trace evaluation ↔ input.driftBlocks = true ∨
      ∀ requirement ∈ input.successDefinition.requirements.val,
        ¬ RestsOnBuilder input.toTraceInput requirement := by
  obtain ⟨run⟩ := evaluateResult_ok.mp returned
  have distinct := run.admissible.distinct
  constructor
  · intro trustworthy
    by_contra against
    simp only [not_or, Bool.not_eq_true, not_forall, not_not] at against
    obtain ⟨clear, requirement, required, rests⟩ := against
    obtain ⟨proves, none⟩ := (restsOnBuilder_iff distinct).mp rests
    obtain ⟨entry, _, traced⟩ := (buildTrace_ok run.traced).1 requirement required
    obtain ⟨member, proven⟩ := run.proven_entry.mpr ⟨clear, requirement, required, traced, proves⟩
    obtain ⟨ref, cited, item, evidenced, trusted⟩ := trustworthy.entries entry member proven
    rw [(traceEntry_ok traced).2.1, mem_citedRefs distinct] at cited
    rw [rests.untrusted ref item cited evidenced] at trusted
    cases trusted
  · intro condition
    have trusted {requirement : Requirement} (clear : input.driftBlocks = false)
        (required : requirement ∈ input.successDefinition.requirements.val)
        (proves : input.Proves requirement) : ∃ item, item ∈ input.trusted requirement := by
      refine List.exists_mem_of_ne_nil _ fun none => ?_
      rcases condition with blocks | upright
      · rw [clear] at blocks
        cases blocks
      · exact upright requirement required ((restsOnBuilder_iff distinct).mpr ⟨proves, none⟩)
    constructor
    · intro entry member proven
      obtain ⟨clear, requirement, required, traced, proves⟩ := run.proven_entry.mp ⟨member, proven⟩
      obtain ⟨item, listed⟩ := trusted clear required proves
      obtain ⟨ref, cited, evidenced, accepted⟩ := (mem_trusted distinct).mp listed
      rw [(traceEntry_ok traced).2.1]
      exact ⟨ref, (mem_citedRefs distinct).mpr cited, item, evidenced, accepted⟩
    · intro untrusted proven
      obtain ⟨clear, _, proves⟩ := run.decision_proven.mp proven
      obtain ⟨requirement, required⟩ :=
        List.exists_mem_of_ne_nil _ input.successDefinition.requirements.property
      obtain ⟨item, listed⟩ := trusted clear required (proves requirement required)
      obtain ⟨_, _, evidenced, accepted⟩ := (mem_trusted distinct).mp listed
      rw [untrusted item evidenced.1] at accepted
      cases accepted

theorem trustworthyProof_verified : ∃ trace evaluation,
    evaluateResult sha256 (smallBuild sha256 .human [] []) = .ok (trace, evaluation) ∧
      (TrustworthyProof (smallBuild sha256 .human [] []) trace evaluation ↔
        (smallBuild sha256 .human [] []).driftBlocks = true ∨
          ∀ requirement ∈ (smallBuild sha256 .human [] []).successDefinition.requirements.val,
            ¬ RestsOnBuilder (smallBuild sha256 .human [] []).toTraceInput requirement) := by
  obtain ⟨trace, evaluation, returned⟩ := smallBuild_returns sha256 .human [] []
    List.nodup_nil rfl
  exact ⟨trace, evaluation, returned, trustworthyProof_iff returned⟩

/-- Evidence that the builder collected proves a build. -/
theorem builder_proves : ∃ trace evaluation,
    evaluateResult sha256 (smallBuild sha256 .codex [] []) = .ok (trace, evaluation) ∧
      (∀ item ∈ (smallBuild sha256 .codex [] []).evidence, isTrustedEvidence item = false) ∧
      evaluation.decision = .proven ∧
      ¬ TrustworthyProof (smallBuild sha256 .codex [] []) trace evaluation := by
  obtain ⟨trace, evaluation, returned, proven⟩ := smallBuild_proven sha256 .codex
    (smallBuild_nothingProhibited sha256 .codex) List.nodup_nil rfl
  have untrusted : ∀ item ∈ (smallBuild sha256 .codex [] []).evidence,
      isTrustedEvidence item = false := List.forall_mem_singleton.mpr rfl
  exact ⟨trace, evaluation, returned, untrusted, proven,
    fun trustworthy => trustworthy.decision untrusted proven⟩

end Audisor.Aflow
