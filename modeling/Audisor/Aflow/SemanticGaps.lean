/-
**Which semantic gaps reach the decision.**

* `Gap` — what the built-in rules look for: an assumption without substance, and a validation that
  cannot satisfy its proof.
* `mem_candidates` — the built-in candidates, one for each gap.
* `assumption_accepted`, `environment_accepted`, `evidence_accepted` — which of them are accepted.
* **`gaps_reported`** — where no check objects, every gap is reported exactly when the request has
  some evidence, or no gap, and no validation leaves out the environment that its proof requires.
-/

import Audisor.Aflow.Candidates

namespace Audisor.Aflow

open Json

variable {sha : Sha256} {request : AnalysisRequest}

/-! ### Gaps -/

/-- A validation of the plan and its proof. -/
structure Exercises (request : AnalysisRequest) (validation : Validation)
    (proof : ProofObligation) : Prop where
  listed : validation ∈ request.plan.validations.val
  obliged : proof ∈ request.successDefinition.proofObligations.val
  named : validation.proofId = proof.proofId

/-- A proof requires an environment that the validation does not have. -/
def Elsewhere (validation : Validation) (proof : ProofObligation) : Prop :=
  ∃ required, proof.requiredEnvironment = some required ∧
    validation.requiredEnvironment ≠ some required

/-- A proof requires a type of evidence, a proof type or an executor that the validation does not
have. -/
def FallsShort (validation : Validation) (proof : ProofObligation) : Prop :=
  (∃ type ∈ SemanticChecks.requiredTypes proof, type ∉ validation.evidenceExpected.val) ∨
    validation.proofType ≠ proof.proofType ∨ validation.executor ≠ proof.executor

/-- **A semantic gap of a request**, and the id of the finding on it. -/
inductive Gap (request : AnalysisRequest) : GapType → String → Prop where
  | assumption {assumption : Assumption} (listed : assumption ∈ request.plan.assumptions)
      (unsubstantiated : assumption.status = .unsubstantiated) :
      Gap request .unsupportedAssumption
        ("semantic.assumption." ++ assumption.assumptionId.val)
  | environment {validation : Validation} {proof : ProofObligation}
      (exercises : Exercises request validation proof) (elsewhere : Elsewhere validation proof) :
      Gap request .outputEnvironmentGap
        ("semantic.environment." ++ validation.validationId.val)
  | evidence {validation : Validation} {proof : ProofObligation}
      (exercises : Exercises request validation proof) (short : FallsShort validation proof) :
      Gap request .validationEvidenceGap
        ("semantic.evidence." ++ validation.validationId.val)

/-! ### The candidates -/

namespace SemanticChecks

theorem missedEnvironment_eq_some {validation : Validation} {proof : ProofObligation}
    {required : Words} :
    missedEnvironment validation proof = some required ↔
      proof.requiredEnvironment = some required ∧
        validation.requiredEnvironment ≠ some required := by
  rw [missedEnvironment, Option.filter_eq_some_iff, decide_eq_true_eq]

theorem fallsShort_iff {validation : Validation} {proof : ProofObligation} :
    (!(omittedTypes validation proof).isEmpty || proofMismatch validation proof) = true ↔
      FallsShort validation proof := by
  have omitted : omittedTypes validation proof = [] ↔
      ∀ type ∈ requiredTypes proof, type ∈ validation.evidenceExpected.val := by
    rw [omittedTypes, ← List.length_eq_zero_iff, List.length_insertionSort,
      List.length_eq_zero_iff, List.map_eq_nil_iff, List.filter_eq_nil_iff]
    simp
  rw [Bool.or_eq_true, Bool.not_eq_true', List.isEmpty_eq_false_iff, Ne, omitted, proofMismatch,
    FallsShort]
  simp

theorem mem_validationCandidates {validation : Validation} {proof : ProofObligation} {index : Nat}
    {candidate : Finding}
    (found : byKey request.successDefinition.proofObligations.val ProofObligation.proofId
      validation.proofId = some proof) :
    candidate ∈ validationCandidates request validation index ↔
      (∃ required, (proof.requiredEnvironment = some required ∧
          validation.requiredEnvironment ≠ some required) ∧
        candidate = environmentCandidate request validation index required) ∨
      (FallsShort validation proof ∧
        candidate = evidenceCandidate request validation index (omittedTypes validation proof)) := by
  rw [validationCandidates, found, List.mem_append]
  refine or_congr ?_ ?_
  · simp only [List.mem_map, Option.mem_toList, missedEnvironment_eq_some, eq_comm]
  · rw [← fallsShort_iff]
    split
    · rename_i short
      rw [List.mem_singleton, and_iff_right short]
    · rename_i enough
      exact iff_of_false List.not_mem_nil fun short => enough short.1

/-- **The built-in candidates**: one on each gap. -/
theorem mem_candidates {candidate : Finding}
    (distinct : (request.successDefinition.proofObligations.val.map
      ProofObligation.proofId).Nodup) :
    candidate ∈ candidates request ↔
      (∃ index assumption, request.plan.assumptions[index]? = some assumption ∧
        assumption.status = .unsubstantiated ∧
        candidate = assumptionCandidate request assumption index) ∨
      (∃ index validation proof, request.plan.validations.val[index]? = some validation ∧
        Exercises request validation proof ∧
        ((∃ required, (proof.requiredEnvironment = some required ∧
            validation.requiredEnvironment ≠ some required) ∧
          candidate = environmentCandidate request validation index required) ∨
        (FallsShort validation proof ∧ candidate =
          evidenceCandidate request validation index (omittedTypes validation proof)))) := by
  rw [candidates, List.mem_append]
  refine or_congr ?_ ?_
  · rw [assumptionCandidates, objections, List.mem_filterMap]
    constructor
    · rintro ⟨⟨assumption, index⟩, member, proposed⟩
      simp only [Option.ite_none_right_eq_some, Option.some.injEq] at proposed
      obtain ⟨unsubstantiated, rfl⟩ := proposed
      exact ⟨index, assumption, List.mk_mem_zipIdx_iff_getElem?.mp member, unsubstantiated, rfl⟩
    · rintro ⟨index, assumption, found, unsubstantiated, rfl⟩
      exact ⟨(assumption, index), List.mk_mem_zipIdx_iff_getElem?.mpr found,
        if_pos unsubstantiated⟩
  · rw [List.mem_flatMap]
    constructor
    · rintro ⟨⟨validation, index⟩, member, proposed⟩
      have found := List.mk_mem_zipIdx_iff_getElem?.mp member
      cases known : byKey request.successDefinition.proofObligations.val ProofObligation.proofId
          validation.proofId with
      | none =>
        have listed : candidate ∈ validationCandidates request validation index := proposed
        rw [validationCandidates, known] at listed
        cases listed
      | some proof =>
        obtain ⟨obliged, own⟩ := byKey_some known
        exact ⟨index, validation, proof, found, ⟨List.mem_of_getElem? found, obliged, own.symm⟩,
          (mem_validationCandidates known).mp proposed⟩
    · rintro ⟨index, validation, proof, found, exercises, proposed⟩
      have known := byKey_mem distinct exercises.obliged
      rw [← exercises.named] at known
      exact ⟨(validation, index), List.mk_mem_zipIdx_iff_getElem?.mpr found,
        (mem_validationCandidates known).mpr proposed⟩

end SemanticChecks

/-! ### What the checks leave no doubt about -/

theorem EvidenceChecks.check_distinct (clean : EvidenceChecks.check sha request = []) :
    (request.evidence.map Evidence.evidenceId).Nodup := by
  simp only [EvidenceChecks.check, List.append_eq_nil_iff, List.map_eq_nil_iff] at clean
  exact ids_nodup.mp (duplicates_eq_nil.mp clean.1.1.1)

theorem EvidenceChecks.check_assumption (clean : EvidenceChecks.check sha request = [])
    {assumption : Assumption} (listed : assumption ∈ request.plan.assumptions) :
    ∀ ref ∈ assumption.evidenceRefs.getD [], resolves request ref = true := by
  intro ref stated
  simp only [EvidenceChecks.check, List.append_eq_nil_iff, objections_eq_nil] at clean
  obtain ⟨index, found⟩ := List.mem_iff_getElem?.mp listed
  have referred : ("/plan/assumptions/" ++ numeral index ++ "/evidence_refs", ref) ∈
      references request.plan := by
    refine List.mem_append_left _ (List.mem_append_right _ (List.mem_flatMap.mpr
      ⟨(assumption, index), List.mk_mem_zipIdx_iff_getElem?.mpr found, ?_⟩))
    exact List.mem_map_of_mem stated
  obtain ⟨position, present⟩ := List.mem_iff_getElem?.mp referred
  have resolved := clean.2 (_, position) (List.mk_mem_zipIdx_iff_getElem?.mpr present)
  by_contra unresolved
  rw [if_neg unresolved] at resolved
  cases resolved

theorem CoverageChecks.check_validation (clean : CoverageChecks.check request = [])
    {validation : Validation} (listed : validation ∈ request.plan.validations.val) :
    ∀ id ∈ validation.requirementIds.val,
      id ∈ request.successDefinition.requirements.val.map Requirement.requirementId := by
  intro id named
  simp only [CoverageChecks.check, List.append_eq_nil_iff, unknownRequirements,
    List.map_eq_nil_iff, List.zipIdx_eq_nil_iff, List.filter_eq_nil_iff] at clean
  obtain ⟨index, found⟩ := List.mem_iff_getElem?.mp listed
  have referred : (id, "/plan/validations/" ++ numeral index ++ "/requirement_ids") ∈
      requirementReferences request.plan :=
    List.mem_append_right _ (List.mem_flatMap.mpr
      ⟨(validation, index), List.mk_mem_zipIdx_iff_getElem?.mpr found, List.mem_map_of_mem named⟩)
  have known := clean.1.1.1 _ referred
  simpa [requirementIds] using known

/-- **The evidence that a check cites resolves when the request has some evidence.** -/
theorem requestEvidenceRef_resolves (distinct : (request.evidence.map Evidence.evidenceId).Nodup)
    (preferred : Option Identifier) :
    EvidenceChecks.resolves request (requestEvidenceRef request preferred) = true ↔
      request.evidence ≠ [] := by
  have item {item : Evidence} (listed : item ∈ request.evidence) :
      EvidenceChecks.resolves request item.ref = true := by
    have found := byKey_mem distinct listed
    rw [EvidenceChecks.resolves]
    simp [Evidence.ref, found]
  rw [requestEvidenceRef]
  split
  · rename_i chosen found
    obtain ⟨id, _, preferred⟩ := Option.bind_eq_some_iff.mp found
    have listed := List.mem_of_find?_eq_some preferred
    exact iff_of_true (item listed) (List.ne_nil_of_mem listed)
  · split
    · rename_i first rest spelled
      refine iff_of_true (item ?_) ?_
      · rw [spelled]
        exact List.mem_cons_self
      · rw [spelled]
        exact List.cons_ne_nil _ _
    · rename_i empty
      refine iff_of_false ?_ (not_not_intro empty)
      simp [EvidenceChecks.resolves, empty, byKey]

/-! ### Locations -/

theorem isJsonPointer_location {front last : String} {rest : List Char}
    (slash : front.toList = '/' :: rest) (absent : '~' ∉ rest) (index : Nat)
    (absent' : '~' ∉ last.toList) : isJsonPointer (front ++ numeral index ++ last) = true := by
  have spelled : (front ++ numeral index ++ last).toList =
      '/' :: (rest ++ decimal index ++ last.toList) := by
    simp [String.toList_append, slash, numeral]
  refine isJsonPointer_plain spelled fun member => ?_
  rw [List.mem_append, List.mem_append] at member
  obtain (member | member) | member := member
  · exact absent member
  · exact (plain_decimal index).2 member
  · exact absent' member

theorem planScoped_assumption (index : Nat) :
    planScoped ("/plan/assumptions/" ++ numeral index) =
      pathText ["assumptions".toList, decimal index] := by
  have spelled : "/plan/assumptions/" ++ numeral index =
      "/plan" ++ ("/assumptions/" ++ numeral index) := by
    rw [← String.append_assoc]
    rfl
  rw [spelled, planScoped_plan, String.toList_append, numeral, String.toList_ofList, pathText]
  simp

theorem planScoped_validation {last : String} {inner : String} (spelled : last = "/" ++ inner)
    (index : Nat) : planScoped ("/plan/validations/" ++ numeral index ++ last) =
      pathText ["validations".toList, decimal index, inner.toList] := by
  have split : "/plan/validations/" ++ numeral index ++ last =
      "/plan" ++ ("/validations/" ++ numeral index ++ last) := by
    rw [← String.append_assoc, ← String.append_assoc]
    rfl
  rw [split, planScoped_plan, spelled, numeral, pathText]
  simp [String.toList_append]

theorem resolves_assumption {index : Nat} {assumption : Assumption}
    (found : request.plan.assumptions[index]? = some assumption) :
    resolvePointer request.plan.toJson (planScoped ("/plan/assumptions/" ++ numeral index)) =
      true := by
  have plain : Plain "assumptions".toList := ⟨by decide, by decide⟩
  rw [planScoped_assumption, Plan.toJson, resolves_item (by decide) plain rfl, decide_eq_true_eq,
    List.length_map]
  exact (List.getElem?_eq_some_iff.mp found).1

theorem resolves_validation {index : Nat} {validation : Validation} {own : Dict}
    {last inner : String} (found : request.plan.validations.val[index]? = some validation)
    (document : validation.toJson = .obj own) (spelled : last = "/" ++ inner)
    (plain' : Plain inner.toList) :
    resolvePointer request.plan.toJson
      (planScoped ("/plan/validations/" ++ numeral index ++ last)) = hasKey own inner := by
  have plain : Plain "validations".toList := ⟨by decide, by decide⟩
  have listed : (request.plan.validations.val.map Validation.toJson)[index]? = some (.obj own) := by
    rw [List.getElem?_map, found, Option.map_some, document]
  rw [planScoped_validation spelled, Plan.toJson]
  exact resolves_field (by decide) plain plain' rfl listed

theorem resolves_environment {index : Nat} {validation : Validation}
    (found : request.plan.validations.val[index]? = some validation) :
    resolvePointer request.plan.toJson
        (planScoped ("/plan/validations/" ++ numeral index ++ "/required_environment")) =
      validation.requiredEnvironment.isSome := by
  rw [@resolves_validation request index validation _ "/required_environment"
    "required_environment" found rfl rfl
    ⟨by decide, by decide⟩]
  cases validation.requiredEnvironment <;> simp [hasKey, get?, optional]

theorem resolves_expected {index : Nat} {validation : Validation}
    (found : request.plan.validations.val[index]? = some validation) :
    resolvePointer request.plan.toJson
        (planScoped ("/plan/validations/" ++ numeral index ++ "/evidence_expected")) = true := by
  rw [@resolves_validation request index validation _ "/evidence_expected"
    "evidence_expected" found rfl rfl
    ⟨by decide, by decide⟩]
  cases validation.requiredEnvironment <;> simp [hasKey, get?, optional]

/-! ### Which candidates are accepted -/

/-- **A built-in candidate is accepted** when its location and its evidence resolve. -/
theorem makeFinding_accepted {findingId : String} {gap : GapType} {location claim : String}
    {evidence : List EvidenceRef} {options : FindingOptions}
    (pointer : isJsonPointer location = true) (specific : Specific claim) (cites : evidence ≠ [])
    (stated : options.Stated)
    (known : ∀ id ∈ options.requirementReferences,
      id ∈ request.successDefinition.requirements.val.map Requirement.requirementId)
    (named : isIdentifier findingId = true) :
    substantiated request true
        (makeFinding findingId gap .semantic [location] claim evidence options) = true ↔
      resolvePointer request.plan.toJson (planScoped location) = true ∧
        ∀ ref ∈ evidence, EvidenceChecks.resolves request ref = true := by
  have claimed : claim ≠ "" := by
    rintro rfl
    exact specific (Or.inr (by decide))
  have admitted : (makeFinding findingId gap .semantic [location] claim evidence options).admitted =
      true := by
    rw [makeFinding_admitted (List.cons_ne_nil _ _) (List.nodup_singleton _)
      (List.forall_mem_singleton.mpr pointer) claimed cites stated]
    exact named
  rw [substantiated_iff admitted rfl specific known cites (List.cons_ne_nil _ _)]
  refine and_congr_left' ?_
  exact List.forall_mem_singleton

/-- **The candidate on an assumption is accepted when the request has some evidence.** -/
theorem assumption_accepted (clean : EvidenceChecks.check sha request = []) {index : Nat}
    {assumption : Assumption} (found : request.plan.assumptions[index]? = some assumption)
    (named : isIdentifier (SemanticChecks.assumptionCandidate request assumption index).findingId =
      true) :
    substantiated request true (SemanticChecks.assumptionCandidate request assumption index) =
      true ↔ request.evidence ≠ [] := by
  have pointer : isJsonPointer ("/plan/assumptions/" ++ numeral index) = true := by
    have written := @isJsonPointer_location "/plan/assumptions/" "" _ rfl (by decide) index
      List.not_mem_nil
    rwa [String.append_empty] at written
  have claimed : ("Assumption " ++ assumption.assumptionId.val ++
      " is explicitly unsubstantiated: " ++ assumption.statement.val).toList = 'A' ::
        ("ssumption ".toList ++ assumption.assumptionId.val.toList ++
          " is explicitly unsubstantiated: ".toList ++ assumption.statement.val.toList) := by
    simp [String.toList_append]
  have specific := specific_of_head claimed (by
    rw [← String.length_toList, claimed]
    simp only [List.length_cons, List.length_append]
    have long : " is explicitly unsubstantiated: ".toList.length = 32 := rfl
    omega)
  have distinct := EvidenceChecks.check_distinct clean
  have resolved := EvidenceChecks.check_assumption clean (List.mem_of_getElem? found)
  have cites : (if (assumption.evidenceRefs.getD []).isEmpty then [requestEvidenceRef request]
      else assumption.evidenceRefs.getD []) ≠ [] := by
    split
    · exact List.cons_ne_nil _ _
    · rename_i stated
      exact fun empty => stated (List.isEmpty_iff.mpr empty)
  refine (makeFinding_accepted pointer specific cites (by constructor <;> simp)
    (List.forall_mem_nil _) named).trans ?_
  rw [and_iff_right (resolves_assumption found)]
  split
  · rw [List.forall_mem_singleton, requestEvidenceRef_resolves distinct]
  · rename_i stated
    refine iff_of_true resolved fun empty => ?_
    obtain ⟨ref, member⟩ := List.exists_mem_of_ne_nil _ fun none =>
      stated (List.isEmpty_iff.mpr none)
    have absent := resolved ref member
    simp [EvidenceChecks.resolves, empty, byKey] at absent

theorem specific_validation {claim : String} (id : Identifier) {middle : String}
    (spelled : claim = "Validation " ++ id.val ++ middle ++ ".")
    (long : 4 ≤ middle.length) : Specific claim := by
  have claimed : claim.toList =
      'V' :: ("alidation ".toList ++ id.val.toList ++ middle.toList) ++ ['.'] := by
    simp [spelled, String.toList_append]
  refine specific_of_last claimed ?_
  rw [← String.length_toList, claimed]
  simp only [List.length_cons, List.length_append, String.length_toList]
  have start : "alidation ".length = 10 := rfl
  omega

/-- **The candidate on an environment is accepted** when the request has some evidence, and the
validation states its environment. -/
theorem environment_accepted (evidence : EvidenceChecks.check sha request = [])
    (coverage : CoverageChecks.check request = []) {index : Nat} {validation : Validation}
    (found : request.plan.validations.val[index]? = some validation) (required : Words)
    (named : isIdentifier
      (SemanticChecks.environmentCandidate request validation index required).findingId = true) :
    substantiated request true
        (SemanticChecks.environmentCandidate request validation index required) = true ↔
      validation.requiredEnvironment ≠ none ∧ request.evidence ≠ [] := by
  have specific := @specific_validation
    ("Validation " ++ validation.validationId.val ++ " uses " ++
      validation.requiredEnvironment.elim "an unspecified environment" Subtype.val ++
      " while proof " ++ validation.proofId.val ++ " requires " ++ required.val ++ ".")
    validation.validationId
    (" uses " ++ (validation.requiredEnvironment.elim "an unspecified environment" Subtype.val ++
      (" while proof " ++ (validation.proofId.val ++ (" requires " ++ required.val)))))
    (by simp only [String.append_assoc])
    (by
      rw [String.length_append]
      have start : " uses ".length = 6 := rfl
      omega)
  refine (makeFinding_accepted (isJsonPointer_location rfl (by decide) index (by decide)) specific
    (List.cons_ne_nil _ _) (by constructor <;> simp)
    (CoverageChecks.check_validation coverage (List.mem_of_getElem? found)) named).trans ?_
  rw [resolves_environment found, List.forall_mem_singleton,
    requestEvidenceRef_resolves (EvidenceChecks.check_distinct evidence), Option.isSome_iff_ne_none]

/-- **The candidate on the evidence of a validation is accepted when the request has some
evidence.** -/
theorem evidence_accepted (evidence : EvidenceChecks.check sha request = [])
    (coverage : CoverageChecks.check request = []) {index : Nat} {validation : Validation}
    (found : request.plan.validations.val[index]? = some validation) (omitted : List String)
    (named : isIdentifier
      (SemanticChecks.evidenceCandidate request validation index omitted).findingId = true) :
    substantiated request true
        (SemanticChecks.evidenceCandidate request validation index omitted) = true ↔
      request.evidence ≠ [] := by
  have specific := @specific_validation
    ("Validation " ++ validation.validationId.val ++ " " ++
      (if omitted.isEmpty then "changes the proof type or executor boundary"
        else "omits required evidence types " ++ wordsRepr omitted) ++
      " relative to proof " ++ validation.proofId.val ++ ".")
    validation.validationId
    (" " ++ ((if omitted.isEmpty then "changes the proof type or executor boundary"
        else "omits required evidence types " ++ wordsRepr omitted) ++
      (" relative to proof " ++ validation.proofId.val)))
    (by simp only [String.append_assoc])
    (by
      simp only [String.length_append]
      have start : " relative to proof ".length = 19 := rfl
      omega)
  refine (makeFinding_accepted (isJsonPointer_location rfl (by decide) index (by decide)) specific
    (List.cons_ne_nil _ _) (by constructor <;> simp)
    (CoverageChecks.check_validation coverage (List.mem_of_getElem? found)) named).trans ?_
  rw [and_iff_right (resolves_expected found), List.forall_mem_singleton,
    requestEvidenceRef_resolves (EvidenceChecks.check_distinct evidence)]

/-! ### The decision -/

theorem isReserved_iff {finding : Finding} :
    isReserved finding = true ↔ "semantic.".toList <+: finding.findingId.toList := by
  rw [isReserved, List.isPrefixOf_iff_prefix]

theorem gap_reserved {gap : GapType} {id : String} (found : Gap request gap id) :
    "semantic.".toList <+: id.toList := by
  cases found <;>
  · rw [String.toList_append]
    exact List.IsPrefix.trans ⟨_, rfl⟩ (List.prefix_append _ _)

/-- **What a returned decision reports** where no check objects. -/
theorem analyze_reports {reviewer : Option Reviewer} {decidedAt : String}
    {decision : AnalysisDecision} (clean : deterministicFindings sha request = [])
    (returned : analyze sha request reviewer decidedAt = .ok decision) :
    (∀ candidate ∈ SemanticChecks.candidates request,
      isIdentifier candidate.findingId = true) ∧
    (∀ finding, finding ∈ decision.findings ∧ isReserved finding = true ↔
      finding ∈ SemanticChecks.candidates request ∧ isReserved finding = true ∧
        substantiated request true finding = true) ∧
    decision.executionReady = decision.findings.isEmpty := by
  have concluded := (analyze_ok.mp returned).2
  have found : findingsOf sha request reviewer =
      reviewFindings request (reviewer.getD nullReviewer request) := by
    rw [findingsOf, clean]
    rfl
  rw [found] at concluded
  have accepted : ∀ finding ∈ (substantiate (SemanticChecks.candidates request) request true).1,
      finding ∈ (reviewFindings request (reviewer.getD nullReviewer request)).1 :=
    fun finding member => List.mem_append_left _ member
  have refused : ∀ entry ∈ (substantiate (SemanticChecks.candidates request) request true).2,
      entry ∈ (reviewFindings request (reviewer.getD nullReviewer request)).2 :=
    fun entry member => List.mem_append_right _ (List.mem_append_left _ member)
  refine ⟨conclude_named concluded accepted refused, fun finding => ?_, ?_⟩
  · obtain ⟨_, _, rfl⟩ := conclude_ok.mp concluded
    constructor
    · rintro ⟨reported, reserved⟩
      obtain own | foreign := List.mem_append.mp reported
      · obtain ⟨proposed, substantiated⟩ := List.mem_filter.mp own
        exact ⟨proposed, reserved, substantiated⟩
      · -- a reviewer's candidate that takes such an id is rejected
        have free := (List.mem_filter.mp (List.mem_filter.mp foreign).1).2
        rw [reserved] at free
        cases free
    · rintro ⟨proposed, reserved, substantiated⟩
      exact ⟨accepted finding (List.mem_filter.mpr ⟨proposed, substantiated⟩), reserved⟩
  · obtain ⟨_, _, rfl⟩ := conclude_ok.mp concluded
    rfl

/-- **Every gap is reported**, and a plan with a gap is not ready, exactly when the request has some
evidence, or no gap, and every validation outside the environment of its proof states its own. -/
theorem gaps_reported {reviewer : Option Reviewer} {decidedAt : String}
    {decision : AnalysisDecision} (clean : deterministicFindings sha request = [])
    (returned : analyze sha request reviewer decidedAt = .ok decision) :
    (∀ gap id, Gap request gap id →
      (∃ finding ∈ decision.findings, finding.findingId = id ∧ finding.gapType = gap) ∧
        decision.executionReady = false) ↔
    (request.evidence = [] → ∀ gap id, ¬ Gap request gap id) ∧
    ∀ validation proof, Exercises request validation proof → Elsewhere validation proof →
      validation.requiredEnvironment ≠ none := by
  obtain ⟨named, reports, readiness⟩ := analyze_reports clean returned
  obtain ⟨domain, checks⟩ := deterministicFindings_eq_nil.mp clean
  obtain ⟨evidence, _, coverage, _⟩ := checkFindings_eq_nil.mp checks
  obtain ⟨success, plan⟩ := domainFindings_eq_nil.mp domain
  have proofs : (request.successDefinition.proofObligations.val.map
      ProofObligation.proofId).Nodup := by
    simp only [SuccessDefinition.validate, then_ok, unique_ok] at success
    exact ids_nodup.mp success.2.2.2.2.1
  have validations : (request.plan.validations.val.map Validation.validationId).Nodup := by
    simp only [Plan.validate, then_ok, unique_ok] at plan
    exact ids_nodup.mp plan.2.2.1
  have candidates {candidate : Finding} := @SemanticChecks.mem_candidates request candidate proofs
  constructor
  · intro all
    constructor
    · intro empty gap id found
      obtain ⟨⟨finding, reported, rfl, rfl⟩, _⟩ := all gap id found
      have reserved := isReserved_iff.mpr (gap_reserved found)
      obtain ⟨proposed, _, accepted⟩ := (reports finding).mp ⟨reported, reserved⟩
      obtain ⟨index, assumption, present, _, rfl⟩ | ⟨index, validation, proof, present, _,
        ⟨required, _, rfl⟩ | ⟨_, rfl⟩⟩ := candidates.mp proposed
      · exact (assumption_accepted evidence present (named _ proposed)).mp accepted empty
      · exact ((environment_accepted evidence coverage present required (named _ proposed)).mp
          accepted).2 empty
      · exact (evidence_accepted evidence coverage present _ (named _ proposed)).mp accepted empty
    · intro validation proof exercises elsewhere
      have found : Gap request _ _ := Gap.environment exercises elsewhere
      obtain ⟨⟨finding, reported, own, kind⟩, _⟩ := all _ _ found
      have reserved : isReserved finding = true := by
        rw [isReserved_iff, own]
        exact gap_reserved found
      obtain ⟨proposed, _, accepted⟩ := (reports finding).mp ⟨reported, reserved⟩
      obtain ⟨index, assumption, _, _, rfl⟩ | ⟨index, other, proof, present, _,
        ⟨required, _, rfl⟩ | ⟨_, rfl⟩⟩ := candidates.mp proposed
      · cases kind
      · -- the ids of the validations are unique, so the finding is on this validation
        have same : other.validationId = validation.validationId :=
          Subtype.val_injective (String.append_right_inj _ |>.mp own)
        have equal := List.inj_on_of_nodup_map validations (List.mem_of_getElem? present)
          exercises.listed same
        rw [← equal]
        exact ((environment_accepted evidence coverage present required (named _ proposed)).mp
          accepted).1
      · cases kind
  · rintro ⟨some, stated⟩ gap id found
    have nonempty : request.evidence ≠ [] := fun empty => some empty gap id found
    have reported : ∃ finding ∈ decision.findings, finding.findingId = id ∧
        finding.gapType = gap := by
      have reserved := gap_reserved found
      cases found with
      | assumption listed unsubstantiated =>
        obtain ⟨index, present⟩ := List.mem_iff_getElem?.mp listed
        have proposed := candidates.mpr (Or.inl ⟨index, _, present, unsubstantiated, rfl⟩)
        exact ⟨_, ((reports _).mpr ⟨proposed, isReserved_iff.mpr reserved,
          (assumption_accepted evidence present (named _ proposed)).mpr nonempty⟩).1, rfl, rfl⟩
      | environment exercises elsewhere =>
        obtain ⟨index, present⟩ := List.mem_iff_getElem?.mp exercises.listed
        have both := elsewhere
        obtain ⟨required, requires⟩ := both
        have proposed := candidates.mpr (Or.inr ⟨index, _, _, present, exercises,
          Or.inl ⟨required, requires, rfl⟩⟩)
        exact ⟨_, ((reports _).mpr ⟨proposed, isReserved_iff.mpr reserved,
          (environment_accepted evidence coverage present required (named _ proposed)).mpr
            ⟨stated _ _ exercises elsewhere, nonempty⟩⟩).1, rfl, rfl⟩
      | evidence exercises short =>
        obtain ⟨index, present⟩ := List.mem_iff_getElem?.mp exercises.listed
        have proposed := candidates.mpr (Or.inr ⟨index, _, _, present, exercises,
          Or.inr ⟨short, rfl⟩⟩)
        exact ⟨_, ((reports _).mpr ⟨proposed, isReserved_iff.mpr reserved,
          (evidence_accepted evidence coverage present _ (named _ proposed)).mpr nonempty⟩).1,
          rfl, rfl⟩
    refine ⟨reported, ?_⟩
    obtain ⟨finding, member, _⟩ := reported
    rw [readiness]
    exact List.isEmpty_eq_false_iff.mpr (List.ne_nil_of_mem member)

/-! ### A supposed premise -/

def supposition : Assumption where
  assumptionId := identifier "assumption-1"
  statement := word "It can run."
  status := .unsubstantiated

/-- A plan that supposes something, and says that nothing substantiates it. -/
def supposing (evidence : List Evidence) : Variant := { assumptions := [supposition], evidence }

theorem supposing_gap (evidence : List Evidence) :
    Gap ((supposing evidence).request sha256) .unsupportedAssumption
      "semantic.assumption.assumption-1" :=
  @Gap.assumption ((supposing evidence).request sha256) supposition (List.mem_singleton_self _) rfl

theorem supposing_clean {evidence : List Evidence}
    (sealed : ∀ item ∈ evidence, verifyHash sha256 item.contentHash item.toJson = true)
    (distinct : (evidence.map Evidence.evidenceId).Nodup) :
    deterministicFindings sha256 ((supposing evidence).request sha256) = [] := by
  have sound : (supposing evidence).Sound sha256 :=
    { proofs := List.nodup_singleton _, independent := rfl, assumptions := List.nodup_singleton _
      unsupported := List.forall_mem_singleton.mpr rfl, sealed, evidence := distinct }
  have below : AuthorityChecks.within (supposing evidence).path (supposing evidence).target = true :=
    List.isPrefixOf_iff_prefix.mpr (List.prefix_refl _)
  exact sound.clean (List.isEmpty_iff.mp rfl) (Variant.authorized below (List.forall_mem_nil _))

theorem supposing_candidates (evidence : List Evidence) :
    SemanticChecks.candidates ((supposing evidence).request sha256) =
      [SemanticChecks.assumptionCandidate ((supposing evidence).request sha256) supposition 0] := rfl

theorem supposing_named (evidence : List Evidence) : isIdentifier
    (SemanticChecks.assumptionCandidate ((supposing evidence).request sha256) supposition
      0).findingId = true :=
  (by decide : isIdentifier ("semantic.assumption." ++ "assumption-1") = true)

theorem supposing_review (evidence : List Evidence) :
    reviewFindings ((supposing evidence).request sha256)
        (nullReviewer ((supposing evidence).request sha256)) =
      substantiate [SemanticChecks.assumptionCandidate ((supposing evidence).request sha256)
        supposition 0] ((supposing evidence).request sha256) true := by
  rw [reviewFindings_nullReviewer, supposing_candidates]

def supposed : AnalysisRequest := (supposing [smallEvidence sha256 .codex]).request sha256

theorem supposed_clean : deterministicFindings sha256 supposed = [] :=
  supposing_clean (List.forall_mem_singleton.mpr (Evidence.seal_verifies sha256 _))
    (List.nodup_singleton _)

theorem supposed_analyzed (decidedAt : String) :
    analyze sha256 supposed none decidedAt = .ok (decisionOn sha256 supposed
      [SemanticChecks.assumptionCandidate supposed supposition 0] [] decidedAt) := by
  have checked :=
    (checkFindings_eq_nil.mp (deterministicFindings_eq_nil.mp supposed_clean).2).1
  have accepted := (@assumption_accepted sha256 supposed checked 0 supposition rfl
    (supposing_named _)).mpr (List.cons_ne_nil _ _)
  have review : reviewFindings supposed (nullReviewer supposed) =
      substantiate [SemanticChecks.assumptionCandidate supposed supposition 0] supposed true :=
    supposing_review _
  have found : findingsOf sha256 supposed none =
      ([SemanticChecks.assumptionCandidate supposed supposition 0], []) := by
    rw [findingsOf, supposed_clean]
    refine review.trans ?_
    rw [substantiate, List.filter_singleton, List.filter_singleton, accepted]
    rfl
  have reviewed : (nullReviewer supposed).admitted = true :=
    (by decide : (isIdentifier ("review." ++ "analysis-1") && true) = true)
  refine analyze_ok.mpr ⟨fun _ => reviewed, ?_⟩
  rw [found]
  exact conclude_ok.mpr ⟨⟨List.forall_mem_singleton.mpr (substantiated_admitted accepted),
    List.nodup_singleton _⟩, ⟨List.forall_mem_nil _, List.nodup_nil⟩, rfl⟩

theorem gaps_reported_supposed : ∃ decision,
    analyze sha256 supposed none "2026-01-01T00:00:00Z" = .ok decision ∧
    (∃ finding ∈ decision.findings, finding.findingId = "semantic.assumption.assumption-1" ∧
      finding.gapType = .unsupportedAssumption) ∧ decision.executionReady = false := by
  have stated : ∀ validation proof, Exercises supposed validation proof →
      Elsewhere validation proof → validation.requiredEnvironment ≠ none := by
    intro validation proof exercises ⟨required, requires, _⟩
    obtain rfl := List.mem_singleton.mp exercises.obliged
    cases requires
  have reported := (gaps_reported supposed_clean (supposed_analyzed "2026-01-01T00:00:00Z")).mpr
    ⟨fun empty => absurd empty (List.cons_ne_nil _ _), stated⟩
  exact ⟨_, supposed_analyzed _, reported _ _ (supposing_gap _)⟩

/-- **Without evidence the supposition is lost**, and the plan is ready. -/
theorem gap_unreported : ∃ decision,
    deterministicFindings sha256 ((supposing []).request sha256) = [] ∧
      analyze sha256 ((supposing []).request sha256) none "2026-01-01T00:00:00Z" = .ok decision ∧
      Gap ((supposing []).request sha256) .unsupportedAssumption
        "semantic.assumption.assumption-1" ∧
      decision.executionReady = true ∧ decision.findings = [] := by
  have clean : deterministicFindings sha256 ((supposing []).request sha256) = [] :=
    supposing_clean (List.forall_mem_nil _) List.nodup_nil
  have lost : reasons ((supposing []).request sha256) true
      (SemanticChecks.assumptionCandidate ((supposing []).request sha256) supposition 0) =
        ["evidence reference is absent or hash-mismatched: repository-1"] := rfl
  have review : reviewFindings ((supposing []).request sha256)
      (nullReviewer ((supposing []).request sha256)) = ([], [rejection
        ((supposing []).request sha256) true (SemanticChecks.assumptionCandidate
          ((supposing []).request sha256) supposition 0)]) := by
    rw [supposing_review, substantiate, List.filter_singleton, List.filter_singleton,
      substantiated, lost]
    rfl
  have stated : (rejection ((supposing []).request sha256) true (SemanticChecks.assumptionCandidate
      ((supposing []).request sha256) supposition 0)).reason ≠ "" := by
    rw [rejection, lost]
    decide
  have reviewed : (nullReviewer ((supposing []).request sha256)).admitted = true :=
    (by decide : (isIdentifier ("review." ++ "analysis-1") && true) = true)
  obtain ⟨decision, returned, ready, rfl⟩ := analyze_clean reviewed clean (by rw [review])
    (by rw [review]; exact List.forall_mem_singleton.mpr ⟨supposing_named [], stated⟩)
    (by rw [review]; exact List.nodup_singleton _) "2026-01-01T00:00:00Z"
  exact ⟨_, clean, returned, supposing_gap [], ready, rfl⟩

end Audisor.Aflow
