/-
**Which proofs a ready plan exercises, and which of its references resolve.**

* `covered`, `bound` — what the coverage checks leave no doubt about: the requirements that a
  validation names, and the proof that it exercises.
* **`ready_exercises`** — every blocking requirement has a proof that a validation of the requirement
  exercises. `ready_unexercised` — another proof of the requirement may be left out.
* `Resolved` — what the definition, the plan, the validations and the proofs name exists.
* `BlockingRows` — the coverage rows of blocking requirements list what exists, and each blocking requirement
  has a row, an action and a validation.
* `NothingDangling` — every coverage row lists what exists, and what it lists names its requirement.
* **`ready_resolved`** — a ready plan is resolved, with its blocking rows. **`ready_dangling`** — its other
  rows may list anything, and a blocking row may list an action that does not name its requirement.
-/

import Audisor.Aflow.ReadyPlans
import Audisor.Aflow.CleanRequests

namespace Audisor.Aflow

section

open Json

variable {sha : Sha256} {request : AnalysisRequest}

theorem byKey_of_dictValues {α κ : Type} [DecidableEq κ] {items : List α} {key : α → κ} {item : α}
    (listed : item ∈ dictValues items key) : item ∈ items := by
  obtain ⟨id, _, found⟩ := List.mem_filterMap.mp listed
  exact (byKey_some found).1

namespace CoverageChecks

theorem mem_blocking {success : SuccessDefinition} {requirement : Requirement}
    (required : requirement ∈ success.requirements.val)
    (priority : requirement.priority = .blocking) :
    requirement.requirementId ∈ blocking success := by
  rw [blocking, List.mem_insertionSort, List.mem_dedup]
  exact List.mem_map_of_mem (List.mem_filter.mpr ⟨required, by simpa using priority⟩)

theorem exercised {id : Identifier} (clean : requirementCoverage request id = []) :
    ∃ validation ∈ request.plan.validations.val, id ∈ validation.requirementIds.val := by
  rw [requirementCoverage] at clean
  split at clean
  · cases clean
  · have exercised := (List.append_eq_nil_iff.mp clean).2
    split at exercised
    · cases exercised
    · rename_i named
      rw [Bool.or_eq_true, not_or, List.isEmpty_iff, List.isEmpty_iff] at named
      obtain ⟨validation, member⟩ := List.exists_mem_of_ne_nil _ named.2
      rw [List.mem_filter, decide_eq_true_eq] at member
      exact ⟨validation, byKey_of_dictValues member.1, member.2⟩

theorem bound {validation : Validation} {index : Nat}
    (clean : validationReferences request validation index = []) :
    ∃ proof ∈ request.successDefinition.proofObligations.val,
      validation.proofId = proof.proofId ∧
      ∀ id ∈ validation.requirementIds.val, id ∈ proof.requirementIds.val := by
  simp only [validationReferences] at clean
  split at clean
  · cases clean
  · rename_i proof found
    obtain ⟨member, own⟩ := byKey_some found
    have covers := (List.append_eq_nil_iff.mp clean).1
    split at covers
    · rename_i every
      refine ⟨proof, member, own.symm, fun id named => ?_⟩
      simpa using List.all_eq_true.mp every id named
    · cases covers

end CoverageChecks

/-- **A ready plan exercises a proof of every blocking requirement.** -/
theorem ready_exercises {reviewer : Option Reviewer} {decidedAt : String}
    {decision : AnalysisDecision}
    (returned : analyze sha request reviewer decidedAt = .ok decision)
    (ready : decision.executionReady = true) :
    ∀ requirement ∈ request.successDefinition.requirements.val, requirement.priority = .blocking →
      ∃ proof ∈ request.successDefinition.proofObligations.val,
        requirement.requirementId ∈ proof.requirementIds.val ∧
        ∃ validation ∈ request.plan.validations.val, validation.proofId = proof.proofId ∧
          requirement.requirementId ∈ validation.requirementIds.val := by
  intro requirement required priority
  obtain ⟨_, checks⟩ := deterministicFindings_eq_nil.mp (analyze_ready returned ready).1
  have clean := (checkFindings_eq_nil.mp checks).2.2.1
  simp only [CoverageChecks.check, List.append_eq_nil_iff, List.flatMap_eq_nil_iff] at clean
  obtain ⟨⟨_, requirements⟩, validations⟩ := clean
  obtain ⟨validation, listed, named⟩ := CoverageChecks.exercised
    (requirements _ (CoverageChecks.mem_blocking required priority))
  obtain ⟨index, found⟩ := List.mem_iff_getElem?.mp listed
  obtain ⟨proof, obliged, exercised, covers⟩ := CoverageChecks.bound
    (validations (validation, index) (List.mk_mem_zipIdx_iff_getElem?.mpr found))
  exact ⟨proof, obliged, covers _ named, validation, listed, exercised, named⟩

/-- Two proofs of one requirement, of which the plan exercises the first. -/
def twoProofs : Variant :=
  { proofs := ⟨[smallProof (identifier "proof-1"), smallProof (identifier "proof-2")], by simp⟩ }

theorem twoProofs_ready : ∃ decision,
    analyze sha256 (twoProofs.request sha256) none "2026-01-01T00:00:00Z" = .ok decision ∧
      decision.executionReady = true := by
  have sound : twoProofs.Sound sha256 :=
    { proofs := by decide, independent := rfl, assumptions := List.nodup_nil
      unsupported := List.forall_mem_nil _, sealed := List.forall_mem_nil _
      evidence := List.nodup_nil }
  obtain ⟨decision, returned, ready, _⟩ := Variant.ready
    (sound.clean (List.isEmpty_iff.mp rfl) (List.isEmpty_iff.mp rfl)) (List.isEmpty_iff.mp rfl)
    "2026-01-01T00:00:00Z"
  exact ⟨decision, returned, ready⟩

theorem ready_exercises_two :
    ∃ proof ∈ (twoProofs.request sha256).successDefinition.proofObligations.val,
      smallRequirement.requirementId ∈ proof.requirementIds.val ∧
      ∃ validation ∈ (twoProofs.request sha256).plan.validations.val,
        validation.proofId = proof.proofId ∧
        smallRequirement.requirementId ∈ validation.requirementIds.val := by
  obtain ⟨decision, returned, ready⟩ := twoProofs_ready
  exact ready_exercises returned ready smallRequirement (List.mem_singleton_self _) rfl

/-- **A ready plan may leave a proof of a blocking requirement out.** -/
theorem ready_unexercised : ∃ decision,
    analyze sha256 (twoProofs.request sha256) none "2026-01-01T00:00:00Z" = .ok decision ∧
      decision.executionReady = true ∧
      smallRequirement ∈ (twoProofs.request sha256).successDefinition.requirements.val ∧
      smallRequirement.priority = .blocking ∧
      smallProof (identifier "proof-2") ∈
        (twoProofs.request sha256).successDefinition.proofObligations.val ∧
      smallRequirement.requirementId ∈ (smallProof (identifier "proof-2")).requirementIds.val ∧
      ∀ validation ∈ (twoProofs.request sha256).plan.validations.val,
        validation.proofId ≠ (smallProof (identifier "proof-2")).proofId := by
  obtain ⟨decision, returned, ready⟩ := twoProofs_ready
  refine ⟨decision, returned, ready, List.mem_singleton_self _, rfl,
    List.mem_cons_of_mem _ (List.mem_singleton_self _), List.mem_singleton_self _, ?_⟩
  exact List.forall_mem_singleton.mpr (by decide)

end

/-! ### References -/

def Plan.actionIds (plan : Plan) : List Identifier := plan.actions.val.map Action.actionId

/-- **What the lists name exists**, the items of the coverage rows apart. -/
structure Resolved (success : SuccessDefinition) (plan : Plan) : Prop where
  rows : ∀ row ∈ plan.requirementsCoverage.val, row.requirementId ∈ success.requirementIds
  actions : ∀ action ∈ plan.actions.val, ∀ id ∈ action.requirementIds.val,
    id ∈ success.requirementIds
  validations : ∀ validation ∈ plan.validations.val, ∀ id ∈ validation.requirementIds.val,
    id ∈ success.requirementIds
  proofs : ∀ proof ∈ success.proofObligations.val, ∀ id ∈ proof.requirementIds.val,
    id ∈ success.requirementIds
  exercised : ∀ validation ∈ plan.validations.val,
    validation.proofId ∈ success.proofObligations.val.map ProofObligation.proofId
  validated : ∀ validation ∈ plan.validations.val, ∀ id ∈ validation.actionIds.val,
    id ∈ plan.actionIds
  dependencies : ∀ action ∈ plan.actions.val, ∀ id ∈ action.dependsOn.val, id ∈ plan.actionIds

def RowResolved (plan : Plan) (row : CoverageRow) : Prop :=
  (∀ id ∈ row.actionIds.val, id ∈ plan.actionIds) ∧
    ∀ id ∈ row.validationIds.val, id ∈ plan.validationIds

/-- The items that a coverage row lists name its requirement. -/
def RowNamed (plan : Plan) (row : CoverageRow) : Prop :=
  (∀ action ∈ plan.actions.val, action.actionId ∈ row.actionIds.val →
      row.requirementId ∈ action.requirementIds.val) ∧
    ∀ validation ∈ plan.validations.val, validation.validationId ∈ row.validationIds.val →
      row.requirementId ∈ validation.requirementIds.val

/-- **No reference dangles**, and each coverage row lists what names its requirement. -/
def NothingDangling (success : SuccessDefinition) (plan : Plan) : Prop :=
  Resolved success plan ∧
    ∀ row ∈ plan.requirementsCoverage.val, RowResolved plan row ∧ RowNamed plan row

/-- **The rows of blocking requirements**: what they list exists; and every blocking requirement has a
row, an action and a validation. -/
structure BlockingRows (success : SuccessDefinition) (plan : Plan) : Prop where
  resolved : ∀ requirement ∈ success.requirements.val, requirement.priority = .blocking →
    ∀ row ∈ plan.requirementsCoverage.val, row.requirementId = requirement.requirementId →
      RowResolved plan row
  row : ∀ requirement ∈ success.requirements.val, requirement.priority = .blocking →
    requirement.requirementId ∈ plan.requirementsCoverage.val.map CoverageRow.requirementId
  action : ∀ requirement ∈ success.requirements.val, requirement.priority = .blocking →
    ∃ action ∈ plan.actions.val, requirement.requirementId ∈ action.requirementIds.val
  validation : ∀ requirement ∈ success.requirements.val, requirement.priority = .blocking →
    ∃ validation ∈ plan.validations.val,
      requirement.requirementId ∈ validation.requirementIds.val

variable {sha : Sha256} {request : AnalysisRequest}

theorem CleanRequest.resolved (clean : CleanRequest sha request) :
    Resolved request.successDefinition request.plan where
  rows := clean.covered.rows
  actions := clean.covered.actions
  validations := clean.covered.validations
  proofs := clean.covered.proofs
  exercised := by
    intro validation listed
    obtain ⟨proof, found, -⟩ := clean.covered.bound validation listed
    obtain ⟨among, own⟩ := byKey_some found
    exact List.mem_map.mpr ⟨proof, among, own⟩
  validated := by
    intro validation listed
    obtain ⟨-, -, -, actions⟩ := clean.covered.bound validation listed
    exact actions
  dependencies := clean.settled.known

theorem CleanRequest.blockingRows (clean : CleanRequest sha request) :
    BlockingRows request.successDefinition request.plan where
  resolved := by
    intro requirement required priority row listed own
    obtain ⟨found, same, actions, validations⟩ :=
      (clean.covered.blocking _ (CoverageChecks.mem_blocking required priority)).row
    have unique := byKey_mem (Plan.validate_distinct clean.plan).1 listed
    rw [own] at unique
    cases unique.symm.trans same
    exact ⟨actions, validations⟩
  row := by
    intro requirement required priority
    obtain ⟨row, same, -⟩ :=
      (clean.covered.blocking _ (CoverageChecks.mem_blocking required priority)).row
    obtain ⟨among, own⟩ := byKey_some same
    exact List.mem_map.mpr ⟨row, among, own⟩
  action := by
    intro requirement required priority
    obtain ⟨action, listed, names⟩ :=
      (clean.covered.blocking _ (CoverageChecks.mem_blocking required priority)).action
    exact ⟨action, byKey_of_dictValues listed, names⟩
  validation := by
    intro requirement required priority
    obtain ⟨validation, listed, names⟩ :=
      (clean.covered.blocking _ (CoverageChecks.mem_blocking required priority)).validation
    exact ⟨validation, byKey_of_dictValues listed, names⟩

/-- **A ready plan is resolved**, and so are the coverage rows of its blocking requirements. -/
theorem ready_resolved {reviewer : Option Reviewer} {decidedAt : String}
    {decision : AnalysisDecision}
    (returned : analyze sha request reviewer decidedAt = .ok decision)
    (ready : decision.executionReady = true) :
    Resolved request.successDefinition request.plan ∧
      BlockingRows request.successDefinition request.plan :=
  ⟨(analyze_ready_clean returned ready).resolved, (analyze_ready_clean returned ready).blockingRows⟩

/-! ### Rows that nothing checks -/

def minorRequirement : Requirement :=
  { smallRequirement with requirementId := identifier "requirement-2", priority := .minor }

def looseSuccess : SuccessDefinition :=
  SuccessDefinition.confirm sha256
    { Variant.success sha256 {} with
      requirements := ⟨[smallRequirement, minorRequirement], List.cons_ne_nil _ _⟩ }

def looseAction (actionId requirementId outputId : Identifier) : Action :=
  { actionId, objective := word "Run it.", requirementIds := only requirementId
    capabilityId := identifier "capability-1", owner := .codex
    phase := oneOf "implementation", targetPaths := [⟨"main", Eq.refl true⟩]
    dependsOn := noItems, prerequisites := []
    activation :=
      { activationType := .automatic, activationSource := some (word "authority-1")
        currentlyAuthorized := true }
    expectedOutputs := single ⟨outputId, word "a run", none⟩ }

/-- A row that lists an action of another requirement, and a row that lists what does not exist. -/
def loosePlan : Plan :=
  { Variant.plan sha256 {} with
    successDefinitionReference := looseSuccess.ref sha256
    requirementsCoverage := ⟨[
      ⟨identifier "requirement-1",
        ⟨[identifier "action-1", identifier "action-2"], List.cons_ne_nil _ _, by decide⟩,
        only (identifier "validation-1")⟩,
      ⟨identifier "requirement-2", only (identifier "action-9"),
        only (identifier "validation-9")⟩], List.cons_ne_nil _ _⟩
    actions := ⟨[
      looseAction (identifier "action-1") (identifier "requirement-1") (identifier "output-1"),
      looseAction (identifier "action-2") (identifier "requirement-2") (identifier "output-2")],
      List.cons_ne_nil _ _⟩ }

def looseRequest : AnalysisRequest :=
  { Variant.request sha256 {} with successDefinition := looseSuccess, plan := loosePlan }

theorem looseRequest_clean : CleanRequest sha256 looseRequest where
  success := by
    refine then_ok.mpr ⟨unique_ok.mpr (List.nodup_singleton _), then_ok.mpr
      ⟨unique_ok.mpr ?_, then_ok.mpr ⟨unique_ok.mpr List.nodup_nil, then_ok.mpr
      ⟨unique_ok.mpr List.nodup_nil, then_ok.mpr ⟨unique_ok.mpr (List.nodup_singleton _),
      require_ok.mpr (SuccessDefinition.confirm_verifies sha256 _)⟩⟩⟩⟩⟩
    show ["requirement-1", "requirement-2"].Nodup
    decide
  plan := by
    simp only [Plan.validate, then_ok, unique_ok]
    decide
  evident :=
    { distinct := List.nodup_nil
      authority := AuthorityEvidence.seal_verifies sha256 _
      repository := RepositoryEvidence.seal_verifies sha256 _
      baseline := Baseline.seal_verifies sha256 _
      sealed := List.forall_mem_nil _
      resolve := List.forall_mem_nil _ }
  bound := ⟨rfl, rfl, rfl⟩
  covered :=
    { rows := by decide
      actions := by decide
      validations := by decide
      proofs := by decide
      blocking := by
        refine List.forall_mem_singleton.mpr ⟨⟨_, rfl, by decide, by decide⟩, ?_, ?_⟩
        · exact ⟨_, List.mem_cons_self, List.mem_singleton_self _⟩
        · exact ⟨_, List.mem_cons_self, List.mem_singleton_self _⟩
      bound := List.forall_mem_singleton.mpr ⟨_, rfl, by decide, by decide⟩ }
  settled := DependencyChecks.settled_of_independent (by decide) (List.forall_mem_nil _)
  permitted :=
    { targets := by decide
      actions := by decide
      risks := List.forall_mem_nil _ }
  active := by decide

theorem looseRequest_ready : ∃ decision,
    analyze sha256 looseRequest none "2026-01-01T00:00:00Z" = .ok decision ∧
      decision.executionReady = true := by
  obtain ⟨decision, returned, ready, -⟩ := looseRequest_clean.ready (List.isEmpty_iff.mp rfl)
    (by decide) "2026-01-01T00:00:00Z"
  exact ⟨decision, returned, ready⟩

theorem ready_resolved_loose : Resolved looseSuccess loosePlan ∧ BlockingRows looseSuccess loosePlan := by
  obtain ⟨decision, returned, ready⟩ := looseRequest_ready
  exact ready_resolved returned ready

/-- **A ready plan may list what does not exist**, in the row of a minor requirement, and an action that
does not name the requirement, in the row of a blocking one. -/
theorem ready_dangling : ∃ decision,
    analyze sha256 looseRequest none "2026-01-01T00:00:00Z" = .ok decision ∧
      decision.executionReady = true ∧
      (∃ row ∈ loosePlan.requirementsCoverage.val, row.requirementId = identifier "requirement-2" ∧
        ¬ RowResolved loosePlan row) ∧
      (∃ row ∈ loosePlan.requirementsCoverage.val, row.requirementId = identifier "requirement-1" ∧
        ¬ RowNamed loosePlan row) ∧
      ¬ NothingDangling looseRequest.successDefinition looseRequest.plan := by
  obtain ⟨decision, returned, ready⟩ := looseRequest_ready
  have dangling : ¬ RowResolved loosePlan ⟨identifier "requirement-2",
      only (identifier "action-9"), only (identifier "validation-9")⟩ := fun resolved =>
    absurd (resolved.1 _ (List.mem_singleton_self _)) (by decide)
  refine ⟨decision, returned, ready, ⟨_, List.mem_cons_of_mem _ (List.mem_singleton_self _), rfl,
    dangling⟩, ⟨_, List.mem_cons_self, rfl, fun named => ?_⟩, fun nothing => ?_⟩
  · have other := named.1 (looseAction (identifier "action-2") (identifier "requirement-2")
      (identifier "output-2")) (List.mem_cons_of_mem _ (List.mem_singleton_self _)) (by decide)
    exact absurd other (by decide)
  · exact dangling (nothing.2 _ (List.mem_cons_of_mem _ (List.mem_singleton_self _))).1

end Audisor.Aflow
