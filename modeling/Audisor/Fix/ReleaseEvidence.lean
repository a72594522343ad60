/-
**What stands behind a released Fix.**

* `makeStatements`, `qualifyPlan`, `evaluateAflow`, `preSimulation`, `verifyFixOutput` — the phases of
  the controller, and `FixController.run`, which joins what they produce.
* `qualifyPlan_targets`, `preSimulation_pass`, `verifyFixOutput_verified` — what each of them checks.
* `run_released` — a run releases on all of them together, and on the decision of the user.
* **`release_evidence`** — a released Fix has statements that agree with one another, a submitted plan
  inside the manifest and an evaluated one that calls itself qualified, a concrete check for every
  finding, and an inspection without a failed entry.
* `release_unbound` — the statements may be those of other findings, the evaluated plan may leave the
  manifest, and the inspection may hold no entry at all.
-/

import Audisor.Fix.Handoff
import Mathlib.Data.List.Dedup

namespace Audisor.Fix

open Checked Json Number

/-! ### The statements -/

/-- `make_statements(findings, manifest)`. -/
def makeStatements (sha : Aflow.Sha256) (findings : List Finding) (manifest : FixScopedManifest) :
    List Statement :=
  let findingsHash := sha.hexdigest (sortKeys (.arr (findings.map Finding.plain))).dumps
  let manifestHash := sha.hexdigest (sortKeys manifest.plain).dumps
  [("dossier", [("findings", .arr (findings.map Finding.plain))]),
    ("handoff", [("handoff", .str "repair only the identified findings")]),
    ("llm", [("requirements", .str "preserve scope and validate every finding")])].map
      fun (entry : String × Dict) =>
        { type := entry.1, content := entry.2, findingsRefHash := findingsHash
          manifestRefHash := manifestHash }

def Statement.refs (statement : Statement) : String × String :=
  (statement.findingsRefHash, statement.manifestRefHash)

/-! ### The plan -/

def PlanStep.fallback (step : PlanStep) : String := "resolves " ++ step.originatingFindingId

def PlanStep.lacksCriterion (step : PlanStep) : Bool :=
  match step.acceptanceCriterion with
  | .null => true
  | _ => false

def PlanStep.qualified (step : PlanStep) : PlanStep :=
  if step.lacksCriterion then { step with acceptanceCriterion := .str step.fallback } else step

/-- The plan that `qualify_plan` validates. -/
def qualifiedPlan (plan : ImplementationPlan) (manifest : FixScopedManifest) : ImplementationPlan where
  steps := plan.steps.map PlanStep.qualified
  targetFiles := (plan.steps.map PlanStep.targetFile).dedup.insertionSort fun a b => a ≤ b
  isQualified := !plan.steps.isEmpty && plan.steps.all fun step => step.targetFile ∈ manifest.files
  minorIssues := plan.minorIssues ++ (plan.steps.filter PlanStep.lacksCriterion).map fun step =>
    { type := "missing_acceptance_criterion", stepId := step.id
      detail := "fallback: " ++ step.fallback }

/-- `qualify_plan(plan, manifest)`. -/
def qualifyPlan (plan : ImplementationPlan) (manifest : FixScopedManifest) :
    Except Failure ImplementationPlan :=
  match (qualifiedPlan plan manifest).validate manifest with
  | .ok () => .ok (qualifiedPlan plan manifest)
  | .error message => .error (pythonError "ValueError" message)

/-! ### The adapter -/

/-- The plan in a response of the agent. -/
inductive AgentPlan where
  | absent
  | record (plan : ImplementationPlan)
  | other

/-- A response of the agent, as its fields are read. -/
structure AgentResponse where
  status : Option Json
  plan : AgentPlan
  gapCorrectionsApplied : Option Json

/-- What the agent does: it raises, or it answers, which need not be a `dict`. -/
inductive AgentReply where
  | raised (failure : Failure)
  | answered (response : Option AgentResponse)

structure AFlowFixAdapter where
  agent : ImplementationPlan → List Finding → FixScopedManifest → AgentReply
  invocations : Nat

inductive PlanStatus where
  | accepted | rejected
  deriving DecidableEq

structure EvaluatedPlan where
  plan : ImplementationPlan
  gapCorrectionsApplied : Int
  status : PlanStatus

/-- `MAX_AFLOW_INVOCATIONS_PER_OPERATION`. -/
def maxAflowInvocationsPerOperation : Nat := 1

/-- `AFLOW_GAP_CORRECTION_ATTEMPTS`. -/
def aflowGapCorrectionAttempts : Int := 1

def valueError (message : String) : Failure := pythonError "ValueError" message

def planStatus : Option Json → Except Failure PlanStatus
  | some (.str "accepted") => .ok .accepted
  | some (.str "rejected") => .ok .rejected
  | _ => .error (valueError "malformed A-Flow Fix output")

/-- `response.get("plan", plan)`, which has to be a plan. -/
def correctedPlan (plan : ImplementationPlan) : AgentPlan → Except Failure ImplementationPlan
  | .absent => .ok plan
  | .record corrected => .ok corrected
  | .other => .error (pythonError "TypeError" "agent must return a validated ImplementationPlan")

def evaluatedFrom (plan : ImplementationPlan) : AgentReply → Except Failure EvaluatedPlan
  | .raised failure => .error failure
  | .answered none => .error (valueError "malformed A-Flow Fix output")
  | .answered (some response) => do
    let status ← planStatus response.status
    let corrected ← correctedPlan plan response.plan
    match intOf (response.gapCorrectionsApplied.getD (.int 0)) with
    | some applied => return { plan := corrected, gapCorrectionsApplied := applied, status }
    | none => .error (valueError "invalid gap_corrections_applied")

/-- `adapter.ignite(plan, findings, manifest)`, with the adapter it leaves. -/
def AFlowFixAdapter.ignite (adapter : AFlowFixAdapter) (plan : ImplementationPlan)
    (findings : List Finding) (manifest : FixScopedManifest) :
    Except Failure EvaluatedPlan × AFlowFixAdapter :=
  if maxAflowInvocationsPerOperation ≤ adapter.invocations then
    (.error (pythonError "RuntimeError" "MAX_AFLOW_INVOCATIONS_PER_OPERATION exceeded"), adapter)
  else
    (evaluatedFrom plan (adapter.agent plan findings manifest),
      { adapter with invocations := adapter.invocations + 1 })

/-- `evaluate_aflow(plan, findings, manifest, adapter)`, with the adapter it leaves. -/
def evaluateAflow (plan : ImplementationPlan) (findings : List Finding) (manifest : FixScopedManifest)
    (adapter : AFlowFixAdapter) : Except Failure EvaluatedPlan × AFlowFixAdapter :=
  let ignited := adapter.ignite plan findings manifest
  (do
    let result ← ignited.1
    refuse (aflowGapCorrectionAttempts < result.gapCorrectionsApplied)
      (valueError "A-Flow gap correction limit exceeded")
    refuse (result.status ≠ .accepted) (valueError "A-Flow rejected Fix plan")
    return result, ignited.2)

/-! ### The outputs -/

structure AFlowOutputs where
  trajectory : List Json
  successDefinition : SuccessDefinition
  validations : List ValidationSpec

/-- `success_definition.covers(findings)`. -/
def SuccessDefinition.covers (success : SuccessDefinition) (findings : List Finding) : Bool :=
  findings.all fun finding => finding.id ∈ success.findingChecks.map FindingCheck.findingId

/-- `adapter.validate_outputs(outputs, findings)`. -/
def validateOutputs (outputs : AFlowOutputs) (findings : List Finding) : Except Failure Unit := do
  refuse (outputs.successDefinition.covers findings = false)
    (valueError "success definition does not cover every finding")
  refuse ((outputs.successDefinition.findingChecks.any fun check =>
      check.check = "" || check.expectedResult = "") = true)
    (valueError "finding checks must be concrete")

/-! ### The completeness -/

def dependencySignal (finding : Finding) : Option Json :=
  let signal (type : String) (code : Int) : Json :=
    .obj [("type", .str type), ("code", .int code), ("finding_id", .str finding.id),
      ("file", .str finding.file)]
  if finding.type ∈ ["dependency.conflicting_constraints", "dependency.version_mismatch"] then
    some (signal "version_mismatch" (-10))
  else if finding.type ∈ ["dependency.duplicate_declaration", "dependency.duplicate_or_overlap"] then
    some (signal "duplicate_or_overlap" (-10))
  else if finding.type = "dependency.upgrade_available" then some (signal "upgrade_available" (-7))
  else none

/-- A completeness result, with the issues it flags on the dependencies. -/
structure FlaggedCompleteness where
  result : CompletenessResult
  flaggedIssues : List Json

/-- `PRESIM_RESCORE_ATTEMPTS`. -/
def presimRescoreAttempts : Nat := 1

def simulationValues (statements : List Statement) (plan : ImplementationPlan)
    (findings : List Finding) : CompletenessValues where
  scopeCompleteness := 1
  dependencyResolvability := if findings.any fun finding => finding.type = unresolvedType then 0 else 1
  planCompleteness := if plan.isQualified then 1 else 0
  aflowOutputCompleteness := 1
  statementConsistency := if (statements.map Statement.refs).dedup.length = 1 then 1 else 0
  dependencyIntegrity := if findings.any fun finding => finding.type ∈ integrityTypes then 0 else 1

/-- `pre_simulation(statements, plan, outputs, manifest, findings)`. Neither the outputs nor the manifest
is read. A correctable result is scored again, which drops what was flagged. -/
def preSimulation (statements : List Statement) (plan : ImplementationPlan) (findings : List Finding) :
    FlaggedCompleteness :=
  let values := simulationValues statements plan findings
  let first : FlaggedCompleteness :=
    { result := evaluateCompleteness values [], flaggedIssues := findings.filterMap dependencySignal }
  if first.result.status = .correctable then
    (fun scored : FlaggedCompleteness =>
      { result := evaluateCompleteness values scored.result.missingInfo
        flaggedIssues := [] })^[presimRescoreAttempts] first
  else first

/-! ### The inspection -/

structure InspectionArtifact where
  verified : Bool
  proof : Dict
  unaffectedFilesIntact : Bool
  successDefinitionResults : Table (List Dict)
  reason : Option String

/-- `entry.get("passed") is True`. -/
def entryPassed (entry : Dict) : Bool :=
  match get? entry "passed" with
  | some (.bool true) => true
  | _ => false

/-- `first == second` for dictionaries of texts. -/
def sameTable (first second : Table String) : Bool :=
  (first.keys ++ second.keys).all fun key => first.lookup key = second.lookup key

/-- `verify_fix_output(...)`. -/
def verifyFixOutput (inputHashes sandboxOutputHashes approvedChanges : Table String)
    (successDefinitionResults : Table (List Dict)) (unaffectedFilesIntact : Bool) :
    InspectionArtifact :=
  let proofSatisfied := sameTable sandboxOutputHashes (approvedChanges ∪ inputHashes)
  let allChecks := successDefinitionResults.entries.all fun entry => entry.2.all entryPassed
  let verified := proofSatisfied && unaffectedFilesIntact && allChecks
  { verified
    proof := [("equation", .str "hash(output) == hash(scoped_input ∪ approved_changes)"),
      ("satisfied", .bool proofSatisfied)]
    unaffectedFilesIntact
    successDefinitionResults
    reason :=
      if verified then none
      else if !proofSatisfied then some "hash proof failed"
      else if !unaffectedFilesIntact then some "unaffected file changed"
      else some "success validation failed" }

/-! ### The controller -/

inductive FixMode where
  | automatic | manual
  deriving DecidableEq

structure FixController where
  mode : FixMode

inductive UnresolvedReason where
  | none | informationGap | verificationFailure | userSkip
  deriving DecidableEq

structure FinalResult where
  released : Bool
  mode : FixMode
  resolvedItems : List String
  unresolvedItems : List String
  unresolvedReason : UnresolvedReason
  qualityNotes : Dict

def FixController.withheld (controller : FixController) (findings : List Finding)
    (reason : UnresolvedReason) (notes : Dict) : FinalResult where
  released := false
  mode := controller.mode
  resolvedItems := []
  unresolvedItems := findings.map Finding.id
  unresolvedReason := reason
  qualityNotes := notes ++ [("disclaimer", .str "advisory only")]

def planNotes (qualified : ImplementationPlan) (perfect : Bool) : Dict :=
  [("perfect", .bool perfect), ("minor_issues", .arr (qualified.minorIssues.map MinorIssue.plain))]

def FixController.conclude (controller : FixController) (findings : List Finding)
    (qualified : ImplementationPlan) (completeness : FlaggedCompleteness)
    (inspection : InspectionArtifact) (userDecision : Option String) : FinalResult :=
  if completeness.result.status ≠ .pass then
    controller.withheld findings .informationGap (planNotes qualified false)
  else if !inspection.verified then
    controller.withheld findings .verificationFailure (planNotes qualified false)
  else if controller.mode = .manual ∧ userDecision ≠ some "apply" then
    controller.withheld findings .userSkip (planNotes qualified false)
  else
    { released := true
      mode := controller.mode
      resolvedItems := findings.map Finding.id
      unresolvedItems := []
      unresolvedReason := .none
      qualityNotes := planNotes qualified qualified.minorIssues.isEmpty ++
        [("disclaimer", .str "advisory only")] }

/-- `controller.run(...)`, with the adapter it leaves. -/
def FixController.run (controller : FixController) (findings : List Finding)
    (manifest : FixScopedManifest) (plan : ImplementationPlan) (statements : List Statement)
    (adapter : AFlowFixAdapter) (outputs : AFlowOutputs) (inspection : InspectionArtifact)
    (userDecision : Option String) : Except Failure FinalResult × AFlowFixAdapter :=
  if manifest.fileHashes.keys = [] then
    (.ok (controller.withheld findings .informationGap [("reason", .str "scoped_snapshot_required")]),
      adapter)
  else
    match qualifyPlan plan manifest with
    | .error raised => (.error raised, adapter)
    | .ok qualified =>
      let evaluation := evaluateAflow qualified findings manifest adapter
      (do
        let evaluated ← evaluation.1
        validateOutputs outputs findings
        return controller.conclude findings qualified
          (preSimulation statements evaluated.plan findings) inspection userDecision, evaluation.2)

/-! ### What each phase checks -/

@[simp] theorem PlanStep.qualified_targetFile (step : PlanStep) :
    step.qualified.targetFile = step.targetFile := by
  unfold qualified
  split <;> rfl

/-- **A qualified plan was submitted with targets inside the manifest.** -/
theorem qualifyPlan_targets {plan qualified : ImplementationPlan} {manifest : FixScopedManifest}
    (passed : qualifyPlan plan manifest = .ok qualified) {step : PlanStep}
    (member : step ∈ plan.steps) : step.targetFile ∈ manifest.files := by
  unfold qualifyPlan at passed
  split at passed
  · rename_i valid
    have among : step.qualified ∈ (qualifiedPlan plan manifest).steps :=
      List.mem_map_of_mem member
    have inside := ImplementationPlan.target_mem valid among
    rwa [PlanStep.qualified_targetFile] at inside
  · cases passed

theorem validateOutputs_covers {outputs : AFlowOutputs} {findings : List Finding}
    (passed : validateOutputs outputs findings = .ok ()) {finding : Finding}
    (member : finding ∈ findings) :
    ∃ check ∈ outputs.successDefinition.findingChecks,
      check.findingId = finding.id ∧ check.check ≠ "" ∧ check.expectedResult ≠ "" := by
  obtain ⟨covered, concrete⟩ := then_eq_ok.mp passed
  rw [refuse_eq_ok, Bool.not_eq_false] at covered
  rw [refuse_eq_ok, List.any_eq_true, not_exists] at concrete
  have named := List.all_eq_true.mp covered finding member
  obtain ⟨check, among, same⟩ := List.mem_map.mp (of_decide_eq_true named)
  have written : ¬ (check.check = "" ∨ check.expectedResult = "") := fun empty =>
    concrete check ⟨among, by simpa using empty⟩
  exact ⟨check, among, same, not_or.mp written⟩

theorem length_dedup_eq_one {α : Type} [DecidableEq α] {items : List α} :
    items.dedup.length = 1 ↔ ∃ item ∈ items, ∀ other ∈ items, other = item := by
  rw [List.length_eq_one_iff]
  constructor
  · rintro ⟨item, single⟩
    have only : ∀ other, other ∈ items ↔ other = item := fun other => by
      rw [← List.mem_dedup, single, List.mem_singleton]
    exact ⟨item, (only item).mpr rfl, fun other => (only other).mp⟩
  · rintro ⟨item, member, only⟩
    have repeated := List.eq_replicate_of_mem only
    have some : items.length ≠ 0 := (List.length_pos_of_mem member).ne'
    exact ⟨item, by rw [repeated, List.replicate_dedup some]⟩

/-- The statements are there, and all of them refer to the same. -/
def Agree (statements : List Statement) : Prop :=
  ∃ statement ∈ statements, ∀ other ∈ statements, other.refs = statement.refs

theorem agree_iff {statements : List Statement} :
    (statements.map Statement.refs).dedup.length = 1 ↔ Agree statements := by
  rw [length_dedup_eq_one, Agree]
  simp only [List.mem_map, forall_exists_index, and_imp, forall_apply_eq_imp_iff₂,
    exists_exists_and_eq_and]

theorem one_le_ite {condition : Prop} [Decidable condition] :
    (1 : ℚ) ≤ (if condition then 1 else 0) ↔ condition := by
  by_cases holds : condition
  · simp [holds]
  · simp [holds]

theorem one_le_ite_not {condition : Prop} [Decidable condition] :
    (1 : ℚ) ≤ (if condition then 0 else 1) ↔ ¬ condition := by
  rw [← ite_not, one_le_ite]

theorem completenessScore_simulation {statements : List Statement} {plan : ImplementationPlan}
    {findings : List Finding} :
    completenessThreshold ≤ completenessScore (simulationValues statements plan findings) ↔
      ∀ finding ∈ findings, finding.type ≠ unresolvedType := by
  have whole : completenessThreshold ≤
      rounded (rounded (1 * scopeWeight) + rounded (1 * dependencyWeight)) := by decide +kernel
  have short : ¬ completenessThreshold ≤
      rounded (rounded (1 * scopeWeight) + rounded (0 * dependencyWeight)) := by decide +kernel
  by_cases unresolved : findings.any fun finding => finding.type = unresolvedType
  · have scored : completenessScore (simulationValues statements plan findings) =
        rounded (rounded (1 * scopeWeight) + rounded (0 * dependencyWeight)) := by
      rw [completenessScore, simulationValues, if_pos unresolved]
    rw [scored]
    obtain ⟨finding, member, kind⟩ := List.any_eq_true.mp unresolved
    exact iff_of_false short fun resolved => resolved finding member (of_decide_eq_true kind)
  · have scored : completenessScore (simulationValues statements plan findings) =
        rounded (rounded (1 * scopeWeight) + rounded (1 * dependencyWeight)) := by
      rw [completenessScore, simulationValues, if_neg unresolved]
    rw [scored]
    refine iff_of_true whole fun finding member kind => unresolved ?_
    exact List.any_eq_true.mpr ⟨finding, member, decide_eq_true kind⟩

theorem preSimulation_status {statements : List Statement} {plan : ImplementationPlan}
    {findings : List Finding} :
    (preSimulation statements plan findings).result.status =
      (evaluateCompleteness (simulationValues statements plan findings) []).status := by
  unfold preSimulation
  dsimp only
  split
  · -- a second score is a score of the same values
    rw [presimRescoreAttempts, Function.iterate_one, evaluateCompleteness_status,
      evaluateCompleteness_status]
  · rfl

/-- **A simulation passes on statements that agree, a plan that calls itself qualified, and findings
that tell of no dependency left unresolved or in conflict.** -/
theorem preSimulation_pass {statements : List Statement} {plan : ImplementationPlan}
    {findings : List Finding} :
    (preSimulation statements plan findings).result.status = .pass ↔
      Agree statements ∧ plan.isQualified = true ∧
        ∀ finding ∈ findings, finding.type ≠ unresolvedType ∧ finding.type ∉ integrityTypes := by
  have gates : (∀ gate ∈ structuralGates (simulationValues statements plan findings), 1 ≤ gate.2) ↔
      plan.isQualified = true ∧ Agree statements ∧
        ∀ finding ∈ findings, finding.type ∉ integrityTypes := by
    simp only [structuralGates, simulationValues, List.forall_mem_cons, List.not_mem_nil,
      false_implies, implies_true, and_true, le_refl, true_and, one_le_ite, one_le_ite_not, agree_iff,
      List.any_eq_true, decide_eq_true_eq, not_exists, not_and]
  rw [preSimulation_status, evaluateCompleteness_status]
  by_cases passed : ∀ gate ∈ structuralGates (simulationValues statements plan findings), 1 ≤ gate.2
  · rw [if_pos passed]
    obtain ⟨qualified, agree, intact⟩ := gates.mp passed
    by_cases reached : completenessThreshold ≤
        completenessScore (simulationValues statements plan findings)
    · rw [if_pos reached]
      have resolved := completenessScore_simulation.mp reached
      exact iff_of_true rfl ⟨agree, qualified, fun finding member =>
        ⟨resolved finding member, intact finding member⟩⟩
    · rw [if_neg reached]
      refine iff_of_false (by decide) fun right => reached ?_
      exact completenessScore_simulation.mpr fun finding member => (right.2.2 finding member).1
  · rw [if_neg passed]
    refine iff_of_false (by decide) fun right => passed (gates.mpr ?_)
    exact ⟨right.2.1, right.1, fun finding member => (right.2.2 finding member).2⟩

theorem sameTable_iff {first second : Table String} :
    sameTable first second = true ↔ ∀ key, first.lookup key = second.lookup key := by
  unfold sameTable
  rw [List.all_eq_true]
  constructor
  · intro same key
    by_cases listed : key ∈ first.keys ++ second.keys
    · exact of_decide_eq_true (same key listed)
    · rw [List.mem_append, not_or, ← AList.mem_keys, ← AList.mem_keys] at listed
      rw [AList.lookup_eq_none.mpr listed.1, AList.lookup_eq_none.mpr listed.2]
  · exact fun same key _ => decide_eq_true (same key)

theorem entryPassed_iff {entry : Dict} :
    entryPassed entry = true ↔ get? entry "passed" = some (.bool true) := by
  unfold entryPassed
  split
  · rename_i stated
    exact iff_of_true rfl stated
  · rename_i other
    exact iff_of_false (by decide) fun stated => other stated

/-- **The inspection verifies the hashes, the files that are not affected, and every entry it has.** -/
theorem verifyFixOutput_verified {inputHashes sandboxOutputHashes approvedChanges : Table String}
    {results : Table (List Dict)} {intact : Bool} :
    (verifyFixOutput inputHashes sandboxOutputHashes approvedChanges results intact).verified = true ↔
      (∀ path, sandboxOutputHashes.lookup path =
          (approvedChanges.lookup path).or (inputHashes.lookup path)) ∧
        intact = true ∧ ∀ checks ∈ results.entries, ∀ entry ∈ checks.2,
          get? entry "passed" = some (.bool true) := by
  have joined : ∀ path, (approvedChanges ∪ inputHashes).lookup path =
      (approvedChanges.lookup path).or (inputHashes.lookup path) := by
    intro path
    by_cases approved : path ∈ approvedChanges
    · rw [AList.lookup_union_left approved]
      obtain ⟨digest, found⟩ := Option.isSome_iff_exists.mp (AList.lookup_isSome.mpr approved)
      rw [found, Option.some_or]
    · rw [AList.lookup_union_right approved, AList.lookup_eq_none.mpr approved, Option.none_or]
  unfold verifyFixOutput
  dsimp only
  rw [Bool.and_eq_true, Bool.and_eq_true, sameTable_iff, and_assoc]
  simp only [joined, List.all_eq_true, entryPassed_iff]

/-! ### What a release takes -/

theorem conclude_released {controller : FixController} {findings : List Finding}
    {qualified : ImplementationPlan} {completeness : FlaggedCompleteness}
    {inspection : InspectionArtifact} {userDecision : Option String} :
    (controller.conclude findings qualified completeness inspection userDecision).released = true ↔
      completeness.result.status = .pass ∧ inspection.verified = true ∧
        (controller.mode = .manual → userDecision = some "apply") := by
  unfold FixController.conclude
  split
  · rename_i failed
    exact iff_of_false (by simp [FixController.withheld]) fun passed => failed passed.1
  · rename_i status
    rw [ne_eq, not_not] at status
    split
    · rename_i failed
      rw [Bool.not_eq_true'] at failed
      exact iff_of_false (by simp [FixController.withheld]) fun passed => by
        rw [failed] at passed
        exact absurd passed.2.1 (by decide)
    · rename_i verified
      rw [Bool.not_eq_true', Bool.not_eq_false] at verified
      split
      · rename_i skipped
        refine iff_of_false (by simp [FixController.withheld]) fun passed => ?_
        exact skipped.2 (passed.2.2 skipped.1)
      · rename_i applied
        refine iff_of_true rfl ⟨status, verified, fun manual => ?_⟩
        by_contra other
        exact applied ⟨manual, other⟩

/-- **A run releases when each of its phases passes, and the user decides so in manual mode.** -/
theorem run_released {controller : FixController} {findings : List Finding}
    {manifest : FixScopedManifest} {plan : ImplementationPlan} {statements : List Statement}
    {adapter : AFlowFixAdapter} {outputs : AFlowOutputs} {inspection : InspectionArtifact}
    {userDecision : Option String} :
    (∃ result, (controller.run findings manifest plan statements adapter outputs inspection
        userDecision).1 = .ok result ∧ result.released = true) ↔
      manifest.fileHashes.keys ≠ [] ∧ ∃ qualified, qualifyPlan plan manifest = .ok qualified ∧
        ∃ evaluated, (evaluateAflow qualified findings manifest adapter).1 = .ok evaluated ∧
          validateOutputs outputs findings = .ok () ∧
          (preSimulation statements evaluated.plan findings).result.status = .pass ∧
          inspection.verified = true ∧
          (controller.mode = .manual → userDecision = some "apply") := by
  unfold FixController.run
  split
  · rename_i bare
    refine iff_of_false ?_ fun passed => passed.1 bare
    rintro ⟨result, returned, released⟩
    cases returned
    cases released
  · rename_i hashed
    cases qualifies : qualifyPlan plan manifest with
    | error raised =>
      refine iff_of_false ?_ ?_
      · rintro ⟨result, returned, -⟩
        cases returned
      · rintro ⟨-, qualified, absent, -⟩
        cases absent
    | ok qualified =>
      dsimp only
      simp only [bind_eq_ok, pure_eq_ok]
      constructor
      · rintro ⟨result, ⟨evaluated, evaluates, _, valid, rfl⟩, released⟩
        exact ⟨hashed, qualified, rfl, evaluated, evaluates, valid, conclude_released.mp released⟩
      · rintro ⟨-, _, same, evaluated, evaluates, valid, passed⟩
        cases same
        exact ⟨_, ⟨evaluated, evaluates, _, valid, rfl⟩, conclude_released.mpr passed⟩

/-- **A released Fix has its evidence**: statements that agree with one another, a submitted plan inside
the manifest and an evaluated one that calls itself qualified, a concrete check for every finding, no
dependency left open, the approved hashes, and no entry of the inspection that did not pass. -/
theorem release_evidence {controller : FixController} {findings : List Finding}
    {manifest : FixScopedManifest} {plan : ImplementationPlan} {statements : List Statement}
    {adapter : AFlowFixAdapter} {outputs : AFlowOutputs}
    {inputHashes sandboxOutputHashes approvedChanges : Table String} {results : Table (List Dict)}
    {intact : Bool} {userDecision : Option String} {result : FinalResult}
    (returned : (controller.run findings manifest plan statements adapter outputs
      (verifyFixOutput inputHashes sandboxOutputHashes approvedChanges results intact)
      userDecision).1 = .ok result) (released : result.released = true) :
    Agree statements ∧
      (∀ step ∈ plan.steps, step.targetFile ∈ manifest.files) ∧
      (∃ qualified evaluated, qualifyPlan plan manifest = .ok qualified ∧
        (evaluateAflow qualified findings manifest adapter).1 = .ok evaluated ∧
        evaluated.plan.isQualified = true) ∧
      (∀ finding ∈ findings, ∃ check ∈ outputs.successDefinition.findingChecks,
        check.findingId = finding.id ∧ check.check ≠ "" ∧ check.expectedResult ≠ "") ∧
      (∀ finding ∈ findings, finding.type ≠ unresolvedType ∧ finding.type ∉ integrityTypes) ∧
      (∀ path, sandboxOutputHashes.lookup path =
        (approvedChanges.lookup path).or (inputHashes.lookup path)) ∧
      intact = true ∧
      ∀ checks ∈ results.entries, ∀ entry ∈ checks.2, get? entry "passed" = some (.bool true) := by
  obtain ⟨-, qualified, qualifies, evaluated, evaluates, valid, status, verified, -⟩ :=
    run_released.mp ⟨result, returned, released⟩
  obtain ⟨agree, stated, settled⟩ := preSimulation_pass.mp status
  exact ⟨agree, fun step => qualifyPlan_targets qualifies,
    ⟨qualified, evaluated, qualifies, evaluates, stated⟩, fun finding => validateOutputs_covers valid,
    settled, verifyFixOutput_verified.mp verified⟩

/-! ### A release on its own inputs -/

def Released (run : Except Failure FinalResult) : Prop :=
  ∃ result, run = .ok result ∧ result.released = true

/-- A finding on `src/app.py`. -/
def appFinding : Finding where
  id := "F-1"
  type := "syntax"
  file := "src/app.py"
  severity := "high"
  evidence := .obj [("line", .int 2)]

def appManifest : FixScopedManifest where
  files := ["src/app.py"]
  dependencyClosure := ["src/app.py"]
  inputHash := "input"
  fileHashes := AList.singleton "src/app.py" (String.ofList (List.replicate 64 'a'))
  dependencyEvidence := ∅

def planOn (file : String) : ImplementationPlan where
  steps := [{ id := "S-1", action := "repair", targetFile := file, originatingFindingId := "F-1",
              acceptanceCriterion := .null }]
  targetFiles := [file]
  isQualified := true
  minorIssues := []

def appOutputs : AFlowOutputs where
  trajectory := [.str "repair"]
  successDefinition := {
    findingChecks := [⟨"F-1", "test", "python -m pytest", "exit 0"⟩]
    validations := []
    mustNotRegress := []
    successRule := "all checks pass" }
  validations := []

/-- The one entry that passed, under the id of the finding. -/
def appResults : Table (List Dict) := AList.singleton "F-1" [[("passed", .bool true)]]

theorem appResults_passed : ∀ checks ∈ appResults.entries, ∀ entry ∈ checks.2,
    get? entry "passed" = some (.bool true) := by
  intro checks member entry among
  cases List.mem_singleton.mp member
  cases List.mem_singleton.mp among
  rfl

/-- The run on `src/app.py`, whose agent accepts with a plan, and whose output is the approved one. -/
def appRun (statements : List Statement) (evaluated : AgentPlan) (results : Table (List Dict)) :
    Except Failure FinalResult :=
  ((FixController.mk .automatic).run [appFinding] appManifest (planOn "src/app.py") statements
    { agent := fun _ _ _ => .answered (some ⟨some (.str "accepted"), evaluated, none⟩)
      invocations := 0 }
    appOutputs
    (verifyFixOutput (AList.singleton "src/app.py" "before") (AList.singleton "src/app.py" "after")
      (AList.singleton "src/app.py" "after") results true) none).1

/-- **The statements made for one operation agree with one another.** -/
theorem makeStatements_agree (sha : Aflow.Sha256) (findings : List Finding)
    (manifest : FixScopedManifest) : Agree (makeStatements sha findings manifest) := by
  refine ⟨_, List.mem_cons_self, fun other member => ?_⟩
  obtain ⟨entry, -, rfl⟩ := List.mem_map.mp member
  rfl

theorem appRun_released {statements : List Statement} {evaluated : AgentPlan}
    {plan : ImplementationPlan} {results : Table (List Dict)} (agree : Agree statements)
    (corrected : correctedPlan (qualifiedPlan (planOn "src/app.py") appManifest) evaluated = .ok plan)
    (qualified : plan.isQualified = true)
    (passed : ∀ checks ∈ results.entries, ∀ entry ∈ checks.2,
      get? entry "passed" = some (.bool true)) :
    Released (appRun statements evaluated results) := by
  have accepts : (evaluateAflow (qualifiedPlan (planOn "src/app.py") appManifest) [appFinding]
      appManifest ⟨fun _ _ _ => .answered (some ⟨some (.str "accepted"), evaluated, none⟩), 0⟩).1 =
        .ok ⟨plan, 0, .accepted⟩ := by
    have answered : evaluatedFrom (qualifiedPlan (planOn "src/app.py") appManifest)
        (.answered (some ⟨some (.str "accepted"), evaluated, none⟩)) = .ok ⟨plan, 0, .accepted⟩ :=
      bind_eq_ok.mpr ⟨.accepted, rfl, bind_eq_ok.mpr ⟨plan, corrected, rfl⟩⟩
    exact bind_eq_ok.mpr ⟨_, answered, rfl⟩
  have settled : ∀ finding ∈ [appFinding], finding.type ≠ unresolvedType ∧
      finding.type ∉ integrityTypes := by decide +kernel
  refine run_released.mpr ⟨by decide +kernel, _, rfl, _, accepts, rfl,
    preSimulation_pass.mpr ⟨agree, qualified, settled⟩, ?_, fun manual => by cases manual⟩
  refine verifyFixOutput_verified.mpr ⟨fun path => ?_, rfl, passed⟩
  by_cases same : path = "src/app.py"
  · rw [same]
    rfl
  · have elsewhere : ∀ digest,
        (AList.singleton "src/app.py" digest : Table String).lookup path = none := by
      intro digest
      rw [AList.lookup_eq_none, AList.mem_keys]
      exact fun member => same (List.mem_singleton.mp member)
    rw [elsewhere, elsewhere, Option.none_or]

theorem release_evidence_app :
    Agree (makeStatements Aflow.sha256 [appFinding] appManifest) ∧
      ∀ finding ∈ [appFinding], ∃ check ∈ appOutputs.successDefinition.findingChecks,
        check.findingId = finding.id ∧ check.check ≠ "" ∧ check.expectedResult ≠ "" := by
  have release : Released (appRun (makeStatements Aflow.sha256 [appFinding] appManifest) .absent
      appResults) := appRun_released (makeStatements_agree _ _ _) rfl rfl appResults_passed
  obtain ⟨result, returned, released⟩ := release
  have evidence := release_evidence returned released
  exact ⟨evidence.1, evidence.2.2.2.1⟩

/-- The statements carry the hashes of just these findings and this manifest. -/
def Bound (sha : Aflow.Sha256) (findings : List Finding) (manifest : FixScopedManifest)
    (statements : List Statement) : Prop :=
  statements.map Statement.refs = (makeStatements sha findings manifest).map Statement.refs

/-- Every finding has an entry of its own, and all of them passed. -/
def EachPassed (findings : List Finding) (results : Table (List Dict)) : Prop :=
  ∀ finding ∈ findings, ∃ checks, results.lookup finding.id = some checks ∧ checks ≠ [] ∧
    ∀ entry ∈ checks, get? entry "passed" = some (.bool true)

/-- **A release is not bound to more than that**: it goes through on the statements of other findings,
on an evaluated plan outside the manifest, and on an inspection without any entry. -/
theorem release_unbound :
    (Released (appRun (makeStatements Aflow.sha256 [] appManifest) .absent appResults) ∧
        ¬ Bound Aflow.sha256 [appFinding] appManifest (makeStatements Aflow.sha256 [] appManifest)) ∧
      (Released (appRun (makeStatements Aflow.sha256 [appFinding] appManifest)
          (.record (planOn "/etc/passwd")) appResults) ∧
        ¬ ∀ step ∈ (planOn "/etc/passwd").steps, step.targetFile ∈ appManifest.files) ∧
      Released (appRun (makeStatements Aflow.sha256 [appFinding] appManifest) .absent ∅) ∧
        ¬ EachPassed [appFinding] ∅ := by
  refine ⟨⟨?_, ?_⟩, ⟨?_, by decide +kernel⟩, ?_, ?_⟩
  · exact appRun_released (makeStatements_agree _ _ _) rfl rfl appResults_passed
  · unfold Bound
    decide +kernel
  · exact appRun_released (makeStatements_agree _ _ _) rfl rfl appResults_passed
  · exact appRun_released (makeStatements_agree _ _ _) rfl rfl fun checks member => by cases member
  · intro passed
    obtain ⟨checks, found, -⟩ := passed appFinding (List.mem_singleton.mpr rfl)
    rw [AList.lookup_empty] at found
    cases found

end Audisor.Fix
