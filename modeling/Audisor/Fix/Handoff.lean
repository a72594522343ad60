/-
**The completeness gate of a Fix, and the handoff of a qualified one.**

* `completenessThreshold`, the weights and `structuralGates` — the constants of the policy, as the
  floats they are.
* `evaluateCompleteness` — four structural gates, then the weighted score against the threshold.
* `CandidatePlan` — the plan an igniter answers.
* `evaluateFixCompleteness` — the gate on the resolution results of the findings.
* **`evaluateFixCompleteness_status`** — the gate passes exactly when the plan is qualified, no finding
  tells of a conflict of dependencies, and the share of resolved findings reaches the threshold.
* `IgnitionResult` — what an igniter answers, attribute by attribute. `FixIgnitionResult.ignited` is the
  answer of the local boundary.
* `handoffPayload`, `persistHandoff` — the document that is written before the implementation goes on.
-/

import Audisor.Fix.Dependencies
import Audisor.Number.Decimals
import Audisor.Aflow.Hashing
import Audisor.Fix.LocalFix

namespace Audisor.Fix

section

open Json Number

/-! ### The constants -/

/-- `COMPLETENESS_THRESHOLD`. -/
def completenessThreshold : ℚ := rounded (9391 / 10000)

/-- `COMPLETENESS_WEIGHTS["scope_completeness"]`. -/
def scopeWeight : ℚ := 3 / 4

/-- `COMPLETENESS_WEIGHTS["dependency_resolvability"]`. -/
def dependencyWeight : ℚ := 1 / 4

/-! ### The evaluation -/

/-- The six values that are evaluated. -/
structure CompletenessValues where
  scopeCompleteness : ℚ
  dependencyResolvability : ℚ
  planCompleteness : ℚ
  aflowOutputCompleteness : ℚ
  statementConsistency : ℚ
  dependencyIntegrity : ℚ

/-- `STRUCTURAL_GATES`, each with its value. -/
def structuralGates (values : CompletenessValues) : List (String × ℚ) :=
  [("plan_completeness", values.planCompleteness),
    ("aflow_output_completeness", values.aflowOutputCompleteness),
    ("statement_consistency", values.statementConsistency),
    ("dependency_integrity", values.dependencyIntegrity)]

inductive CompletenessStatus where
  | pass | correctable | uncorrectable
  deriving DecidableEq, Repr

def CompletenessStatus.value : CompletenessStatus → String
  | .pass => "pass"
  | .correctable => "correctable"
  | .uncorrectable => "uncorrectable"

structure CompletenessResult where
  values : CompletenessValues
  missingInfo : List String
  score : ℚ
  status : CompletenessStatus

/-- The weighted score, one rounding for each float operation. -/
def completenessScore (values : CompletenessValues) : ℚ :=
  rounded (rounded (values.scopeCompleteness * scopeWeight) +
    rounded (values.dependencyResolvability * dependencyWeight))

/-- `evaluate_completeness(values, missing_info)`. -/
def evaluateCompleteness (values : CompletenessValues) (missingInfo : List String) :
    CompletenessResult :=
  let score := completenessScore values
  let structuralBad := ((structuralGates values).filter fun gate => gate.2 < 1).map Prod.fst
  if structuralBad ≠ [] then
    { values, missingInfo := missingInfo ++ structuralBad, score, status := .uncorrectable }
  else if completenessThreshold ≤ score then { values, missingInfo, score, status := .pass }
  else { values, missingInfo, score, status := .correctable }

/-! ### The gate of a Fix -/

/-- The plan of a result: a plan record, a `dict`, or any other object, as its `is_qualified` and as
`_plain` writes it. -/
inductive CandidatePlan where
  | record (plan : ImplementationPlan)
  | mapping (fields : Dict)
  | other (isQualified : Bool) (plain : Json)

def CandidatePlan.isQualified : CandidatePlan → Bool
  | .record plan => plan.isQualified
  | .mapping fields => (getD fields "is_qualified" (.bool false)).truthy
  | .other isQualified _ => isQualified

def CandidatePlan.plain : CandidatePlan → Json
  | .record plan => plan.plain
  | .mapping fields => .obj fields
  | .other _ plain => plain

def integrityTypes : List String :=
  ["dependency.conflicting_constraints", "dependency.version_mismatch",
    "dependency.duplicate_or_overlap"]

/-- The results on the findings of unresolved dependencies, matched by their ids. -/
def dependencyResults (findings : List Finding) (results : List DependencyResolutionResult) :
    List DependencyResolutionResult :=
  results.filter fun result =>
    findings.any fun finding => finding.type = unresolvedType ∧ finding.id = result.findingId

/-- `resolved_count / len(dependency_findings)`. -/
def resolvedShare (results : List DependencyResolutionResult) : ℚ :=
  if results = [] then 1
  else rounded ((results.countP fun result => result.resolved) / results.length)

/-- `evaluate_fix_completeness(...)`. The manifest is not read. -/
def evaluateFixCompleteness (plan : CandidatePlan) (findings : List Finding)
    (results : List DependencyResolutionResult) : CompletenessResult :=
  evaluateCompleteness
    { scopeCompleteness := 1
      dependencyResolvability := resolvedShare (dependencyResults findings results)
      planCompleteness := if plan.isQualified then 1 else 0
      aflowOutputCompleteness := 1
      statementConsistency := 1
      dependencyIntegrity :=
        if findings.any fun finding => finding.type ∈ integrityTypes then 0 else 1 } []

/-! ### When it passes -/

/-- **The share of resolved findings reaches the threshold**: `k` of `n`. -/
def reachesThreshold (resolved total : Nat) : Bool :=
  total = 0 ||
    completenessThreshold ≤
      rounded (scopeWeight + rounded (rounded (resolved / total) * dependencyWeight))

theorem completenessScore_dependencies (results : List DependencyResolutionResult)
    (plan integrity : ℚ) :
    completenessThreshold ≤ completenessScore
        { scopeCompleteness := 1, dependencyResolvability := resolvedShare results
          planCompleteness := plan, aflowOutputCompleteness := 1, statementConsistency := 1
          dependencyIntegrity := integrity } ↔
      reachesThreshold (results.countP fun result => result.resolved) results.length = true := by
  have scope : rounded (1 * scopeWeight) = scopeWeight := by decide +kernel
  have whole : completenessThreshold ≤
      rounded (scopeWeight + rounded (1 * dependencyWeight)) := by decide +kernel
  unfold completenessScore resolvedShare reachesThreshold
  rw [scope]
  cases results with
  | nil => simpa using whole
  | cons result rest => simp

theorem evaluateCompleteness_status (values : CompletenessValues) (missingInfo : List String) :
    (evaluateCompleteness values missingInfo).status =
      if ∀ gate ∈ structuralGates values, 1 ≤ gate.2 then
        if completenessThreshold ≤ completenessScore values then .pass else .correctable
      else .uncorrectable := by
  have intact : ((structuralGates values).filter fun gate => gate.2 < 1).map Prod.fst = [] ↔
      ∀ gate ∈ structuralGates values, 1 ≤ gate.2 := by
    simp only [List.map_eq_nil_iff, List.filter_eq_nil_iff, decide_eq_true_eq, not_lt]
  unfold evaluateCompleteness
  by_cases whole : ∀ gate ∈ structuralGates values, 1 ≤ gate.2
  · rw [if_neg (not_not_intro (intact.mpr whole)), if_pos whole]
    split <;> rfl
  · rw [if_pos (mt intact.mp whole), if_neg whole]

/-- **The gate passes when the plan is qualified, no dependencies conflict, and enough is resolved.** -/
theorem evaluateFixCompleteness_status (plan : CandidatePlan) (findings : List Finding)
    (results : List DependencyResolutionResult) :
    (evaluateFixCompleteness plan findings results).status =
      if plan.isQualified = true ∧ ∀ finding ∈ findings, finding.type ∉ integrityTypes then
        if reachesThreshold
            ((dependencyResults findings results).countP fun result => result.resolved)
            (dependencyResults findings results).length then .pass
        else .correctable
      else .uncorrectable := by
  have qualified : (1 : ℚ) ≤ (if plan.isQualified then 1 else 0) ↔ plan.isQualified = true := by
    cases plan.isQualified <;> decide
  have intact : (1 : ℚ) ≤
        (if findings.any fun finding => finding.type ∈ integrityTypes then 0 else 1) ↔
      ∀ finding ∈ findings, finding.type ∉ integrityTypes := by
    simp only [List.any_eq_true, decide_eq_true_eq]
    split
    · rename_i conflict
      obtain ⟨finding, member, kind⟩ := conflict
      exact iff_of_false (by decide) fun none => none finding member kind
    · rename_i none
      exact iff_of_true le_rfl fun finding member kind => none ⟨finding, member, kind⟩
  rw [evaluateFixCompleteness, evaluateCompleteness_status]
  simp only [structuralGates, List.forall_mem_cons, List.not_mem_nil, false_implies, implies_true,
    and_true, le_refl, true_and, qualified, intact, completenessScore_dependencies]

end

open Json

/-! ### What an igniter answers -/

/-- The result of an igniter. An attribute that the object does not have is `none`. -/
structure IgnitionResult where
  candidatePlan : Option CandidatePlan
  buildAnalysis : Option Json
  executionContract : Option Json
  implementationEligible : Option Bool
  successDefinition : Option SuccessDefinition
  verificationGrounding : Option VerificationGrounding

/-- The result of the local boundary has no `build_analysis`. -/
def FixIgnitionResult.ignited (result : FixIgnitionResult) : IgnitionResult :=
  { candidatePlan := some (.record result.candidatePlan)
    buildAnalysis := none
    executionContract := some .null
    implementationEligible := some result.implementationEligible
    successDefinition := some result.successDefinition
    verificationGrounding := some result.verificationGrounding }

/-- `getattr(result, "candidate_plan", operation.plan)`. -/
def IgnitionResult.plan (result : IgnitionResult) (operation : AcceptedFixOperation) :
    CandidatePlan :=
  result.candidatePlan.getD (.record operation.plan)

/-! ### The document -/

def noAuthority : Json :=
  .obj [("mutation_authorized", .bool false), ("execution_authorized", .bool false),
    ("apply_authorized", .bool false), ("completion_claimed", .bool false)]

def SuccessDefinition.contract (success : SuccessDefinition) : Json :=
  .obj [("finding_checks", .arr (success.findingChecks.map FindingCheck.plain)),
    ("validations", .arr (success.validations.map ValidationSpec.plain)),
    ("must_not_regress", textsJson success.mustNotRegress),
    ("success_rule", .str success.successRule)]

/-- The fields of the success definition, of its grounding and of the decisions, where they are. -/
def handoffEvidence (operation : AcceptedFixOperation) (result : IgnitionResult) : Dict :=
  (match result.successDefinition with
    | some success => [("verification_contract", success.contract)]
    | none => []) ++
  (match result.verificationGrounding with
    | some grounding => [("verification_grounding", grounding.toMapping)]
    | none => []) ++
  match operation.authorityDecisions with
  | some decisions =>
    if decisions.entries.isEmpty then [] else [("authority_decisions", tableJson id decisions)]
  | none => []

/-- The payload of `persist_handoff`, before its hash. -/
def handoffPayload (operation : AcceptedFixOperation) (result : IgnitionResult) : Dict :=
  [("schema_version", .int 1), ("operation_id", .str operation.operationId),
    ("operation_type", .str "fix"), ("findings", .arr (operation.findings.map Finding.plain)),
    ("scoped_manifest", operation.manifest.plain),
    ("statements", .arr (operation.statements.toList.map Statement.plain)),
    ("qualified_plan", (result.plan operation).plain), ("authority", noAuthority)] ++
  handoffEvidence operation result

/-- The text of a document that is hashed: sorted keys, compact separators, a newline. -/
def documentText (document : Dict) : String :=
  (sortKeys (.obj document)).dumps { compact := true } ++ "\n"

/-- **The document that `persist_handoff` writes.** -/
def persistHandoff (sha : Aflow.Sha256) (operation : AcceptedFixOperation)
    (result : IgnitionResult) : Dict :=
  handoffPayload operation result ++
    [("handoff_sha256", .str (sha.hexdigest (documentText (handoffPayload operation result))))]

def handoffPath (storeRoot operationId : String) : String :=
  storeRoot ++ "/" ++ operationId ++ "/qualified-fix-handoff.json"

end Audisor.Fix
