/-
**The artifacts that A-Flow reads.**

* One structure for each document of `schemas/v1` that the program is given, and for its parts. The
  fields carry the schema's formats, so that a value is a document that its schema admits.
* `toJson` — the document itself, which its hash covers.
* `SuccessDefinition.ref`, `Plan.ref`, … — `artifact_ref` of each kind of document: of the hash it
  states, or of its canonical hash where it states none.
-/

import Audisor.Aflow.Hashing
import Audisor.Aflow.Vocabulary

namespace Audisor.Aflow

open Json

/-! ### Writing documents -/

def listOf {α : Type} (items : List α) (write : α → Json) : Json := .arr (items.map write)

def texts {format : String → Prop} (items : List { text : String // format text }) : Json :=
  listOf items fun text => .str text.val

def optional {α : Type} (key : String) (value : Option α) (write : α → Json) : Dict :=
  match value with
  | some value => [(key, write value)]
  | none => []

def version : String × Json := ("schema_version", .str schemaVersion.val)

/-! ### Sources and evidence -/

structure SourceReference where
  sourceType : SourceType
  sourceId : Words
  location : Words
  evidenceStatus : EvidenceStatus
  contentHash : Option Digest := none
  deriving DecidableEq

def SourceReference.toJson (source : SourceReference) : Json :=
  .obj ([("source_type", .str source.sourceType.val), ("source_id", .str source.sourceId.val),
    ("location", .str source.location.val),
    ("evidence_status", .str source.evidenceStatus.value)] ++
      optional "content_hash" source.contentHash fun hash => .str hash.val)

structure Locator where
  kind : LocatorKind
  value : Words
  deriving DecidableEq

/-- A piece of evidence. -/
structure Evidence where
  evidenceId : Identifier
  evidenceType : EvidenceType
  claim : Words
  source : SourceReference
  collectedBy : Collector
  collectedAt : String
  contentHash : Digest
  visibility : Visibility
  locator : Locator
  payloadSummary : Option String := none
  rawArtifactRef : Option ArtifactRef := none
  deriving DecidableEq

def Evidence.toJson (item : Evidence) : Json :=
  .obj ([version, ("evidence_id", .str item.evidenceId.val),
    ("evidence_type", .str item.evidenceType.val), ("claim", .str item.claim.val),
    ("source", item.source.toJson), ("collected_by", .str item.collectedBy.value),
    ("collected_at", .str item.collectedAt), ("content_hash", .str item.contentHash.val),
    ("visibility", .str item.visibility.value),
    ("locator", .obj [("kind", .str item.locator.kind.value),
      ("value", .str item.locator.value.val)])] ++
      optional "payload_summary" item.payloadSummary .str ++
      optional "raw_artifact_ref" item.rawArtifactRef ArtifactRef.toJson)

/-- `evidence_ref(item["evidence_id"], item)`. -/
def Evidence.ref (item : Evidence) : EvidenceRef := ⟨item.evidenceId, item.contentHash⟩

/-! ### The success definition -/

structure Actor where
  actorId : Identifier
  role : Words
  expectedCapability : Words
  deriving DecidableEq

structure Requirement where
  requirementId : Identifier
  statement : Words
  observableOutcome : Words
  qualityDimensions : DistinctSome QualityDimension
  priority : Priority
  sourceReferences : AtLeastOne SourceReference
  deriving DecidableEq

structure ProhibitedOutcome where
  outcomeId : Identifier
  statement : Words
  blocking : Bool
  deriving DecidableEq

structure NonGoal where
  nonGoalId : Identifier
  statement : Words
  deriving DecidableEq

structure ProofObligation where
  proofId : Identifier
  requirementIds : DistinctSome Identifier
  proofType : ProofType
  executor : Executor
  procedure : Words
  passCondition : Words
  failCondition : Words
  requiredEnvironment : Option Words := none
  requiredEvidenceTypes : Option (DistinctSome EvidenceType) := none
  deriving DecidableEq

/-- **What the user confirmed**: the requirements, and how they are to be proven. -/
structure SuccessDefinition where
  successDefinitionId : Identifier
  version : SemVer
  successStatement : Words
  actors : AtLeastOne Actor
  requirements : AtLeastOne Requirement
  prohibitedOutcomes : List ProhibitedOutcome
  nonGoals : List NonGoal
  proofObligations : AtLeastOne ProofObligation
  confirmedAt : String
  confirmationHash : Digest
  deriving DecidableEq

def Actor.toJson (actor : Actor) : Json :=
  .obj [("actor_id", .str actor.actorId.val), ("role", .str actor.role.val),
    ("expected_capability", .str actor.expectedCapability.val)]

def Requirement.toJson (requirement : Requirement) : Json :=
  .obj [("requirement_id", .str requirement.requirementId.val),
    ("statement", .str requirement.statement.val),
    ("observable_outcome", .str requirement.observableOutcome.val),
    ("quality_dimensions", listOf requirement.qualityDimensions.val fun name => .str name.value),
    ("priority", .str requirement.priority.value),
    ("source_references", listOf requirement.sourceReferences.val SourceReference.toJson)]

def ProhibitedOutcome.toJson (outcome : ProhibitedOutcome) : Json :=
  .obj [("outcome_id", .str outcome.outcomeId.val), ("statement", .str outcome.statement.val),
    ("blocking", .bool outcome.blocking)]

def NonGoal.toJson (goal : NonGoal) : Json :=
  .obj [("non_goal_id", .str goal.nonGoalId.val), ("statement", .str goal.statement.val)]

def ProofObligation.toJson (proof : ProofObligation) : Json :=
  .obj ([("proof_id", .str proof.proofId.val), ("requirement_ids", texts proof.requirementIds.val),
    ("proof_type", .str proof.proofType.val), ("executor", .str proof.executor.value),
    ("procedure", .str proof.procedure.val), ("pass_condition", .str proof.passCondition.val),
    ("fail_condition", .str proof.failCondition.val)] ++
      optional "required_environment" proof.requiredEnvironment (fun text => .str text.val) ++
      optional "required_evidence_types" proof.requiredEvidenceTypes fun types => texts types.val)

def SuccessDefinition.toJson (success : SuccessDefinition) : Json :=
  .obj [Aflow.version, ("success_definition_id", .str success.successDefinitionId.val),
    ("version", .str success.version.val), ("success_statement", .str success.successStatement.val),
    ("actors", listOf success.actors.val Actor.toJson),
    ("requirements", listOf success.requirements.val Requirement.toJson),
    ("prohibited_outcomes", listOf success.prohibitedOutcomes ProhibitedOutcome.toJson),
    ("non_goals", listOf success.nonGoals NonGoal.toJson),
    ("proof_obligations", listOf success.proofObligations.val ProofObligation.toJson),
    ("confirmation", .obj [("confirmed_by", .str "user"), ("confirmed_at", .str success.confirmedAt),
      ("content_hash", .str success.confirmationHash.val)])]

def SuccessDefinition.ref (sha : Sha256) (success : SuccessDefinition) : ArtifactRef :=
  artifactRef success.successDefinitionId "success-definition.schema.json" success.version
    (canonicalHash sha success.toJson)

/-! ### The plan -/

structure PathScope where
  path : RelativePath
  reason : Words
  authorityStatus : AuthorityStatus
  deriving DecidableEq

structure CoverageRow where
  requirementId : Identifier
  actionIds : DistinctSome Identifier
  validationIds : DistinctSome Identifier
  deriving DecidableEq

structure Prerequisite where
  prerequisiteId : Identifier
  condition : Words
  status : PrerequisiteStatus
  evidenceRefs : Option (List EvidenceRef) := none
  deriving DecidableEq

/-- When an action may run. -/
structure ActionActivation where
  activationType : ActivationType
  activationSource : Option Words := none
  currentlyAuthorized : Bool
  deriving DecidableEq

structure ExpectedOutput where
  outputId : Identifier
  description : Words
  artifactPath : Option RelativePath := none
  deriving DecidableEq

structure Action where
  actionId : Identifier
  objective : Words
  requirementIds : DistinctSome Identifier
  capabilityId : Identifier
  owner : Executor
  phase : Phase
  targetPaths : List RelativePath
  dependsOn : Distinct Identifier
  prerequisites : List Prerequisite
  activation : ActionActivation
  expectedOutputs : AtLeastOne ExpectedOutput
  deriving DecidableEq

structure Validation where
  validationId : Identifier
  requirementIds : DistinctSome Identifier
  actionIds : DistinctSome Identifier
  proofId : Identifier
  proofType : ProofType
  executor : Executor
  procedure : Words
  passCondition : Words
  failCondition : Words
  requiredEnvironment : Option Words := none
  evidenceExpected : DistinctSome EvidenceType
  deriving DecidableEq

structure Dependency where
  dependencyId : Identifier
  description : Words
  source : SourceReference
  status : DependencyStatus
  deriving DecidableEq

structure Assumption where
  assumptionId : Identifier
  statement : Words
  status : AssumptionStatus
  evidenceRefs : Option (List EvidenceRef) := none
  deriving DecidableEq

structure AuthorityRisk where
  riskId : Identifier
  description : Words
  status : RiskStatus
  evidenceRefs : Option (List EvidenceRef) := none
  deriving DecidableEq

structure FailureHandling where
  failureId : Identifier
  condition : Words
  action : OneOf ["block", "isolate", "return_to_codex", "abandon_build"]
  recoveryCondition : Words
  deriving DecidableEq

structure StopCondition where
  stopId : Identifier
  condition : Words
  effect : OneOf ["stop_action", "stop_phase", "stop_execution"]
  resumeCondition : Words
  deriving DecidableEq

/-- **What is to be built, and how it will be checked.** -/
structure Plan where
  planId : Identifier
  version : SemVer
  successDefinitionReference : ArtifactRef
  objective : Words
  interpretation : Words
  repositoryBaselineReference : ArtifactRef
  authorityBundleReference : ArtifactRef
  targetPaths : AtLeastOne PathScope
  excludedPaths : List PathScope
  requirementsCoverage : AtLeastOne CoverageRow
  actions : AtLeastOne Action
  validations : AtLeastOne Validation
  dependencies : List Dependency
  assumptions : List Assumption
  authorityRisks : List AuthorityRisk
  failureHandling : AtLeastOne FailureHandling
  stopConditions : AtLeastOne StopCondition
  deriving DecidableEq

def PathScope.toJson (scope : PathScope) : Json :=
  .obj [("path", .str scope.path.val), ("reason", .str scope.reason.val),
    ("authority_status", .str scope.authorityStatus.value)]

def CoverageRow.toJson (row : CoverageRow) : Json :=
  .obj [("requirement_id", .str row.requirementId.val), ("action_ids", texts row.actionIds.val),
    ("validation_ids", texts row.validationIds.val)]

def refs (items : List EvidenceRef) : Json := listOf items EvidenceRef.toJson

def Prerequisite.toJson (prerequisite : Prerequisite) : Json :=
  .obj ([("prerequisite_id", .str prerequisite.prerequisiteId.val),
    ("condition", .str prerequisite.condition.val),
    ("status", .str prerequisite.status.value)] ++
      optional "evidence_refs" prerequisite.evidenceRefs refs)

def ActionActivation.toJson (activation : ActionActivation) : Json :=
  .obj ([("activation_type", .str activation.activationType.value)] ++
    optional "activation_source" activation.activationSource (fun text => .str text.val) ++
    [("currently_authorized", .bool activation.currentlyAuthorized)])

def ExpectedOutput.toJson (output : ExpectedOutput) : Json :=
  .obj ([("output_id", .str output.outputId.val), ("description", .str output.description.val)] ++
    optional "artifact_path" output.artifactPath fun path => .str path.val)

def Action.toJson (action : Action) : Json :=
  .obj [("action_id", .str action.actionId.val), ("objective", .str action.objective.val),
    ("requirement_ids", texts action.requirementIds.val),
    ("capability_id", .str action.capabilityId.val), ("owner", .str action.owner.value),
    ("phase", .str action.phase.val), ("target_paths", texts action.targetPaths),
    ("depends_on", texts action.dependsOn.val),
    ("prerequisites", listOf action.prerequisites Prerequisite.toJson),
    ("activation", action.activation.toJson),
    ("expected_outputs", listOf action.expectedOutputs.val ExpectedOutput.toJson)]

def Validation.toJson (validation : Validation) : Json :=
  .obj ([("validation_id", .str validation.validationId.val),
    ("requirement_ids", texts validation.requirementIds.val),
    ("action_ids", texts validation.actionIds.val), ("proof_id", .str validation.proofId.val),
    ("proof_type", .str validation.proofType.val), ("executor", .str validation.executor.value),
    ("procedure", .str validation.procedure.val),
    ("pass_condition", .str validation.passCondition.val),
    ("fail_condition", .str validation.failCondition.val)] ++
      optional "required_environment" validation.requiredEnvironment (fun text => .str text.val) ++
      [("evidence_expected", texts validation.evidenceExpected.val)])

def Dependency.toJson (dependency : Dependency) : Json :=
  .obj [("dependency_id", .str dependency.dependencyId.val),
    ("description", .str dependency.description.val), ("source", dependency.source.toJson),
    ("status", .str dependency.status.value)]

def Assumption.toJson (assumption : Assumption) : Json :=
  .obj ([("assumption_id", .str assumption.assumptionId.val),
    ("statement", .str assumption.statement.val), ("status", .str assumption.status.value)] ++
      optional "evidence_refs" assumption.evidenceRefs refs)

def AuthorityRisk.toJson (risk : AuthorityRisk) : Json :=
  .obj ([("risk_id", .str risk.riskId.val), ("description", .str risk.description.val),
    ("status", .str risk.status.value)] ++ optional "evidence_refs" risk.evidenceRefs refs)

def FailureHandling.toJson (failure : FailureHandling) : Json :=
  .obj [("failure_id", .str failure.failureId.val), ("condition", .str failure.condition.val),
    ("action", .str failure.action.val), ("recovery_condition", .str failure.recoveryCondition.val)]

def StopCondition.toJson (stop : StopCondition) : Json :=
  .obj [("stop_id", .str stop.stopId.val), ("condition", .str stop.condition.val),
    ("effect", .str stop.effect.val), ("resume_condition", .str stop.resumeCondition.val)]

def Plan.toJson (plan : Plan) : Json :=
  .obj [Aflow.version, ("plan_id", .str plan.planId.val), ("version", .str plan.version.val),
    ("created_by", .str "codex"),
    ("success_definition_reference", plan.successDefinitionReference.toJson),
    ("objective", .str plan.objective.val), ("interpretation", .str plan.interpretation.val),
    ("repository_baseline_reference", plan.repositoryBaselineReference.toJson),
    ("authority_bundle_reference", plan.authorityBundleReference.toJson),
    ("target_paths", listOf plan.targetPaths.val PathScope.toJson),
    ("excluded_paths", listOf plan.excludedPaths PathScope.toJson),
    ("requirements_coverage", listOf plan.requirementsCoverage.val CoverageRow.toJson),
    ("actions", listOf plan.actions.val Action.toJson),
    ("validations", listOf plan.validations.val Validation.toJson),
    ("dependencies", listOf plan.dependencies Dependency.toJson),
    ("assumptions", listOf plan.assumptions Assumption.toJson),
    ("authority_risks", listOf plan.authorityRisks AuthorityRisk.toJson),
    ("failure_handling", listOf plan.failureHandling.val FailureHandling.toJson),
    ("stop_conditions", listOf plan.stopConditions.val StopCondition.toJson)]

def Plan.ref (sha : Sha256) (plan : Plan) : ArtifactRef :=
  artifactRef plan.planId "plan.schema.json" plan.version (canonicalHash sha plan.toJson)

/-! ### The baseline -/

structure BaselineScope where
  mode : OneOf ["global", "scoped"]
  relevantPaths : List RelativePath
  protectedPaths : List RelativePath
  deriving DecidableEq

structure BaselineEntry where
  path : RelativePath
  contentHash : Digest
  classification : Classification
  deriving DecidableEq

structure AuthorityHash where
  authorityId : Identifier
  contentHash : Digest
  deriving DecidableEq

/-- **The state of the repository** that a plan was analysed against. -/
structure Baseline where
  baselineId : Identifier
  repositoryRoot : AbsolutePath
  repositoryKind : RepositoryKind
  gitHead : Option (Option String) := none
  gitState : GitState
  dirtyState : DirtyState
  scope : BaselineScope
  entries : List BaselineEntry
  authorityHashes : List AuthorityHash
  capturedAt : String
  contentHash : Digest
  deriving DecidableEq

def BaselineScope.toJson (scope : BaselineScope) : Json :=
  .obj [("mode", .str scope.mode.val), ("relevant_paths", texts scope.relevantPaths),
    ("protected_paths", texts scope.protectedPaths)]

def BaselineEntry.toJson (entry : BaselineEntry) : Json :=
  .obj [("path", .str entry.path.val), ("content_hash", .str entry.contentHash.val),
    ("classification", .str entry.classification.value)]

def AuthorityHash.toJson (authority : AuthorityHash) : Json :=
  .obj [("authority_id", .str authority.authorityId.val),
    ("content_hash", .str authority.contentHash.val)]

def Baseline.toJson (baseline : Baseline) : Json :=
  .obj ([version, ("baseline_id", .str baseline.baselineId.val),
    ("repository_root", .str baseline.repositoryRoot.val),
    ("repository_kind", .str baseline.repositoryKind.val)] ++
      optional "git_head" baseline.gitHead (fun head => head.elim .null .str) ++
      [("git_state", .str baseline.gitState.val), ("dirty_state", .str baseline.dirtyState.val),
        ("scope", baseline.scope.toJson), ("entries", listOf baseline.entries BaselineEntry.toJson),
        ("authority_hashes", listOf baseline.authorityHashes AuthorityHash.toJson),
        ("captured_at", .str baseline.capturedAt), ("content_hash", .str baseline.contentHash.val)])

def Baseline.ref (baseline : Baseline) : ArtifactRef :=
  artifactRef baseline.baselineId "baseline.schema.json" schemaVersion baseline.contentHash

/-! ### The lock and the build result -/

/-- **The binding of an accepted plan** to its definition, authority and baseline. -/
structure LockedPlan where
  lockId : Identifier
  analysisDecisionReference : ArtifactRef
  planReference : ArtifactRef
  successDefinitionReference : ArtifactRef
  authorityBundleReference : ArtifactRef
  baselineReference : ArtifactRef
  lockedBy : OneOf ["aflow", "human"]
  lockedAt : String
  lockHash : Digest
  deriving DecidableEq

def LockedPlan.toJson (locked : LockedPlan) : Json :=
  .obj [version, ("lock_id", .str locked.lockId.val),
    ("analysis_decision_reference", locked.analysisDecisionReference.toJson),
    ("plan_reference", locked.planReference.toJson),
    ("success_definition_reference", locked.successDefinitionReference.toJson),
    ("authority_bundle_reference", locked.authorityBundleReference.toJson),
    ("baseline_reference", locked.baselineReference.toJson),
    ("locked_by", .str locked.lockedBy.val), ("locked_at", .str locked.lockedAt),
    ("lock_hash", .str locked.lockHash.val)]

def LockedPlan.ref (locked : LockedPlan) : ArtifactRef :=
  artifactRef locked.lockId "locked-plan.schema.json" schemaVersion locked.lockHash

structure BuildOutput where
  outputId : Identifier
  requirementIds : AtLeastOne Identifier
  description : Words
  artifactReferences : Option (List ArtifactRef) := none
  evidenceReferences : AtLeastOne EvidenceRef
  deriving DecidableEq

structure ValidationResult where
  validationId : Identifier
  status : ResultStatus
  evidenceReferences : List EvidenceRef
  deriving DecidableEq

structure OutcomeCheck where
  outcomeId : Identifier
  present : Bool
  evidenceReferences : List EvidenceRef
  deriving DecidableEq

structure ObservedEnvironment where
  environmentId : Identifier
  description : Words
  matchesRequiredEnvironment : Option Bool := none
  deriving DecidableEq

/-- **What a builder reports.** -/
structure BuildResult where
  buildResultId : Identifier
  lockedPlanReference : ArtifactRef
  producedBy : OneOf ["codex", "edge", "human", "external_harness"]
  startedAt : String
  finishedAt : String
  status : BuildStatus
  observedEnvironment : ObservedEnvironment
  outputs : List BuildOutput
  validationResults : List ValidationResult
  prohibitedOutcomeChecks : List OutcomeCheck
  postBuildBaselineReference : ArtifactRef
  contentHash : Digest
  deriving DecidableEq

def BuildOutput.toJson (output : BuildOutput) : Json :=
  .obj ([("output_id", .str output.outputId.val),
    ("requirement_ids", texts output.requirementIds.val),
    ("description", .str output.description.val)] ++
      optional "artifact_references" output.artifactReferences
        (fun items => listOf items ArtifactRef.toJson) ++
      [("evidence_references", refs output.evidenceReferences.val)])

def ValidationResult.toJson (result : ValidationResult) : Json :=
  .obj [("validation_id", .str result.validationId.val), ("status", .str result.status.value),
    ("evidence_references", refs result.evidenceReferences)]

def OutcomeCheck.toJson (check : OutcomeCheck) : Json :=
  .obj [("outcome_id", .str check.outcomeId.val), ("present", .bool check.present),
    ("evidence_references", refs check.evidenceReferences)]

def ObservedEnvironment.toJson (environment : ObservedEnvironment) : Json :=
  .obj ([("environment_id", .str environment.environmentId.val),
    ("description", .str environment.description.val)] ++
      optional "matches_required_environment" environment.matchesRequiredEnvironment .bool)

def BuildResult.toJson (build : BuildResult) : Json :=
  .obj [version, ("build_result_id", .str build.buildResultId.val),
    ("locked_plan_reference", build.lockedPlanReference.toJson),
    ("produced_by", .str build.producedBy.val), ("started_at", .str build.startedAt),
    ("finished_at", .str build.finishedAt), ("status", .str build.status.value),
    ("observed_environment", build.observedEnvironment.toJson),
    ("outputs", listOf build.outputs BuildOutput.toJson),
    ("validation_results", listOf build.validationResults ValidationResult.toJson),
    ("prohibited_outcome_checks", listOf build.prohibitedOutcomeChecks OutcomeCheck.toJson),
    ("post_build_baseline_reference", build.postBuildBaselineReference.toJson),
    ("content_hash", .str build.contentHash.val)]

def BuildResult.ref (build : BuildResult) : ArtifactRef :=
  artifactRef build.buildResultId "build-result.schema.json" schemaVersion build.contentHash

end Audisor.Aflow
