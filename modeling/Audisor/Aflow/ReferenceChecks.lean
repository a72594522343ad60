/-
**The checks of references, of authority and activation, of coverage and dependencies.**

* `EvidenceChecks.check` — every document is sealed, and every evidence reference of the plan resolves.
* `ReferenceChecks.check` — the plan refers to the definition, the baseline and the authority bundle of
  the request.
* `objections` — the items that a check objects to, with their positions.
* `AuthorityChecks.check` — the targets, the actions and their outputs stay inside the approved paths. A
  path is compared by its components, as `PurePosixPath` reads them: `..` is a name like any other.
* `ActivationChecks.check` — every action has an available capability, and may run in its phase.
* `CoverageChecks.check` — the requirements, actions, validations and proofs that name each other exist,
  and every blocking requirement is covered.
* `DependencyChecks.check` — the dependencies of the actions exist, have no cycle, and are resolved. The
  walk carries the actions it is in (`visiting`), those it has left, and what it has found.
* `dictKeys`, `dictValues` — the `dict` of some items by their ids.
-/

import Audisor.Aflow.Findings

namespace Audisor.Aflow

open Json

section

variable (sha : Sha256)

/-- The items of a list that a check objects to, with their positions. -/
def objections {α : Type} (items : List α) (objection : α → Nat → Option Finding) : List Finding :=
  items.zipIdx.filterMap fun (item, index) => objection item index

/-! ### Evidence -/

namespace EvidenceChecks

def add (request : AnalysisRequest) (findingId location claim : String) : Finding :=
  makeFinding findingId .brokenReference .deterministic [location] claim
    [requestEvidenceRef request]

/-- `label.replace(' ', '-')`. -/
def hyphenated (label : String) : String :=
  String.ofList (label.toList.map fun c => if c = ' ' then '-' else c)

/-- The artifacts beside the plan: whether each is sealed, where its hash is, and its name. -/
def artifacts (request : AnalysisRequest) : List (Bool × String × String) :=
  [(verifyHash sha request.authorityEvidence.contentHash request.authorityEvidence.toJson,
      "/authority_evidence/content_hash", "authority evidence"),
    (verifyHash sha request.repositoryEvidence.contentHash request.repositoryEvidence.toJson,
      "/repository_evidence/content_hash", "repository evidence"),
    (verifyHash sha request.baseline.contentHash request.baseline.toJson,
      "/baseline/content_hash", "repository baseline")]

def prerequisiteReferences (plan : Plan) : List (String × EvidenceRef) :=
  plan.actions.val.zipIdx.flatMap fun (action, i) =>
    action.prerequisites.zipIdx.flatMap fun (prerequisite, j) =>
      (prerequisite.evidenceRefs.getD []).map fun ref =>
        ("/plan/actions/" ++ numeral i ++ "/prerequisites/" ++ numeral j ++ "/evidence_refs", ref)

def itemReferences {α : Type} (field : String) (items : List α)
    (evidenceRefs : α → Option (List EvidenceRef)) : List (String × EvidenceRef) :=
  items.zipIdx.flatMap fun (item, i) =>
    ((evidenceRefs item).getD []).map fun ref =>
      ("/plan/" ++ field ++ "/" ++ numeral i ++ "/evidence_refs", ref)

/-- Every evidence reference of the plan, and where it stands. -/
def references (plan : Plan) : List (String × EvidenceRef) :=
  prerequisiteReferences plan ++ itemReferences "assumptions" plan.assumptions Assumption.evidenceRefs ++
    itemReferences "authority_risks" plan.authorityRisks AuthorityRisk.evidenceRefs

/-- Whether a reference names a piece of evidence of the request, with its hash. -/
def resolves (request : AnalysisRequest) (ref : EvidenceRef) : Bool :=
  (byKey request.evidence Evidence.evidenceId ref.evidenceId).any fun item =>
    item.contentHash = ref.contentHash

def check (request : AnalysisRequest) : List Finding :=
  ((duplicates (ids request.evidence Evidence.evidenceId)).map fun id =>
    add request ("evidence.duplicate." ++ id) "/evidence"
      ("Evidence ID " ++ id ++ " is duplicated in the bounded input.")) ++
  ((artifacts sha request).filterMap fun (sealed, location, label) =>
    if sealed then none
    else some (add request ("hash." ++ hyphenated label) location
      ("The supplied " ++ label ++ " content hash does not match canonical content."))) ++
  (objections request.evidence fun item index =>
    if verifyHash sha item.contentHash item.toJson then none
    else some (add request ("hash.evidence." ++ numeral index)
      ("/evidence/" ++ numeral index ++ "/content_hash")
      ("Evidence " ++ item.evidenceId.val ++ " has a content-hash mismatch."))) ++
  objections (references request.plan) fun (location, ref) index =>
    if resolves request ref then none
    else some (add request ("evidence.reference." ++ numeral index) location
      ("Evidence reference " ++ ref.evidenceId.val ++ " is absent or hash-mismatched."))

end EvidenceChecks

/-! ### References -/

namespace ReferenceChecks

/-- The fields of a reference to the success definition: what the plan states, and what is expected. -/
def successFields (stated expected : ArtifactRef) : List (String × String × String) :=
  [("artifact_id", stated.artifactId.val, expected.artifactId.val),
    ("schema_id", stated.schemaId.val, expected.schemaId.val),
    ("version", stated.version.val, expected.version.val),
    ("content_hash", stated.contentHash.val, expected.contentHash.val)]

def artifactFinding (request : AnalysisRequest) (field : String) : Finding :=
  makeFinding ("reference." ++ field) .brokenReference .deterministic ["/plan/" ++ field]
    ("Plan " ++ field ++
      " does not exactly bind the supplied artifact ID, schema ID, version, and content hash.")
    [requestEvidenceRef request]

def check (request : AnalysisRequest) : List Finding :=
  ((successFields request.plan.successDefinitionReference (request.successDefinition.ref sha)).filterMap
    fun (field, stated, expected) =>
      if stated = expected then none
      else some (makeFinding ("reference.success." ++ field) .brokenReference .deterministic
        ["/plan/success_definition_reference/" ++ field]
        ("Plan success-definition " ++ field ++
          " does not match the separately confirmed artifact.")
        [requestEvidenceRef request]
        { acceptancePredicates :=
            some ["success_definition_reference." ++ field ++ " equals " ++ expected] })) ++
  (if request.plan.repositoryBaselineReference = request.baseline.ref then []
    else [artifactFinding request "repository_baseline_reference"]) ++
  (if request.plan.authorityBundleReference = request.authorityEvidence.ref then []
    else [artifactFinding request "authority_bundle_reference"])

end ReferenceChecks

end

/-! ### Authority -/

namespace AuthorityChecks

/-- The components of `PurePosixPath(path)`, for a path that is not rooted. -/
def components (path : String) : List (List Char) :=
  (path.toList.splitOn '/').filter fun component => component ≠ [] ∧ component ≠ ['.']

/-- `child == parent or parent in child.parents`. -/
def within (path allowedRoot : RelativePath) : Bool :=
  (components allowedRoot.val).isPrefixOf (components path.val)

/-- `a == b or a in b.parents or b in a.parents`. -/
def overlaps (left right : RelativePath) : Bool := within left right || within right left

/-- A target that may be written, and that the path lies in. -/
def allowed (plan : Plan) (path : RelativePath) : Bool :=
  plan.targetPaths.val.any fun target =>
    decide (target.authorityStatus = .allowed) && within path target.path

def prohibited (plan : Plan) (path : RelativePath) : Bool :=
  plan.excludedPaths.any fun excluded => overlaps path excluded.path

def ambiguity (request : AnalysisRequest) (findingId : String) (locations : List String)
    (claim : String) (requirements : List Identifier := []) : Finding :=
  makeFinding findingId .authorityAmbiguity .deterministic locations claim
    [requestEvidenceRef request] { requirementReferences := requirements }

def targetFindings (request : AnalysisRequest) : List Finding :=
  request.plan.targetPaths.val.zipIdx.flatMap fun (target, index) =>
    (if target.authorityStatus = .allowed then []
      else [ambiguity request ("authority.target." ++ numeral index)
        ["/plan/target_paths/" ++ numeral index ++ "/authority_status"]
        ("Target " ++ target.path.val ++ " is not explicitly allowed.")]) ++
    objections request.plan.excludedPaths fun excluded excludedIndex =>
      if overlaps target.path excluded.path then
        some (ambiguity request
          ("authority.conflict." ++ numeral index ++ "." ++ numeral excludedIndex)
          ["/plan/target_paths/" ++ numeral index ++ "/path",
            "/plan/excluded_paths/" ++ numeral excludedIndex ++ "/path"]
          ("Target " ++ target.path.val ++ " overlaps excluded path " ++ excluded.path.val ++ "."))
      else none

def approved (plan : Plan) (path : RelativePath) : Bool := allowed plan path && !prohibited plan path

/-- Whether an output of an action is approved: its path, where it states one. -/
def outputApproved (plan : Plan) (action : Action) (output : ExpectedOutput) : Bool :=
  match output.artifactPath with
  | none => true
  | some path =>
    allowed plan path && action.targetPaths.any (within path) && !prohibited plan path

def actionFindings (request : AnalysisRequest) (action : Action) (actionIndex : Nat) :
    List Finding :=
  (objections action.targetPaths fun path pathIndex =>
    if approved request.plan path then none
    else some (ambiguity request
      ("authority.action-target." ++ numeral actionIndex ++ "." ++ numeral pathIndex)
      ["/plan/actions/" ++ numeral actionIndex ++ "/target_paths/" ++ numeral pathIndex]
      ("Action target " ++ path.val ++
        " is outside allowed plan targets or overlaps an excluded path.")
      action.requirementIds.val)) ++
  objections action.expectedOutputs.val fun output outputIndex =>
    if outputApproved request.plan action output then none
    else some (ambiguity request
      ("authority.output-target." ++ numeral actionIndex ++ "." ++ numeral outputIndex)
      ["/plan/actions/" ++ numeral actionIndex ++ "/expected_outputs/" ++ numeral outputIndex ++
        "/artifact_path"]
      ("Expected output path " ++ (output.artifactPath.elim "None" Subtype.val) ++
        " is outside its action and approved target containment boundaries.")
      action.requirementIds.val)

def risks (request : AnalysisRequest) : List Finding :=
  objections request.plan.authorityRisks fun risk index =>
    if risk.status = .unresolved then
      some (ambiguity request ("authority.risk." ++ risk.riskId.val)
        ["/plan/authority_risks/" ++ numeral index ++ "/status"]
        ("Authority risk " ++ risk.riskId.val ++ " remains unresolved."))
    else none

def check (request : AnalysisRequest) : List Finding :=
  targetFindings request ++
  (request.plan.actions.val.zipIdx.flatMap fun (action, index) =>
    actionFindings request action index) ++
  risks request

end AuthorityChecks

/-! ### Activation -/

namespace ActivationChecks

/-- Whether an action waits for its phase, with a stated source. -/
def entersPhase (action : Action) : Bool :=
  action.activation.activationType = .phaseEntry && action.activation.activationSource.isSome

def needsNoAuthority (activationType : ActivationType) : Bool :=
  activationType = .automatic || activationType = .notRequired

def expectedOwner (owner : CapabilityOwner) : String :=
  if owner = .aflow then "deterministic_local" else owner.value

def capabilityProblems (authorityIds : List String) (action : Action) (capability : Capability) :
    List String :=
  let activation := capability.activation
  let samePhase := activation.requiredPhase = some action.phase
  let deferredPhaseEntry :=
    activation.activationType = .phaseEntry && samePhase && entersPhase action
  (if capability.available then [] else ["capability is unavailable"]) ++
  (if expectedOwner capability.owner = action.owner.value then []
    else ["capability owner is " ++ capability.owner.value ++ ", not " ++ action.owner.value]) ++
  (if !needsNoAuthority activation.activationType && activation.sourceAuthorityId.isNone then
    ["capability activation has no source authority"] else []) ++
  ((activation.sourceAuthorityId.toList.filter fun id => id.val ∉ authorityIds).map fun id =>
    "activation source authority " ++ id.val ++ " does not resolve") ++
  ((activation.requiredPhase.toList.filter fun phase => phase ≠ action.phase).map fun phase =>
    "required phase is " ++ phase.val ++ ", not " ++ action.phase.val) ++
  (if !activation.currentlyAuthorized && !needsNoAuthority activation.activationType &&
      !deferredPhaseEntry then
    ["capability is not currently authorized and has no compatible phase-entry activation"]
  else [])

def prerequisites (action : Action) (statuses : List PrerequisiteStatus) : List String :=
  (action.prerequisites.filter fun item => item.status ∈ statuses).map fun item =>
    item.prerequisiteId.val

/-- What is wrong with an action, whose capability may be absent. -/
def problems (authorityIds : List String) (action : Action) (capability : Option Capability) :
    List String :=
  let deferredAction := entersPhase action &&
    capability.any fun capability => capability.activation.requiredPhase = some action.phase
  let unsatisfied := prerequisites action [.unsatisfied, .unknown]
  let deferred := prerequisites action [.deferred]
  (match capability with
    | none => ["capability is absent from the authority bundle"]
    | some capability => capabilityProblems authorityIds action capability) ++
  ((action.activation.activationSource.toList.filter fun source => source.val ∉ authorityIds).map
    fun source => "action activation source " ++ source.val ++ " does not resolve") ++
  (if action.activation.activationType ≠ .notRequired ∧ action.activation.activationSource = none
    then ["action activation has no explicit source"] else []) ++
  (if !action.activation.currentlyAuthorized && !deferredAction then
    ["action activation is neither authorized nor an explicit compatible phase-entry deferral"]
  else []) ++
  (if unsatisfied.isEmpty then []
    else ["unsatisfied prerequisites: " ++ ", ".intercalate unsatisfied]) ++
  (if deferred.isEmpty || deferredAction then []
    else ["deferred prerequisites lack compatible phase-entry activation: " ++
      ", ".intercalate deferred])

def check (request : AnalysisRequest) : List Finding :=
  objections request.plan.actions.val fun action index =>
    let found := problems
      (request.authorityEvidence.sources.val.map fun source => source.authorityId.val) action
      (byKey request.authorityEvidence.capabilities Capability.capabilityId action.capabilityId)
    if found.isEmpty then none
    else some (makeFinding ("activation." ++ action.actionId.val) .sequenceActivationGap
      .deterministic ["/plan/actions/" ++ numeral index]
      ("Action " ++ action.actionId.val ++ " cannot run in its declared phase: " ++
        "; ".intercalate found ++ ".")
      [requestEvidenceRef request]
      { requirementReferences := action.requirementIds.val
        acceptancePredicates := some ["The action capability, owner, phase, prerequisites, and " ++
          "activation all agree with authority evidence."] })

end ActivationChecks

section

variable {α κ : Type} [DecidableEq κ]

/-- The keys of `{item[key]: item for item in items}`, in the order in which they were set first. -/
def dictKeys (items : List α) (key : α → κ) : List κ := (items.map key).reverse.dedup.reverse

/-- The values of `{item[key]: item for item in items}`. -/
def dictValues (items : List α) (key : α → κ) : List α :=
  (dictKeys items key).filterMap (byKey items key)

end

/-! ### Coverage -/

namespace CoverageChecks

def add (request : AnalysisRequest) (findingId : String) (gap : GapType) (location claim : String)
    (requirements : List Identifier := []) : Finding :=
  makeFinding findingId gap .deterministic [location] claim [requestEvidenceRef request]
    { requirementReferences := requirements }

def requirementIds (success : SuccessDefinition) : List Identifier :=
  success.requirements.val.map Requirement.requirementId

def blocking (success : SuccessDefinition) : List Identifier :=
  ((success.requirements.val.filter fun item => item.priority = .blocking).map
    Requirement.requirementId).dedup.insertionSort fun left right => left.val ≤ right.val

/-- The references of some items to requirements, and where they stand. -/
def itemRequirements {α : Type} (field : String) (items : List α)
    (requirements : α → List Identifier) : List (Identifier × String) :=
  items.zipIdx.flatMap fun (item, i) =>
    (requirements item).map fun id => (id, "/plan/" ++ field ++ "/" ++ numeral i ++ "/requirement_ids")

/-- Every reference of the plan to a requirement, and where it stands. -/
def requirementReferences (plan : Plan) : List (Identifier × String) :=
  (plan.requirementsCoverage.val.zipIdx.map fun (row, i) =>
    (row.requirementId, "/plan/requirements_coverage/" ++ numeral i ++ "/requirement_id")) ++
  itemRequirements "actions" plan.actions.val (fun action => action.requirementIds.val) ++
  itemRequirements "validations" plan.validations.val fun validation => validation.requirementIds.val

/-- The references to requirements that do not exist. They are numbered as they are found. -/
def unknownRequirements (request : AnalysisRequest) : List Finding :=
  (((requirementReferences request.plan).filter fun (id, _) =>
    id ∉ requirementIds request.successDefinition).zipIdx).map fun ((id, location), found) =>
      add request ("coverage.unknown." ++ numeral (found + 1)) .brokenReference location
        ("Unknown requirement reference " ++ id.val ++ ".")

def proofRequirements (request : AnalysisRequest) : List Finding :=
  request.successDefinition.proofObligations.val.zipIdx.flatMap fun (proof, proofIndex) =>
    objections proof.requirementIds.val fun id index =>
      if id ∈ requirementIds request.successDefinition then none
      else some (add request
        ("proof.requirement." ++ proof.proofId.val ++ "." ++ numeral index) .brokenReference
        ("/success_definition/proof_obligations/" ++ numeral proofIndex ++ "/requirement_ids/" ++
          numeral index)
        ("Proof " ++ proof.proofId.val ++ " references unknown requirement " ++ id.val ++ "."))

def requirementCoverage (request : AnalysisRequest) (id : Identifier) : List Finding :=
  let plan := request.plan
  match byKey plan.requirementsCoverage.val CoverageRow.requirementId id with
  | none =>
    [add request ("coverage.missing." ++ id.val) .coverageGap "/plan/requirements_coverage"
      ("Blocking requirement " ++ id.val ++ " has no coverage row.") [id]]
  | some row =>
    (if row.actionIds.val.any fun action => action ∉ plan.actions.val.map Action.actionId then
      [add request ("coverage.action." ++ id.val) .brokenReference "/plan/requirements_coverage"
        ("Coverage for " ++ id.val ++ " references an unknown action.") [id]] else []) ++
    (if row.validationIds.val.any fun validation =>
        validation ∉ plan.validations.val.map Validation.validationId then
      [add request ("coverage.validation." ++ id.val) .brokenReference "/plan/requirements_coverage"
        ("Coverage for " ++ id.val ++ " references an unknown validation.") [id]] else []) ++
    (if ((dictValues plan.actions.val Action.actionId).filter fun action =>
          id ∈ action.requirementIds.val).isEmpty ||
        ((dictValues plan.validations.val Validation.validationId).filter fun validation =>
          id ∈ validation.requirementIds.val).isEmpty then
      [add request ("coverage.empty." ++ id.val) .coverageGap "/plan/requirements_coverage"
        ("Blocking requirement " ++ id.val ++ " needs at least one action and validation.") [id]]
    else [])

/-- What a validation names that does not exist, or that its proof does not cover. -/
def validationReferences (request : AnalysisRequest) (validation : Validation) (index : Nat) :
    List Finding :=
  let id := validation.validationId.val
  match byKey request.successDefinition.proofObligations.val ProofObligation.proofId
      validation.proofId with
  | none =>
    [add request ("proof.unknown." ++ id) .brokenReference
      ("/plan/validations/" ++ numeral index ++ "/proof_id")
      ("Validation " ++ id ++ " references unknown proof " ++ validation.proofId.val ++ ".")]
  | some proof =>
    (if validation.requirementIds.val.all fun requirement => requirement ∈ proof.requirementIds.val
      then []
      else [add request ("proof.coverage." ++ id) .coverageGap
        ("/plan/validations/" ++ numeral index ++ "/requirement_ids")
        "Validation requirements are not covered by its proof obligation."
        validation.requirementIds.val]) ++
    (validation.actionIds.val.filter fun action =>
      action ∉ request.plan.actions.val.map Action.actionId).map fun action =>
        add request ("validation.action." ++ id) .brokenReference
          ("/plan/validations/" ++ numeral index ++ "/action_ids")
          ("Validation references unknown action " ++ action.val ++ ".")

def check (request : AnalysisRequest) : List Finding :=
  unknownRequirements request ++ proofRequirements request ++
  (blocking request.successDefinition).flatMap (requirementCoverage request) ++
  request.plan.validations.val.zipIdx.flatMap fun (validation, index) =>
    validationReferences request validation index

end CoverageChecks

/-! ### Dependencies -/

namespace DependencyChecks

/-- The walk over the dependencies: the actions it has left, and the cycles it has found. -/
structure Walk where
  visited : List Identifier
  findings : List Finding

def actionIds (plan : Plan) : List Identifier := dictKeys plan.actions.val Action.actionId

/-- `chain[chain.index(action_id):] + [action_id]`. -/
def cycle (chain : List Identifier) (actionId : Identifier) : List Identifier :=
  chain.dropWhile (· ≠ actionId) ++ [actionId]

def cycleFinding (request : AnalysisRequest) (chain : List Identifier) (actionId : Identifier)
    (found : Nat) : Finding :=
  makeFinding ("dependency.cycle." ++ numeral (found + 1)) .dependencyGap .deterministic
    ["/plan/actions"]
    ("Action dependency cycle detected: " ++
      " -> ".intercalate ((cycle chain actionId).map Subtype.val) ++ ".")
    [requestEvidenceRef request]

def outside (plan : Plan) (visiting : List Identifier) : List Identifier :=
  (actionIds plan).filter (· ∉ visiting)

theorem outside_lt {plan : Plan} {visiting : List Identifier} {actionId : Identifier}
    (entered : actionId ∉ visiting) {action : Action}
    (known : byKey plan.actions.val Action.actionId actionId = some action) :
    (outside plan (actionId :: visiting)).length < (outside plan visiting).length := by
  have listed : actionId ∈ outside plan visiting := by
    obtain ⟨member, rfl⟩ := byKey_some known
    refine List.mem_filter.mpr ⟨?_, by simpa using entered⟩
    simpa [actionIds, dictKeys] using ⟨action, member, rfl⟩
  have part : outside plan (actionId :: visiting) =
      (outside plan visiting).filter (· ≠ actionId) := by
    simp only [outside, List.filter_filter]
    apply List.filter_congr
    intro other _
    by_cases same : other = actionId <;> simp [same]
  rw [part]
  exact List.length_filter_lt_length_iff_exists.mpr ⟨actionId, listed, by simp⟩

/-- `visit(action_id, chain)`, inside the actions of `visiting`. -/
def visit (request : AnalysisRequest) (visiting : List Identifier) (actionId : Identifier)
    (chain : List Identifier) (walk : Walk) : Walk :=
  if actionId ∈ visiting then
    { walk with
      findings := walk.findings ++ [cycleFinding request chain actionId walk.findings.length] }
  else if actionId ∈ walk.visited then walk
  else match _known : byKey request.plan.actions.val Action.actionId actionId with
    | none => walk
    | some action =>
      let left := action.dependsOn.val.foldl (fun walk dependency =>
        visit request (actionId :: visiting) dependency (chain ++ [dependency]) walk) walk
      { left with visited := left.visited ++ [actionId] }
termination_by (outside request.plan visiting).length
decreasing_by exact outside_lt ‹_› ‹_›

/-- The dependencies of actions on actions that do not exist. -/
def missing (request : AnalysisRequest) : List Finding :=
  request.plan.actions.val.zipIdx.flatMap fun (action, index) =>
    (action.dependsOn.val.filter fun dependency => dependency ∉ actionIds request.plan).map
      fun dependency =>
        makeFinding ("dependency.missing." ++ action.actionId.val) .dependencyGap .deterministic
          ["/plan/actions/" ++ numeral index ++ "/depends_on"]
          ("Action " ++ action.actionId.val ++ " depends on unknown action " ++ dependency.val ++ ".")
          [requestEvidenceRef request]
          { requirementReferences := action.requirementIds.val }

/-- The findings of the walk, after those that were there before. -/
def cycles (request : AnalysisRequest) (findings : List Finding) : List Finding :=
  ((actionIds request.plan).foldl (fun walk actionId => visit request [] actionId [actionId] walk)
    { visited := [], findings }).findings

def unresolved (request : AnalysisRequest) : List Finding :=
  objections request.plan.dependencies fun dependency index =>
    if dependency.status = .unresolved then
      some (makeFinding ("dependency.unresolved." ++ dependency.dependencyId.val) .dependencyGap
        .deterministic ["/plan/dependencies/" ++ numeral index ++ "/status"]
        ("Dependency " ++ dependency.dependencyId.val ++ " is unresolved.")
        [requestEvidenceRef request])
    else none

def check (request : AnalysisRequest) : List Finding :=
  cycles request (missing request) ++ unresolved request

end DependencyChecks

end Audisor.Aflow
