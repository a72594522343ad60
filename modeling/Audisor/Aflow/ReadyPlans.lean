/-
**What a returned decision says of its plan.**

* `conclude_ok` — a decision is returned exactly when its ids fit and are unique.
* **`analyze_ready`** — a plan is ready when no check and no candidate objects to it.
* `objections_eq_nil` — a check that finds nothing objects to no item.
* `Variant` — a small request, and variants of it that the checks have nothing against.
-/

import Audisor.Aflow.DecisionEngine
import Audisor.Aflow.ProvenBuilds

namespace Audisor.Aflow

open Json

variable {sha : Sha256}

/-! ### Decisions -/

theorem decisionType_ne (findings : List Finding) : decisionType findings ≠ .noMaterialGap := by
  rw [decisionType]
  split_ifs <;> simp

/-- **A decision is returned when its schema admits it and no id occurs twice.** -/
theorem conclude_ok {request : AnalysisRequest} {findings : List Finding}
    {rejected : List RejectedFinding} {decidedAt : String} {decision : AnalysisDecision} :
    conclude sha request findings rejected decidedAt = .ok decision ↔
      ((∀ finding ∈ findings, finding.admitted = true) ∧ (findings.map Finding.findingId).Nodup) ∧
      ((∀ entry ∈ rejected, isIdentifier entry.findingId = true ∧ entry.reason ≠ "") ∧
        (rejected.map RejectedFinding.findingId).Nodup) ∧
      decision = decisionOn sha request findings rejected decidedAt := by
  have verdict : (if (decisionOn sha request findings rejected decidedAt).decision = .noMaterialGap
      then !(decisionOn sha request findings rejected decidedAt).blocking &&
        (decisionOn sha request findings rejected decidedAt).executionReady &&
        (decisionOn sha request findings rejected decidedAt).findings.isEmpty
      else (decisionOn sha request findings rejected decidedAt).blocking &&
        !(decisionOn sha request findings rejected decidedAt).executionReady &&
        !(decisionOn sha request findings rejected decidedAt).findings.isEmpty) = true := by
    cases findings with
    | nil => rfl
    | cons finding rest =>
      have found : (decisionOn sha request (finding :: rest) rejected decidedAt).decision ≠
          .noMaterialGap := decisionType_ne _
      rw [if_neg found]
      rfl
  have admitted : (decisionOn sha request findings rejected decidedAt).admitted = true ↔
      (∀ finding ∈ findings, finding.admitted = true) ∧
        ∀ entry ∈ rejected, isIdentifier entry.findingId = true ∧ entry.reason ≠ "" := by
    rw [UnsealedDecision.admitted, verdict, Bool.and_true, Bool.and_eq_true, List.all_eq_true,
      List.all_eq_true]
    simp only [Bool.and_eq_true, bne_iff_ne]
    rfl
  rw [conclude, then_ok, AnalysisDecision.validate_ok, admitted]
  constructor
  · rintro ⟨⟨⟨fit, fit'⟩, unique, unique', _⟩, returned⟩
    cases returned
    exact ⟨⟨fit, unique⟩, ⟨fit', unique'⟩, rfl⟩
  · rintro ⟨⟨fit, unique⟩, ⟨fit', unique'⟩, rfl⟩
    exact ⟨⟨⟨fit, fit'⟩, unique, unique', UnsealedDecision.seal_verifies sha _⟩, rfl⟩

/-- The findings that an analysis decides on: those of the checks, or of the review. -/
def findingsOf (sha : Sha256) (request : AnalysisRequest) (reviewer : Option Reviewer) :
    List Finding × List RejectedFinding :=
  if (deterministicFindings sha request).isEmpty then
    reviewFindings request (reviewer.getD nullReviewer request)
  else (deterministicFindings sha request, [])

/-- **An analysis returns a decision on what it finds.** -/
theorem analyze_ok {request : AnalysisRequest} {reviewer : Option Reviewer} {decidedAt : String}
    {decision : AnalysisDecision} :
    analyze sha request reviewer decidedAt = .ok decision ↔
      (deterministicFindings sha request = [] →
        (reviewer.getD nullReviewer request).admitted = true) ∧
      conclude sha request (findingsOf sha request reviewer).1 (findingsOf sha request reviewer).2
        decidedAt = .ok decision := by
  rw [analyze, findingsOf]
  by_cases clean : (deterministicFindings sha request).isEmpty = true
  · simp only [List.isEmpty_iff.mp clean, true_imp_iff]
    cases admitted : (reviewer.getD nullReviewer request).admitted with
    | false => simp [bind, Except.bind, throw, throwThe, MonadExceptOf.throw]
    | true => simp
  · have found : deterministicFindings sha request ≠ [] := fun empty => clean (by rw [empty]; rfl)
    simp only [if_neg clean, found, false_imp_iff, true_and]

theorem analyze_valid {request : AnalysisRequest} {reviewer : Option Reviewer} {decidedAt : String}
    {decision : AnalysisDecision}
    (returned : analyze sha request reviewer decidedAt = .ok decision) :
    decision.validate sha = .ok () := by
  obtain ⟨valid, same⟩ := then_ok.mp (analyze_ok.mp returned).2
  cases same
  exact valid

/-- **A plan is ready when nothing objects to it.** -/
theorem analyze_ready {request : AnalysisRequest} {reviewer : Option Reviewer} {decidedAt : String}
    {decision : AnalysisDecision}
    (returned : analyze sha request reviewer decidedAt = .ok decision)
    (ready : decision.executionReady = true) :
    deterministicFindings sha request = [] ∧
      (reviewFindings request (reviewer.getD nullReviewer request)).1 = [] := by
  obtain ⟨_, concluded⟩ := analyze_ok.mp returned
  obtain ⟨_, _, rfl⟩ := conclude_ok.mp concluded
  have none : (findingsOf sha request reviewer).1 = [] := List.isEmpty_iff.mp ready
  rw [findingsOf] at none
  split at none
  · rename_i clean
    exact ⟨List.isEmpty_iff.mp clean, none⟩
  · rename_i found
    exact absurd (List.isEmpty_iff.mpr none) found

/-! ### Checks that find nothing -/

theorem deterministicFindings_eq_nil {request : AnalysisRequest} :
    deterministicFindings sha request = [] ↔
      domainFindings sha request = [] ∧ checkFindings sha request = [] := by
  rw [deterministicFindings]
  split
  · rename_i sound
    rw [List.isEmpty_iff] at sound
    simp [sound]
  · rename_i broken
    rw [List.isEmpty_iff] at broken
    simp [broken]

theorem checkFindings_eq_nil {request : AnalysisRequest} :
    checkFindings sha request = [] ↔
      EvidenceChecks.check sha request = [] ∧ ReferenceChecks.check sha request = [] ∧
      CoverageChecks.check request = [] ∧ DependencyChecks.check request = [] ∧
      AuthorityChecks.check request = [] ∧ ActivationChecks.check request = [] := by
  simp only [checkFindings, List.append_eq_nil_iff, and_assoc]

theorem forall_zipIdx {α : Type} {items : List α} (property : α → Prop) :
    (∀ pair ∈ items.zipIdx, property pair.1) ↔ ∀ item ∈ items, property item := by
  constructor
  · intro all item member
    obtain ⟨index, found⟩ := List.mem_iff_getElem?.mp member
    exact all (item, index) (List.mk_mem_zipIdx_iff_getElem?.mpr found)
  · rintro all ⟨item, index⟩ member
    exact all item (List.mem_of_getElem? (List.mk_mem_zipIdx_iff_getElem?.mp member))

/-- **A check that finds nothing objects to no item.** -/
theorem objections_eq_nil {α : Type} {items : List α} {objection : α → Nat → Option Finding} :
    objections items objection = [] ↔ ∀ pair ∈ items.zipIdx, objection pair.1 pair.2 = none := by
  rw [objections, List.filterMap_eq_nil_iff]

namespace AuthorityChecks

variable {request : AnalysisRequest}

/-- **The authority checks find nothing** when every target is allowed and apart from the exclusions,
every path of an action is approved, and no risk is open. -/
theorem check_eq_nil : check request = [] ↔
    (∀ target ∈ request.plan.targetPaths.val, target.authorityStatus = .allowed ∧
      ∀ excluded ∈ request.plan.excludedPaths, overlaps target.path excluded.path = false) ∧
    (∀ action ∈ request.plan.actions.val,
      (∀ path ∈ action.targetPaths, approved request.plan path = true) ∧
      ∀ output ∈ action.expectedOutputs.val, outputApproved request.plan action output = true) ∧
    ∀ risk ∈ request.plan.authorityRisks, risk.status ≠ .unresolved := by
  have target_iff (target : PathScope) (finding : Finding) (conflict : PathScope → Nat → Finding) :
      ((if target.authorityStatus = .allowed then [] else [finding]) = ([] : List Finding) ∧
        objections request.plan.excludedPaths (fun excluded index =>
          if overlaps target.path excluded.path then some (conflict excluded index) else none) = []) ↔
      target.authorityStatus = .allowed ∧
        ∀ excluded ∈ request.plan.excludedPaths, overlaps target.path excluded.path = false := by
    rw [objections_eq_nil]
    simp only [ite_eq_left_iff, ite_eq_right_iff, reduceCtorEq, imp_false, Decidable.not_not,
      Bool.not_eq_true]
    have apart := @forall_zipIdx PathScope request.plan.excludedPaths fun excluded =>
      overlaps target.path excluded.path = false
    rw [apart]
  have approves (passed : Bool) (finding : Finding) :
      (if passed = true then none else some finding) = none ↔ passed = true := by
    cases passed <;> simp
  simp only [check, targetFindings, actionFindings, risks, List.append_eq_nil_iff,
    List.flatMap_eq_nil_iff, target_iff]
  simp only [objections_eq_nil, approves, ite_eq_right_iff, reduceCtorEq, imp_false, and_assoc]
  have targets := @forall_zipIdx PathScope request.plan.targetPaths.val fun target =>
    target.authorityStatus = .allowed ∧
      ∀ excluded ∈ request.plan.excludedPaths, overlaps target.path excluded.path = false
  have paths (action : Action) := @forall_zipIdx RelativePath action.targetPaths fun path =>
    approved request.plan path = true
  have outputs (action : Action) := @forall_zipIdx ExpectedOutput action.expectedOutputs.val
    fun output => outputApproved request.plan action output = true
  have actions := @forall_zipIdx Action request.plan.actions.val fun action =>
    (∀ path ∈ action.targetPaths, approved request.plan path = true) ∧
      ∀ output ∈ action.expectedOutputs.val, outputApproved request.plan action output = true
  have open_risks := @forall_zipIdx AuthorityRisk request.plan.authorityRisks fun risk =>
    ¬ risk.status = .unresolved
  simp only [targets, paths, outputs, actions, open_risks, ne_eq]

end AuthorityChecks

/-- A check that returns, or that names the invariant that is broken. -/
def Judges (outcome : Except AflowError Unit) : Prop :=
  ∀ error, outcome = .error error → ∃ message, error = .domainInvariant message

theorem judges_unique {values : List String} {scope : String} : Judges (unique values scope) := by
  intro error failed
  rw [unique] at failed
  split at failed
  · cases failed
  · cases failed
    exact ⟨_, rfl⟩

theorem judges_require {condition : Bool} {message : String} :
    Judges (require condition message) := by
  intro error failed
  cases condition with
  | true => cases failed
  | false =>
    cases failed
    exact ⟨_, rfl⟩

theorem judges_then {first second : Except AflowError Unit} (judges : Judges first)
    (judges' : Judges second) : Judges (first >>= fun _ => second) := by
  intro error failed
  cases outcome : first with
  | error other =>
    rw [outcome] at failed
    cases failed
    exact judges error outcome
  | ok _ =>
    rw [outcome] at failed
    exact judges' error failed

theorem SuccessDefinition.validate_judges (success : SuccessDefinition) :
    Judges (success.validate sha) :=
  judges_then judges_unique <| judges_then judges_unique <| judges_then judges_unique <|
    judges_then judges_unique <| judges_then judges_unique judges_require

theorem Plan.validate_judges (plan : Plan) : Judges plan.validate :=
  judges_then judges_unique <| judges_then judges_unique <| judges_then judges_unique <|
    judges_then judges_unique <| judges_then judges_unique <| judges_then judges_unique <|
    judges_then judges_unique <| judges_then judges_unique judges_unique

theorem domainFinding_eq_none {findingId : Identifier} {field location : String}
    {outcome : Except AflowError Unit} (judges : Judges outcome) :
    domainFinding sha findingId field location outcome = none ↔ outcome = .ok () := by
  cases failed : outcome with
  | ok _ => exact iff_of_true rfl rfl
  | error error =>
    obtain ⟨message, rfl⟩ := judges error failed
    exact iff_of_false (fun found => nomatch found) (fun returned => nomatch returned)

/-- **No invariant is broken** when the definition and the plan are valid. -/
theorem domainFindings_eq_nil {request : AnalysisRequest} :
    domainFindings sha request = [] ↔
      request.successDefinition.validate sha = .ok () ∧ request.plan.validate = .ok () := by
  rw [domainFindings, List.append_eq_nil_iff, Option.toList_eq_nil_iff, Option.toList_eq_nil_iff,
    domainFinding_eq_none (SuccessDefinition.validate_judges _),
    domainFinding_eq_none (Plan.validate_judges _)]

/-- **A plan that nothing objects to is ready**, without a reviewer of its own. -/
theorem analyze_clean {request : AnalysisRequest}
    (reviewed : (nullReviewer request).admitted = true)
    (clean : deterministicFindings sha request = [])
    (unobjected : (reviewFindings request (nullReviewer request)).1 = [])
    (fits : ∀ entry ∈ (reviewFindings request (nullReviewer request)).2,
      isIdentifier entry.findingId = true ∧ entry.reason ≠ "")
    (distinct : ((reviewFindings request (nullReviewer request)).2.map
      RejectedFinding.findingId).Nodup) (decidedAt : String) :
    ∃ decision, analyze sha request none decidedAt = .ok decision ∧
      decision.executionReady = true ∧
      decision = decisionOn sha request [] (reviewFindings request (nullReviewer request)).2
        decidedAt := by
  refine ⟨_, analyze_ok.mpr ⟨fun _ => reviewed, ?_⟩, rfl, rfl⟩
  have found : findingsOf sha request none = ([], (reviewFindings request (nullReviewer request)).2) := by
    rw [findingsOf, clean]
    exact Prod.ext unobjected rfl
  rw [found]
  exact conclude_ok.mpr ⟨⟨List.forall_mem_nil _, List.nodup_nil⟩, ⟨fits, distinct⟩, rfl⟩

/-! ### A small request -/

section

def smallProof (proofId : Identifier) : ProofObligation :=
  { proofId, requirementIds := only (identifier "requirement-1")
    proofType := oneOf "command", executor := .codex, procedure := word "Run it."
    passCondition := word "It ends.", failCondition := word "It fails." }

/-- What distinguishes a small request from others. -/
structure Variant where
  proofs : AtLeastOne ProofObligation := single (smallProof (identifier "proof-1"))
  target : RelativePath := ⟨"main", Eq.refl true⟩
  excluded : List RelativePath := []
  path : RelativePath := ⟨"main", Eq.refl true⟩
  dependsOn : Distinct Identifier := noItems
  assumptions : List Assumption := []
  evidence : List Evidence := []

variable (sha : Sha256)

def smallAuthority : AuthorityEvidence :=
  AuthorityEvidence.seal sha
    { authorityBundleId := identifier "authority-bundle-1"
      repositoryRoot := ⟨"/repository", Eq.refl true⟩
      sources := single {
        authorityId := identifier "authority-1", authorityType := oneOf "user_instruction"
        path := word "request", scope := word "main", precedence := ⟨.int 0, by decide⟩
        contentHash := canonicalHash sha .null, evidenceStatus := .verified }
      capabilities := [{
        capabilityId := identifier "capability-1", description := word "It can run."
        owner := .codex, available := true
        activation := { activationType := .automatic, currentlyAuthorized := true } }]
      contentHash := canonicalHash sha .null }

def smallRepository : RepositoryEvidence :=
  RepositoryEvidence.seal sha
    { repositoryEvidenceId := identifier "repository-1"
      repositoryRoot := ⟨"/repository", Eq.refl true⟩, repositoryKind := oneOf "git"
      state := { gitState := oneOf "committed", dirtyState := oneOf "clean" }
      entries := [], contentHash := canonicalHash sha .null
      capturedAt := "2026-01-01T00:00:00Z" }

def Variant.success (variant : Variant) : SuccessDefinition :=
  SuccessDefinition.confirm sha
    { smallSuccess sha [] with proofObligations := variant.proofs }

def Variant.plan (variant : Variant) : Plan :=
  { smallPlan sha [] with
    successDefinitionReference := (variant.success sha).ref sha
    authorityBundleReference := (smallAuthority sha).ref
    targetPaths := single ⟨variant.target, word "It is here.", .allowed⟩
    excludedPaths := variant.excluded.map fun path => ⟨path, word "It is not ours.", .prohibited⟩
    actions := single {
      actionId := identifier "action-1", objective := word "Run it."
      requirementIds := only (identifier "requirement-1")
      capabilityId := identifier "capability-1", owner := .codex
      phase := oneOf "implementation", targetPaths := [variant.path]
      dependsOn := variant.dependsOn, prerequisites := []
      activation :=
        { activationType := .automatic, activationSource := some (word "authority-1")
          currentlyAuthorized := true }
      expectedOutputs := single ⟨identifier "output-1", word "a run", none⟩ }
    assumptions := variant.assumptions }

/-- **A request of one requirement, one action and one validation.** -/
def Variant.request (variant : Variant) : AnalysisRequest :=
  { analysisId := identifier "analysis-1", successDefinition := variant.success sha
    plan := variant.plan sha, authorityEvidence := smallAuthority sha
    repositoryEvidence := smallRepository sha, baseline := smallBaseline sha
    evidence := variant.evidence }

variable {sha} {variant : Variant}

theorem Variant.success_valid (proofs : (variant.proofs.val.map ProofObligation.proofId).Nodup) :
    (variant.success sha).validate sha = .ok () := by
  refine then_ok.mpr ⟨unique_ok.mpr (List.nodup_singleton _), then_ok.mpr
    ⟨unique_ok.mpr (List.nodup_singleton _), then_ok.mpr ⟨unique_ok.mpr List.nodup_nil, then_ok.mpr
    ⟨unique_ok.mpr List.nodup_nil, then_ok.mpr ⟨unique_ok.mpr (ids_nodup.mpr proofs),
    require_ok.mpr ?_⟩⟩⟩⟩⟩
  exact SuccessDefinition.confirm_verifies sha _

theorem Variant.plan_valid (assumptions : (variant.assumptions.map Assumption.assumptionId).Nodup) :
    (variant.plan sha).validate = .ok () := by
  have named : unique (ids variant.assumptions Assumption.assumptionId) "assumption" = .ok () :=
    unique_ok.mpr (ids_nodup.mpr assumptions)
  refine then_ok.mpr ⟨rfl, then_ok.mpr ⟨rfl, then_ok.mpr ⟨rfl, then_ok.mpr ⟨rfl, then_ok.mpr
    ⟨named, rfl⟩⟩⟩⟩⟩

/-- A variant whose ids are unique, and whose evidence is sealed. -/
structure Variant.Sound (sha : Sha256) (variant : Variant) : Prop where
  proofs : (variant.proofs.val.map ProofObligation.proofId).Nodup
  independent : variant.dependsOn.val = []
  assumptions : (variant.assumptions.map Assumption.assumptionId).Nodup
  unsupported : ∀ assumption ∈ variant.assumptions, assumption.evidenceRefs = none
  sealed : ∀ item ∈ variant.evidence, verifyHash sha item.contentHash item.toJson = true
  evidence : (variant.evidence.map Evidence.evidenceId).Nodup

theorem Variant.Sound.references (sound : variant.Sound sha) :
    domainFindings sha (variant.request sha) = [] ∧
      EvidenceChecks.check sha (variant.request sha) = [] ∧
      ReferenceChecks.check sha (variant.request sha) = [] := by
  refine ⟨?_, ?_, ?_⟩
  · have success : (variant.request sha).successDefinition.validate sha = .ok () :=
      Variant.success_valid sound.proofs
    have plan : (variant.request sha).plan.validate = .ok () := Variant.plan_valid sound.assumptions
    exact domainFindings_eq_nil.mpr ⟨success, plan⟩
  · have distinct : duplicates (ids variant.evidence Evidence.evidenceId) = [] :=
      duplicates_eq_nil.mpr (ids_nodup.mpr sound.evidence)
    have hashes : EvidenceChecks.artifacts sha (variant.request sha) =
        [(true, "/authority_evidence/content_hash", "authority evidence"),
          (true, "/repository_evidence/content_hash", "repository evidence"),
          (true, "/baseline/content_hash", "repository baseline")] := by
      simp only [EvidenceChecks.artifacts, Variant.request, smallAuthority, smallRepository,
        smallBaseline, AuthorityEvidence.seal_verifies, RepositoryEvidence.seal_verifies,
        Baseline.seal_verifies]
    have unreferenced : EvidenceChecks.references (variant.plan sha) = [] := by
      simp only [EvidenceChecks.references, List.append_eq_nil_iff]
      refine ⟨⟨rfl, ?_⟩, rfl⟩
      simp only [EvidenceChecks.itemReferences, List.flatMap_eq_nil_iff]
      rintro ⟨assumption, index⟩ member
      have none := sound.unsupported assumption
        (List.mem_of_getElem? (List.mk_mem_zipIdx_iff_getElem?.mp member))
      simp only [none, Option.getD_none, List.map_nil]
    have clean : (objections variant.evidence fun item index =>
        if verifyHash sha item.contentHash item.toJson then none
        else some (EvidenceChecks.add (variant.request sha) ("hash.evidence." ++ numeral index)
          ("/evidence/" ++ numeral index ++ "/content_hash")
          ("Evidence " ++ item.evidenceId.val ++ " has a content-hash mismatch."))) = [] := by
      rw [objections_eq_nil]
      rintro ⟨item, index⟩ member
      exact if_pos (sound.sealed item
        (List.mem_of_getElem? (List.mk_mem_zipIdx_iff_getElem?.mp member)))
    rw [EvidenceChecks.check, hashes]
    simp only [Variant.request] at clean ⊢
    rw [distinct, unreferenced, clean]
    rfl
  · have success : ReferenceChecks.successFields (variant.plan sha).successDefinitionReference
        ((variant.success sha).ref sha) = ReferenceChecks.successFields
          ((variant.success sha).ref sha) ((variant.success sha).ref sha) := rfl
    have baseline : (variant.plan sha).repositoryBaselineReference = (smallBaseline sha).ref := rfl
    have authority : (variant.plan sha).authorityBundleReference = (smallAuthority sha).ref := rfl
    rw [ReferenceChecks.check]
    simp only [Variant.request, success, baseline, authority, if_true]
    simp [ReferenceChecks.successFields]

theorem Variant.Sound.dependencies (sound : variant.Sound sha) :
    DependencyChecks.check (variant.request sha) = [] := by
  have known : DependencyChecks.actionIds (variant.request sha).plan = [identifier "action-1"] := rfl
  have missing : DependencyChecks.missing (variant.request sha) = [] := by
    show List.flatMap _ [_] = []
    simp [sound.independent]
  have cycles : DependencyChecks.cycles (variant.request sha) [] = [] := by
    rw [DependencyChecks.cycles, known, List.foldl_cons, List.foldl_nil, DependencyChecks.visit,
      if_neg List.not_mem_nil, if_neg List.not_mem_nil]
    split
    · rfl
    · rename_i action found
      have own : action.dependsOn = variant.dependsOn := by
        obtain ⟨member, -⟩ := byKey_some found
        rw [List.mem_singleton.mp member]
      rw [own, sound.independent]
      rfl
  rw [DependencyChecks.check, missing, cycles]
  rfl

theorem Variant.authorized (below : AuthorityChecks.within variant.path variant.target = true)
    (apart : ∀ scope ∈ variant.excluded, AuthorityChecks.overlaps variant.target scope = false ∧
      AuthorityChecks.overlaps variant.path scope = false) :
    AuthorityChecks.check (variant.request sha) = [] := by
  have permitted : AuthorityChecks.prohibited (variant.request sha).plan variant.path = false := by
    rw [AuthorityChecks.prohibited, List.any_eq_false]
    intro scope listed
    obtain ⟨own, among, rfl⟩ := List.mem_map.mp listed
    simp [(apart own among).2]
  have lies : AuthorityChecks.allowed (variant.request sha).plan variant.path = true :=
    List.any_eq_true.mpr ⟨_, List.mem_singleton_self _, Bool.and_eq_true_iff.mpr ⟨rfl, below⟩⟩
  refine AuthorityChecks.check_eq_nil.mpr ⟨?_, ?_, List.forall_mem_nil _⟩
  · refine List.forall_mem_singleton.mpr ⟨rfl, fun scope listed => ?_⟩
    obtain ⟨own, among, rfl⟩ := List.mem_map.mp listed
    exact (apart own among).1
  · refine List.forall_mem_singleton.mpr ⟨List.forall_mem_singleton.mpr ?_,
      List.forall_mem_singleton.mpr rfl⟩
    rw [AuthorityChecks.approved, lies, permitted]
    rfl

/-- **The checks have nothing against a sound variant** whose coverage and paths are right. -/
theorem Variant.Sound.clean (sound : variant.Sound sha)
    (covered : CoverageChecks.check (variant.request sha) = [])
    (authorized : AuthorityChecks.check (variant.request sha) = []) :
    deterministicFindings sha (variant.request sha) = [] := by
  obtain ⟨domain, evidence, references⟩ := sound.references
  exact deterministicFindings_eq_nil.mpr ⟨domain, checkFindings_eq_nil.mpr
    ⟨evidence, references, covered, sound.dependencies, authorized, List.isEmpty_iff.mp rfl⟩⟩

theorem Variant.ready (clean : deterministicFindings sha (variant.request sha) = [])
    (silent : SemanticChecks.candidates (variant.request sha) = []) (decidedAt : String) :
    ∃ decision, analyze sha (variant.request sha) none decidedAt = .ok decision ∧
      decision.executionReady = true ∧
      decision = decisionOn sha (variant.request sha) [] [] decidedAt := by
  have found : reviewFindings (variant.request sha) (nullReviewer (variant.request sha)) =
      ([], []) := by
    rw [reviewFindings_nullReviewer, silent]
    rfl
  have reviewed : (nullReviewer (variant.request sha)).admitted = true :=
    (by decide : (isIdentifier ("review." ++ "analysis-1") && true) = true)
  have returned := analyze_clean reviewed clean (by rw [found])
    (by rw [found]; exact List.forall_mem_nil _) (by rw [found]; exact List.nodup_nil) decidedAt
  rwa [found] at returned

end

end Audisor.Aflow
