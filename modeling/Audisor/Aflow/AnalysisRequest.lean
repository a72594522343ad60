/-
**What an analysis is given.**

* `AuthorityEvidence`, `RepositoryEvidence` — the authorities and the repository facts that the
  analysis may rely on, and their documents.
* `AnalysisRequest` — the definition, the plan, and everything the plan is checked against.
* `AuthorityEvidence.validate`, `AuthorityEvidence.seal`, … — their invariants and their hashes.
-/

import Audisor.Aflow.Invariants

namespace Audisor.Aflow

open Json

/-! ### Authority -/

/-- `"type": "integer", "minimum": 0`: a number without a fraction, however it is written. -/
def isNatural : Json → Bool
  | .int value => 0 ≤ value
  | .float literal =>
    0 ≤ literal.scaled.1 &&
      literal.scaled.1 % 10 ^ (-literal.scaled.2).toNat == 0
  | _ => false

abbrev Natural := { value : Json // isNatural value = true }

/-- A document that gives authority. -/
structure AuthoritySource where
  authorityId : Identifier
  authorityType : AuthorityType
  path : Words
  scope : Words
  precedence : Natural
  contentHash : Digest
  evidenceStatus : EvidenceStatus
  deriving DecidableEq

/-- When a capability may be used. -/
structure CapabilityActivation where
  activationType : ActivationType
  requiredPhase : Option Phase := none
  currentlyAuthorized : Bool
  sourceAuthorityId : Option Identifier := none
  prerequisites : Option (List Words) := none
  deriving DecidableEq

structure Capability where
  capabilityId : Identifier
  description : Words
  owner : CapabilityOwner
  available : Bool
  activation : CapabilityActivation
  deriving DecidableEq

structure AuthorityEvidence where
  authorityBundleId : Identifier
  repositoryRoot : AbsolutePath
  sources : AtLeastOne AuthoritySource
  capabilities : List Capability
  contentHash : Digest
  deriving DecidableEq

def AuthoritySource.toJson (source : AuthoritySource) : Json :=
  .obj [("authority_id", .str source.authorityId.val),
    ("authority_type", .str source.authorityType.val), ("path", .str source.path.val),
    ("scope", .str source.scope.val), ("precedence", source.precedence.val),
    ("content_hash", .str source.contentHash.val),
    ("evidence_status", .str source.evidenceStatus.value)]

def CapabilityActivation.toJson (activation : CapabilityActivation) : Json :=
  .obj ([("activation_type", .str activation.activationType.value)] ++
    optional "required_phase" activation.requiredPhase (fun phase => .str phase.val) ++
    [("currently_authorized", .bool activation.currentlyAuthorized)] ++
    optional "source_authority_id" activation.sourceAuthorityId (fun id => .str id.val) ++
    optional "prerequisites" activation.prerequisites texts)

def Capability.toJson (capability : Capability) : Json :=
  .obj [("capability_id", .str capability.capabilityId.val),
    ("description", .str capability.description.val), ("owner", .str capability.owner.value),
    ("available", .bool capability.available), ("activation", capability.activation.toJson)]

def AuthorityEvidence.toJson (authority : AuthorityEvidence) : Json :=
  .obj [version, ("authority_bundle_id", .str authority.authorityBundleId.val),
    ("repository_root", .str authority.repositoryRoot.val),
    ("sources", listOf authority.sources.val AuthoritySource.toJson),
    ("capabilities", listOf authority.capabilities Capability.toJson),
    ("content_hash", .str authority.contentHash.val)]

def AuthorityEvidence.ref (authority : AuthorityEvidence) : ArtifactRef :=
  artifactRef authority.authorityBundleId "authority-evidence.schema.json" schemaVersion
    authority.contentHash

/-! ### Repository facts -/

structure RepositoryEntry where
  path : RelativePath
  entryType : OneOf ["file", "directory", "symlink"]
  activeStatus : OneOf ["active", "dormant", "test_only", "reference_only", "proposed", "unknown"]
  contentHash : Digest
  evidenceStatus : EvidenceStatus
  symbols : Option (List Words) := none
  summary : Option String := none
  deriving DecidableEq

structure RepositoryState where
  gitHead : Option (Option Words) := none
  gitState : GitState
  dirtyState : DirtyState
  deriving DecidableEq

structure RepositoryEvidence where
  repositoryEvidenceId : Identifier
  repositoryRoot : AbsolutePath
  repositoryKind : RepositoryKind
  state : RepositoryState
  entries : List RepositoryEntry
  contentHash : Digest
  capturedAt : String
  deriving DecidableEq

def RepositoryEntry.toJson (entry : RepositoryEntry) : Json :=
  .obj ([("path", .str entry.path.val), ("entry_type", .str entry.entryType.val),
    ("active_status", .str entry.activeStatus.val), ("content_hash", .str entry.contentHash.val),
    ("evidence_status", .str entry.evidenceStatus.value)] ++
      optional "symbols" entry.symbols texts ++ optional "summary" entry.summary .str)

def RepositoryState.toJson (state : RepositoryState) : Json :=
  .obj (optional "git_head" state.gitHead (fun head => head.elim .null fun text => .str text.val) ++
    [("git_state", .str state.gitState.val), ("dirty_state", .str state.dirtyState.val)])

def RepositoryEvidence.toJson (repository : RepositoryEvidence) : Json :=
  .obj [version, ("repository_evidence_id", .str repository.repositoryEvidenceId.val),
    ("repository_root", .str repository.repositoryRoot.val),
    ("repository_kind", .str repository.repositoryKind.val), ("state", repository.state.toJson),
    ("entries", listOf repository.entries RepositoryEntry.toJson),
    ("content_hash", .str repository.contentHash.val), ("captured_at", .str repository.capturedAt)]

/-! ### The request -/

/-- **A request that the schema admits.** -/
structure AnalysisRequest where
  analysisId : Identifier
  successDefinition : SuccessDefinition
  plan : Plan
  authorityEvidence : AuthorityEvidence
  repositoryEvidence : RepositoryEvidence
  baseline : Baseline
  evidence : List Evidence
  deriving DecidableEq

def AnalysisRequest.toDict (request : AnalysisRequest) : Dict :=
  [version, ("analysis_id", .str request.analysisId.val),
    ("success_definition", request.successDefinition.toJson), ("plan", request.plan.toJson),
    ("authority_evidence", request.authorityEvidence.toJson),
    ("repository_evidence", request.repositoryEvidence.toJson),
    ("baseline", request.baseline.toJson), ("evidence", listOf request.evidence Evidence.toJson)]

section

variable (sha : Sha256)

def AuthorityEvidence.seal (authority : AuthorityEvidence) : AuthorityEvidence :=
  { authority with contentHash := canonicalHash sha authority.toJson }

def RepositoryEvidence.seal (repository : RepositoryEvidence) : RepositoryEvidence :=
  { repository with contentHash := canonicalHash sha repository.toJson }

theorem AuthorityEvidence.seal_verifies (authority : AuthorityEvidence) :
    verifyHash sha (authority.seal sha).contentHash (authority.seal sha).toJson = true := by
  refine beq_iff_eq.mpr (canonicalHash_congr sha ?_)
  simp [AuthorityEvidence.toJson, AuthorityEvidence.seal, scrub, hashFields, remove, version]

theorem RepositoryEvidence.seal_verifies (repository : RepositoryEvidence) :
    verifyHash sha (repository.seal sha).contentHash (repository.seal sha).toJson = true := by
  refine beq_iff_eq.mpr (canonicalHash_congr sha ?_)
  simp [RepositoryEvidence.toJson, RepositoryEvidence.seal, scrub, hashFields, remove, version]

end

end Audisor.Aflow
