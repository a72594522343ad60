/-
**Which requests are accepted early and refused late.**

* `AuthorityEvidence.validate`, `RepositoryEvidence.validate` — the invariants of both kinds of documents.
* `DistinctIds` — no authority, capability or path occurs twice.
* **`ready_evaluable_iff`** — the documents of a ready request satisfy their invariants exactly when their
  ids are distinct: the analysis has checked the hashes and not the ids. `ready_unevaluable` — a plan that is
  locked with a baseline that no evaluation accepts.
-/

import Audisor.Aflow.CleanRequests
import Audisor.Aflow.LockedPlans

namespace Audisor.Aflow

/-! ### Invariants -/

def AuthorityEvidence.validate (sha : Sha256) (authority : AuthorityEvidence) :
    Except AflowError Unit := do
  unique (ids authority.sources.val AuthoritySource.authorityId) "authority source"
  unique (ids authority.capabilities Capability.capabilityId) "capability"
  require (verifyHash sha authority.contentHash authority.toJson)
    "authority evidence content hash mismatch"

def RepositoryEvidence.validate (sha : Sha256) (repository : RepositoryEvidence) :
    Except AflowError Unit := do
  unique (repository.entries.map fun entry => entry.path.val) "repository evidence path"
  require (verifyHash sha repository.contentHash repository.toJson)
    "repository evidence content hash mismatch"

/-- **The documents of a request satisfy the invariants of their kinds**, so that the evaluation accepts
the baseline. -/
structure Evaluable (sha : Sha256) (request : AnalysisRequest) : Prop where
  authority : request.authorityEvidence.validate sha = .ok ()
  repository : request.repositoryEvidence.validate sha = .ok ()
  baseline : request.baseline.validate sha = .ok ()

/-- No authority, capability or path occurs twice. -/
structure DistinctIds (request : AnalysisRequest) : Prop where
  sources : (request.authorityEvidence.sources.val.map AuthoritySource.authorityId).Nodup
  capabilities : (request.authorityEvidence.capabilities.map Capability.capabilityId).Nodup
  repositoryPaths : (request.repositoryEvidence.entries.map RepositoryEntry.path).Nodup
  baselinePaths : (request.baseline.entries.map BaselineEntry.path).Nodup
  authorityHashes : (request.baseline.authorityHashes.map AuthorityHash.authorityId).Nodup

theorem paths_nodup {α : Type} {items : List α} {path : α → RelativePath} :
    (items.map fun item => (path item).val).Nodup ↔ (items.map path).Nodup := by
  have texts : (items.map fun item => (path item).val) = (items.map path).map Subtype.val :=
    List.map_map.symm
  rw [texts, List.nodup_map_iff Subtype.val_injective]

variable {sha : Sha256} {request : AnalysisRequest}

/-- **The documents of a ready request satisfy their invariants exactly when their ids are distinct.** -/
theorem ready_evaluable_iff {reviewer : Option Reviewer} {decidedAt : String}
    {decision : AnalysisDecision}
    (returned : analyze sha request reviewer decidedAt = .ok decision)
    (ready : decision.executionReady = true) : Evaluable sha request ↔ DistinctIds request := by
  have evident := (analyze_ready_clean returned ready).evident
  have authority : request.authorityEvidence.validate sha = .ok () ↔
      (request.authorityEvidence.sources.val.map AuthoritySource.authorityId).Nodup ∧
        (request.authorityEvidence.capabilities.map Capability.capabilityId).Nodup := by
    simp only [AuthorityEvidence.validate, then_ok, unique_ok, ids_nodup, require_ok,
      evident.authority, and_true]
  have repository : request.repositoryEvidence.validate sha = .ok () ↔
      (request.repositoryEvidence.entries.map RepositoryEntry.path).Nodup := by
    simp only [RepositoryEvidence.validate, then_ok, unique_ok, paths_nodup, require_ok,
      evident.repository, and_true]
  have baseline : request.baseline.validate sha = .ok () ↔
      (request.baseline.entries.map BaselineEntry.path).Nodup ∧
        (request.baseline.authorityHashes.map AuthorityHash.authorityId).Nodup := by
    simp only [Baseline.validate, then_ok, unique_ok, ids_nodup, paths_nodup, require_ok,
      evident.baseline, and_true]
  constructor
  · intro evaluable
    obtain ⟨sources, capabilities⟩ := authority.mp evaluable.authority
    obtain ⟨paths, hashes⟩ := baseline.mp evaluable.baseline
    exact ⟨sources, capabilities, repository.mp evaluable.repository, paths, hashes⟩
  · intro distinct
    exact ⟨authority.mpr ⟨distinct.sources, distinct.capabilities⟩,
      repository.mpr distinct.repositoryPaths,
      baseline.mpr ⟨distinct.baselinePaths, distinct.authorityHashes⟩⟩

/-- The documents of a small request are accepted. -/
theorem smallRequest_evaluable : Evaluable sha256 (Variant.request sha256 {}) := by
  obtain ⟨decision, returned, ready, -⟩ := smallRequest_ready
  exact (ready_evaluable_iff returned ready).mpr
    ⟨List.nodup_singleton _, List.nodup_singleton _, List.nodup_nil, List.nodup_nil,
      List.nodup_nil⟩

/-! ### A path that occurs twice -/

/-- The request, with another baseline that its plan refers to. -/
def AnalysisRequest.rebased (request : AnalysisRequest) (baseline : Baseline) : AnalysisRequest :=
  { request with
    baseline, plan := { request.plan with repositoryBaselineReference := baseline.ref } }

theorem CleanRequest.rebased (clean : CleanRequest sha request) {baseline : Baseline}
    (sealed : verifyHash sha baseline.contentHash baseline.toJson = true) :
    CleanRequest sha (request.rebased baseline) where
  success := clean.success
  plan := clean.plan
  evident := { clean.evident with baseline := sealed }
  bound := ⟨clean.bound.success, rfl, clean.bound.authority⟩
  covered := ⟨clean.covered.rows, clean.covered.actions, clean.covered.validations,
    clean.covered.proofs, fun id blocks => ⟨(clean.covered.blocking id blocks).row,
      (clean.covered.blocking id blocks).action, (clean.covered.blocking id blocks).validation⟩,
    clean.covered.bound⟩
  settled := ⟨clean.settled.known, clean.settled.acyclic, clean.settled.resolved⟩
  permitted := ⟨clean.permitted.targets, clean.permitted.actions, clean.permitted.risks⟩
  active := clean.active

def twicePath : Baseline :=
  Baseline.seal sha256
    { smallBaseline sha256 with
      entries := [⟨⟨"main", Eq.refl true⟩, canonicalHash sha256 .null, .relevant⟩,
        ⟨⟨"main", Eq.refl true⟩, canonicalHash sha256 (.obj []), .relevant⟩] }

/-- **A plan that is ready, and is locked, and whose baseline no evaluation accepts.** -/
theorem ready_unevaluable : ∃ decision locked,
    analyze sha256 ((Variant.request sha256 {}).rebased twicePath) none "2026-01-01T00:00:00Z" =
        .ok decision ∧
      decision.executionReady = true ∧
      lockPlan sha256 ((Variant.request sha256 {}).rebased twicePath) decision
        "2026-01-01T00:00:01Z" = .ok locked ∧
      ¬ Evaluable sha256 ((Variant.request sha256 {}).rebased twicePath) ∧
      ∀ input : EvaluationInput, input.lockedPlan = locked → input.lockedBaseline = twicePath →
        ∀ result, evaluateResult sha256 input ≠ .ok result := by
  have small := deterministicFindings_clean.mp
    (small_sound.clean (List.isEmpty_iff.mp rfl) (List.isEmpty_iff.mp rfl))
  have clean : CleanRequest sha256 ((Variant.request sha256 {}).rebased twicePath) :=
    small.rebased (Baseline.seal_verifies sha256 _)
  obtain ⟨decision, returned, ready, decided⟩ := clean.ready (List.isEmpty_iff.mp rfl) (by decide)
    "2026-01-01T00:00:00Z"
  have twice : twicePath.validate sha256 ≠ .ok () := by
    simp only [Baseline.validate, ne_eq, then_ok, unique_ok, not_and]
    intro distinct
    exact absurd distinct (by decide)
  refine ⟨decision, _, returned, ready, lockPlan_ok.mpr ⟨clean.success, clean.plan,
    analyze_valid returned, ?_, ?_, by decide, rfl⟩, fun evaluable => twice evaluable.baseline, ?_⟩
  · rw [decided]
    exact ⟨rfl, rfl⟩
  · rw [decided]
    exact ⟨rfl, rfl⟩
  · rintro input - same result evaluated
    obtain ⟨_, checked, -⟩ := bind_ok.mp evaluated
    have admissible := checkInputs_ok.mp checked
    exact twice (same ▸ admissible.lockedBaseline)

end Audisor.Aflow
