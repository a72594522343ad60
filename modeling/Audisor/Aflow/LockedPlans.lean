/-
**What a lock binds.**

* `lockPlan_ok` — when a plan is locked, and to what.
* **`lockPlan_binds`** — the lock of a plan binds the baseline and the authority bundle that the plan
  was written for when the request that is locked carries them. `lock_other_baseline` — the request may
  carry others, since nothing compares them.
-/

import Audisor.Aflow.DriftVerdicts
import Audisor.Aflow.ReadyPlans

namespace Audisor.Aflow

open Json

variable {sha : Sha256}

/-- **When a plan is locked, and to what.** -/
theorem lockPlan_ok {request : AnalysisRequest} {decision : AnalysisDecision} {lockedAt : String}
    {locked : LockedPlan} :
    lockPlan sha request decision lockedAt = .ok locked ↔
      request.successDefinition.validate sha = .ok () ∧ request.plan.validate = .ok () ∧
      decision.validate sha = .ok () ∧
      (decision.decision = .noMaterialGap ∧ decision.executionReady = true) ∧
      (decision.planReference = request.plan.ref sha ∧
        decision.successDefinitionReference = request.successDefinition.ref sha) ∧
      ∃ named, locked = lockOf sha request decision
        ⟨"lock." ++ request.plan.planId.val ++ "." ++ request.plan.version.val, named⟩ lockedAt := by
  simp only [lockPlan, then_ok, require_ok, Bool.and_eq_true, decide_eq_true_eq]
  refine and_congr_right fun _ => and_congr_right fun _ => and_congr_right fun _ =>
    and_congr_right fun _ => and_congr_right fun _ => ?_
  split
  · rename_i named
    have sealed : (lockOf sha request decision ⟨_, named⟩ lockedAt).validate sha = .ok () :=
      require_ok.mpr (LockedPlan.seal_verifies sha _)
    rw [then_ok]
    constructor
    · rintro ⟨_, returned⟩
      cases returned
      exact ⟨named, rfl⟩
    · rintro ⟨_, rfl⟩
      exact ⟨sealed, rfl⟩
  · rename_i unnamed
    refine iff_of_false (by rintro ⟨⟩) ?_
    rintro ⟨named, -⟩
    exact absurd named unnamed

/-- **A lock binds the baseline and the authority bundle of its plan** when they are those of the
request that is locked. -/
theorem lockPlan_binds {request : AnalysisRequest} {decision : AnalysisDecision}
    {lockedAt : String} {locked : LockedPlan}
    (accepted : lockPlan sha request decision lockedAt = .ok locked) :
    (locked.baselineReference = request.plan.repositoryBaselineReference ∧
      locked.authorityBundleReference = request.plan.authorityBundleReference) ↔
    request.plan.repositoryBaselineReference = request.baseline.ref ∧
      request.plan.authorityBundleReference = request.authorityEvidence.ref := by
  obtain ⟨_, _, _, _, _, _, rfl⟩ := lockPlan_ok.mp accepted
  exact and_congr eq_comm eq_comm

/-! ### A second request -/

theorem small_sound : Variant.Sound sha256 {} where
  proofs := List.nodup_singleton _
  independent := rfl
  assumptions := List.nodup_nil
  unsupported := List.forall_mem_nil _
  sealed := List.forall_mem_nil _
  evidence := List.nodup_nil

theorem smallRequest_ready : ∃ decision,
    analyze sha256 (Variant.request sha256 {}) none "2026-01-01T00:00:00Z" = .ok decision ∧
      decision.executionReady = true ∧
      decision = decisionOn sha256 (Variant.request sha256 {}) [] [] "2026-01-01T00:00:00Z" :=
  Variant.ready (small_sound.clean (List.isEmpty_iff.mp rfl) (List.isEmpty_iff.mp rfl))
    (List.isEmpty_iff.mp rfl) _

theorem small_locks (baseline : Baseline) : ∃ decision locked,
    analyze sha256 (Variant.request sha256 {}) none "2026-01-01T00:00:00Z" = .ok decision ∧
      decision.executionReady = true ∧
      lockPlan sha256 { Variant.request sha256 {} with baseline } decision "2026-01-01T00:00:01Z" =
        .ok locked := by
  obtain ⟨decision, returned, ready, rfl⟩ := smallRequest_ready
  have named : isIdentifier ("lock." ++ "plan-1" ++ "." ++ "1.0.0") = true := by decide
  refine ⟨_, lockOf sha256 { Variant.request sha256 {} with baseline } _ ⟨_, named⟩ _, returned,
    ready, lockPlan_ok.mpr ⟨?_, ?_, analyze_valid returned, ⟨rfl, ready⟩, ⟨rfl, rfl⟩, named, rfl⟩⟩
  · exact @Variant.success_valid sha256 {} (List.nodup_singleton _)
  · exact @Variant.plan_valid sha256 {} List.nodup_nil

theorem lockPlan_binds_small : ∃ decision locked,
    lockPlan sha256 (Variant.request sha256 {}) decision "2026-01-01T00:00:01Z" = .ok locked ∧
      locked.baselineReference = (Variant.request sha256 {}).plan.repositoryBaselineReference ∧
      locked.authorityBundleReference = (Variant.request sha256 {}).plan.authorityBundleReference := by
  obtain ⟨decision, locked, _, _, accepted⟩ := small_locks (smallBaseline sha256)
  exact ⟨decision, locked, accepted, (lockPlan_binds accepted).mpr ⟨rfl, rfl⟩⟩

/-- The small request with the baseline of another repository. -/
def movedRequest : AnalysisRequest :=
  { Variant.request sha256 {} with
    baseline := (bareBaseline ⟨"/elsewhere", by decide⟩).seal sha256 }

/-- **A lock pairs a plan with a baseline that was never analysed.** -/
theorem lock_other_baseline : ∃ decision locked,
    analyze sha256 (Variant.request sha256 {}) none "2026-01-01T00:00:00Z" = .ok decision ∧
      decision.executionReady = true ∧
      lockPlan sha256 movedRequest decision "2026-01-01T00:00:01Z" = .ok locked ∧
      locked.baselineReference ≠ movedRequest.plan.repositoryBaselineReference := by
  obtain ⟨decision, locked, returned, ready, accepted⟩ :=
    small_locks ((bareBaseline ⟨"/elsewhere", by decide⟩).seal sha256)
  refine ⟨decision, locked, returned, ready, accepted, ?_⟩
  obtain ⟨_, _, _, _, _, _, rfl⟩ := lockPlan_ok.mp accepted
  intro same
  have ids := congrArg (fun ref : ArtifactRef => ref.artifactId.val) same
  exact absurd ids (by decide : "baseline.bare" ≠ "baseline-1")

end Audisor.Aflow
