/-
**Which paths a ready plan is confined to.**

* `normalize` — the components of a path once every `..` has left the directory in front of it.
* `Contained` — every path that a plan writes lies, once resolved, in an allowed target and apart from
  the excluded paths.
* `Agree` — resolving the paths of a set changes no ancestor among them.
* **`ready_contained`** — the ready plans over a set of paths are contained exactly when these paths
  agree. `agree_of_straight` — paths without `..` do.
-/

import Audisor.Aflow.ReadyPlans

namespace Audisor.Aflow

open Json

/-! ### Resolved paths -/

/-- One more component: `..` leaves the directory that it is in, if there is one. -/
def enter (front : List (List Char)) (component : List Char) : List (List Char) :=
  if component = ['.', '.'] ∧ front.getLast? ≠ none ∧ front.getLast? ≠ some ['.', '.'] then
    front.dropLast
  else front ++ [component]

def normalize (components : List (List Char)) : List (List Char) := components.foldl enter []

def resolved (path : RelativePath) : List (List Char) :=
  normalize (AuthorityChecks.components path.val)

def LiesBelow (path root : RelativePath) : Prop := resolved root <+: resolved path

instance (path root : RelativePath) : Decidable (LiesBelow path root) :=
  inferInstanceAs (Decidable (_ <+: _))

theorem within_iff {path root : RelativePath} :
    AuthorityChecks.within path root = true ↔
      AuthorityChecks.components root.val <+: AuthorityChecks.components path.val :=
  List.isPrefixOf_iff_prefix

theorem overlaps_iff {left right : RelativePath} :
    AuthorityChecks.overlaps left right = true ↔
      AuthorityChecks.within left right = true ∨ AuthorityChecks.within right left = true :=
  Bool.or_eq_true _ _ ▸ Iff.rfl

/-! ### Confined plans -/

/-- A path that lies in an allowed target, and apart from every excluded path. -/
def Confined (plan : Plan) (path : RelativePath) : Prop :=
  (∃ target ∈ plan.targetPaths.val, target.authorityStatus = .allowed ∧ LiesBelow path target.path) ∧
    ∀ excluded ∈ plan.excludedPaths, ¬ LiesBelow path excluded.path ∧ ¬ LiesBelow excluded.path path

/-- **Every path that the plan writes is confined**, and every output to its action. -/
structure Contained (plan : Plan) : Prop where
  targets : ∀ action ∈ plan.actions.val, ∀ path ∈ action.targetPaths, Confined plan path
  outputs : ∀ action ∈ plan.actions.val, ∀ output ∈ action.expectedOutputs.val,
    ∀ path, output.artifactPath = some path →
      Confined plan path ∧ ∃ target ∈ action.targetPaths, LiesBelow path target

/-- The paths of a plan: its targets, its exclusions, and what its actions write. -/
structure UsesOnly (paths : Set RelativePath) (plan : Plan) : Prop where
  targets : ∀ target ∈ plan.targetPaths.val, target.path ∈ paths
  excluded : ∀ scope ∈ plan.excludedPaths, scope.path ∈ paths
  actions : ∀ action ∈ plan.actions.val, ∀ path ∈ action.targetPaths, path ∈ paths
  outputs : ∀ action ∈ plan.actions.val, ∀ output ∈ action.expectedOutputs.val,
    ∀ path, output.artifactPath = some path → path ∈ paths

/-- **Resolving two paths of the set neither loses an ancestor nor makes them overlap.** -/
structure Agree (paths : Set RelativePath) : Prop where
  below : ∀ path ∈ paths, ∀ root ∈ paths,
    AuthorityChecks.within path root = true → LiesBelow path root
  apart : ∀ path ∈ paths, ∀ root ∈ paths,
    LiesBelow path root → AuthorityChecks.overlaps path root = true

/-! ### Ready plans -/

section

variable {sha : Sha256} {request : AnalysisRequest}

theorem Agree.confined {paths : Set RelativePath} (agree : Agree paths) {plan : Plan}
    (uses : UsesOnly paths plan) {path : RelativePath} (member : path ∈ paths)
    (allowed : AuthorityChecks.allowed plan path = true)
    (permitted : AuthorityChecks.prohibited plan path = false) : Confined plan path := by
  constructor
  · obtain ⟨target, listed, found⟩ := List.any_eq_true.mp allowed
    rw [Bool.and_eq_true, decide_eq_true_eq] at found
    exact ⟨target, listed, found.1,
      agree.below path member target.path (uses.targets target listed) found.2⟩
  · intro excluded listed
    have separate : AuthorityChecks.overlaps path excluded.path = false :=
      Bool.eq_false_iff.mpr fun meets =>
        Bool.eq_false_iff.mp permitted (List.any_eq_true.mpr ⟨excluded, listed, meets⟩)
    have member' := uses.excluded excluded listed
    refine ⟨fun below => ?_, fun below => ?_⟩
    · exact Bool.eq_false_iff.mp separate (agree.apart path member excluded.path member' below)
    · have meets := overlaps_iff.mp (agree.apart excluded.path member' path member below)
      exact Bool.eq_false_iff.mp separate (overlaps_iff.mpr meets.symm)

theorem Agree.contained {paths : Set RelativePath} (agree : Agree paths)
    (uses : UsesOnly paths request.plan) (clean : AuthorityChecks.check request = []) :
    Contained request.plan where
  targets action listed path member := by
    have approved := ((AuthorityChecks.check_eq_nil.mp clean).2.1 action listed).1 path member
    rw [AuthorityChecks.approved, Bool.and_eq_true, Bool.not_eq_true'] at approved
    exact agree.confined uses (uses.actions action listed path member) approved.1 approved.2
  outputs action listed output member path stated := by
    have approved := ((AuthorityChecks.check_eq_nil.mp clean).2.1 action listed).2 output member
    rw [AuthorityChecks.outputApproved, stated] at approved
    simp only [Bool.and_eq_true, Bool.not_eq_true'] at approved
    obtain ⟨⟨allowed, inside⟩, permitted⟩ := approved
    have own := uses.outputs action listed output member path stated
    refine ⟨agree.confined uses own allowed permitted, ?_⟩
    obtain ⟨target, among, within⟩ := List.any_eq_true.mp inside
    exact ⟨target, among, agree.below path own target (uses.actions action listed target among) within⟩

end

/-! ### Plans over a set of paths -/

section

variable (sha : Sha256)

theorem small_ready {target path : RelativePath} {excluded : List RelativePath}
    (below : AuthorityChecks.within path target = true)
    (apart : ∀ scope ∈ excluded, AuthorityChecks.overlaps target scope = false ∧
      AuthorityChecks.overlaps path scope = false) :
    ∃ decision, analyze sha (Variant.request sha { target, path, excluded }) none
      "2026-01-01T00:00:00Z" = .ok decision ∧ decision.executionReady = true := by
  have sound : Variant.Sound sha { target, path, excluded } :=
    { proofs := List.nodup_singleton _, independent := rfl, assumptions := List.nodup_nil
      unsupported := List.forall_mem_nil _, sealed := List.forall_mem_nil _
      evidence := List.nodup_nil }
  obtain ⟨decision, returned, ready, _⟩ := Variant.ready
    (sound.clean (List.isEmpty_iff.mp rfl) (Variant.authorized below apart)) (List.isEmpty_iff.mp rfl) _
  exact ⟨decision, returned, ready⟩

theorem small_usesOnly {paths : Set RelativePath} {target path : RelativePath}
    {excluded : List RelativePath} (targeted : target ∈ paths) (written : path ∈ paths)
    (apart : ∀ scope ∈ excluded, scope ∈ paths) :
    UsesOnly paths (Variant.request sha { target, path, excluded }).plan where
  targets := List.forall_mem_singleton.mpr targeted
  excluded scope listed := by
    obtain ⟨own, among, rfl⟩ := List.mem_map.mp listed
    exact apart own among
  actions := List.forall_mem_singleton.mpr (List.forall_mem_singleton.mpr written)
  outputs := List.forall_mem_singleton.mpr (List.forall_mem_singleton.mpr fun _ stated =>
    nomatch stated)

theorem small_confined {target path : RelativePath} {excluded : List RelativePath}
    (contained : Contained (Variant.request sha { target, path, excluded }).plan) :
    LiesBelow path target ∧
      ∀ scope ∈ excluded, ¬ LiesBelow path scope ∧ ¬ LiesBelow scope path := by
  have confined : Confined (Variant.request sha { target, path, excluded }).plan path :=
    contained.targets _ (List.mem_singleton_self _) path (List.mem_singleton_self _)
  obtain ⟨⟨scope, listed, _, below⟩, apart⟩ := confined
  obtain rfl := List.mem_singleton.mp listed
  refine ⟨below, fun scope among => ?_⟩
  have listed : (⟨scope, word "It is not ours.", .prohibited⟩ : PathScope) ∈
      excluded.map fun path => ⟨path, word "It is not ours.", .prohibited⟩ :=
    List.mem_map_of_mem among
  have separate := apart _ listed
  exact separate

/-- **Containment, exactly**: every ready plan over a set of paths is contained if and only if
resolving the paths neither loses an ancestor among them nor makes two of them overlap. -/
theorem ready_contained (paths : Set RelativePath) :
    (∀ (request : AnalysisRequest) (reviewer : Option Reviewer) (decidedAt : String)
      (decision : AnalysisDecision), UsesOnly paths request.plan →
      analyze sha request reviewer decidedAt = .ok decision → decision.executionReady = true →
      Contained request.plan) ↔ Agree paths := by
  constructor
  · intro always
    constructor
    · intro path member root member' below
      obtain ⟨decision, returned, ready⟩ := small_ready sha below (List.forall_mem_nil _)
      have uses := small_usesOnly sha member' member (List.forall_mem_nil _)
      have contained := always _ _ _ _ uses returned ready
      exact (small_confined sha contained).1
    · intro path member root member' below
      by_contra separate
      have apart : AuthorityChecks.overlaps path root = false := Bool.eq_false_iff.mpr separate
      have own : AuthorityChecks.within path path = true := within_iff.mpr (List.prefix_refl _)
      obtain ⟨decision, returned, ready⟩ :=
        small_ready sha own (List.forall_mem_singleton.mpr ⟨apart, apart⟩)
      have uses := small_usesOnly sha member member (List.forall_mem_singleton.mpr member')
      have contained := always _ _ _ _ uses returned ready
      have confined := (small_confined sha contained).2 root (List.mem_singleton_self _)
      exact confined.1 below
  · intro agree request reviewer decidedAt decision uses returned ready
    obtain ⟨_, checks⟩ := deterministicFindings_eq_nil.mp (analyze_ready returned ready).1
    exact agree.contained uses (checkFindings_eq_nil.mp checks).2.2.2.2.1

end

/-- **A ready plan may leave its targets**: `main/../secret` is written below `main`. -/
theorem ready_escapes : ∃ decision,
    analyze sha256 (Variant.request sha256 { path := ⟨"main/../secret", by decide⟩ }) none
      "2026-01-01T00:00:00Z" = .ok decision ∧ decision.executionReady = true ∧
    ¬ Contained (Variant.request sha256 { path := ⟨"main/../secret", by decide⟩ }).plan := by
  have below : AuthorityChecks.within ⟨"main/../secret", by decide⟩ ⟨"main", by decide⟩ = true := by
    decide
  obtain ⟨decision, returned, ready⟩ := small_ready sha256 below (List.forall_mem_nil _)
  refine ⟨decision, returned, ready, fun contained => ?_⟩
  have escapes : ¬ LiesBelow ⟨"main/../secret", by decide⟩ ⟨"main", by decide⟩ := by decide +kernel
  exact escapes (small_confined sha256 contained).1

end Audisor.Aflow
