/-
**Which drift blocks, exactly.**

* `Quiet` — nothing changed but unrelated paths. `Unchanged` — nothing changed at all.
* `driftVerdict_blocks` — the cascade of the classes, read as one condition on every change.
* **`drift_exact`** — the verdict on two valid baselines blocks unless they are quiet, says no drift
  when they are unchanged, and blocks alike when they are exchanged.
-/

import Audisor.Aflow.Drift
import Audisor.Aflow.Invariants

namespace Audisor.Aflow

open Json

variable (sha : Sha256)

/-! ### The cascade of the classes -/

/-- A change of a path that no side of the comparison relates to the plan. -/
def DriftChange.Harmless (change : DriftChange) : Prop :=
  change.classification = .unrelated ∧ change.changeType ≠ .baselineUnverifiable

theorem driftVerdict_noDrift {changes : List DriftChange} :
    driftVerdict changes = .noDrift ↔ changes = [] := by
  constructor
  · intro verdict
    by_contra some
    rw [driftVerdict, if_neg (by simpa using some)] at verdict
    split_ifs at verdict
  · rintro rfl
    rfl

/-- **A verdict lets the work go on when every change is harmless.** -/
theorem driftVerdict_blocks {changes : List DriftChange} :
    (driftVerdict changes).blocks = false ↔ ∀ change ∈ changes, change.Harmless := by
  rw [driftVerdict]
  split_ifs with empty unsure guarded related
  · rw [List.isEmpty_iff] at empty
    simp [empty, DriftVerdict.blocks]
  · obtain ⟨change, member, kind⟩ := List.any_eq_true.mp unsure
    refine iff_of_false (by simp [DriftVerdict.blocks]) fun harmless => ?_
    obtain ⟨unrelated, verifiable⟩ := harmless change member
    simp [unrelated, verifiable] at kind
  · obtain ⟨change, member, kind⟩ := List.any_eq_true.mp guarded
    refine iff_of_false (by simp [DriftVerdict.blocks]) fun harmless => ?_
    simp [(harmless change member).1] at kind
  · obtain ⟨change, member, kind⟩ := List.any_eq_true.mp related
    refine iff_of_false (by simp [DriftVerdict.blocks]) fun harmless => ?_
    simp [(harmless change member).1] at kind
  · refine iff_of_true rfl fun change member => ?_
    simp only [List.any_eq_true, not_exists, not_and, decide_eq_true_eq, not_or] at unsure guarded
    simp only [List.any_eq_true, not_exists, not_and, decide_eq_true_eq] at related
    refine ⟨?_, (unsure change member).2⟩
    cases kind : change.classification with
    | relevant => exact absurd kind (related change member)
    | «protected» => exact absurd kind (guarded change member)
    | unrelated => rfl
    | unknown => exact absurd kind (unsure change member).1

/-! ### One path -/

def SameEntry (old new : Option BaselineEntry) : Prop :=
  ∃ before after, old = some before ∧ new = some after ∧
    before.contentHash = after.contentHash ∧ before.classification = after.classification

/-- A path whose content changed, or that one side lacks, and that no side relates to the plan. -/
def UnrelatedChange (old new : Option BaselineEntry) : Prop :=
  old.map BaselineEntry.contentHash ≠ new.map BaselineEntry.contentHash ∧
    (∀ before, old = some before → before.classification = .unrelated) ∧
    ∀ after, new = some after → after.classification = .unrelated

theorem UnrelatedChange.exchange {old new : Option BaselineEntry}
    (unrelated : UnrelatedChange old new) : UnrelatedChange new old :=
  ⟨unrelated.1.symm, unrelated.2.2, unrelated.2.1⟩

theorem SameEntry.exchange {old new : Option BaselineEntry} (same : SameEntry old new) :
    SameEntry new old := by
  obtain ⟨before, after, left, right, hashes, classes⟩ := same
  exact ⟨after, before, right, left, hashes.symm, classes.symm⟩

theorem conservative_unrelated {old new : Option Classification} :
    conservativeClassification old new = .unrelated ↔
      (∀ before, old = some before → before = .unrelated) ∧
        ∀ after, new = some after → after = .unrelated := by
  rcases old with _ | ⟨_ | _ | _ | _⟩ <;> rcases new with _ | ⟨_ | _ | _ | _⟩ <;>
    simp [conservativeClassification]

/-- **What a path contributes is harmless** when it is the same, or an unrelated change. -/
theorem pathChange_harmless {path : RelativePath} {old new : Option BaselineEntry}
    (listed : old ≠ none ∨ new ≠ none) :
    (∀ change, pathChange path old new = some change → change.Harmless) ↔
      SameEntry old new ∨ UnrelatedChange old new := by
  rcases old with _ | before <;> rcases new with _ | after
  · simp at listed
  · simp [pathChange, pathChange.changed, DriftChange.Harmless, SameEntry, UnrelatedChange,
      conservative_unrelated]
  · simp [pathChange, pathChange.changed, DriftChange.Harmless, SameEntry, UnrelatedChange,
      conservative_unrelated]
  · by_cases hashes : before.contentHash = after.contentHash
    · by_cases classes : before.classification = after.classification
      · simp [pathChange, hashes, classes, SameEntry]
      · simp [pathChange, hashes, classes, SameEntry, UnrelatedChange, DriftChange.Harmless,
          unverifiable]
    · simp [pathChange, pathChange.changed, hashes, SameEntry, UnrelatedChange,
        DriftChange.Harmless, conservative_unrelated]

theorem pathChange_none {path : RelativePath} {old new : Option BaselineEntry} :
    pathChange path old new = none ↔ SameEntry old new := by
  rcases old with _ | before <;> rcases new with _ | after
  · simp [pathChange, SameEntry]
  · simp [pathChange, SameEntry]
  · simp [pathChange, SameEntry]
  · by_cases hashes : before.contentHash = after.contentHash
    · by_cases classes : before.classification = after.classification <;>
        simp [pathChange, hashes, classes, SameEntry]
    · simp [pathChange, hashes, SameEntry]

/-! ### Two baselines -/

/-- **Nothing changed but unrelated paths.** -/
structure Quiet (locked current : Baseline) : Prop where
  root : locked.repositoryRoot = current.repositoryRoot
  scope : locked.scope = current.scope
  authority : ∀ authorityId, locked.authorityHash authorityId = current.authorityHash authorityId
  paths : ∀ path, path ∈ locked.paths ∨ path ∈ current.paths →
    SameEntry (locked.entry path) (current.entry path) ∨
      UnrelatedChange (locked.entry path) (current.entry path)

/-- **Nothing changed.** -/
structure Unchanged (locked current : Baseline) : Prop where
  root : locked.repositoryRoot = current.repositoryRoot
  scope : locked.scope = current.scope
  authority : ∀ authorityId, locked.authorityHash authorityId = current.authorityHash authorityId
  paths : ∀ path, path ∈ locked.paths ∨ path ∈ current.paths →
    SameEntry (locked.entry path) (current.entry path)

theorem Quiet.exchange {locked current : Baseline} (quiet : Quiet locked current) :
    Quiet current locked where
  root := quiet.root.symm
  scope := quiet.scope.symm
  authority authorityId := (quiet.authority authorityId).symm
  paths path listed := (quiet.paths path listed.symm).imp SameEntry.exchange
    UnrelatedChange.exchange

theorem entry_isSome {baseline : Baseline} {path : RelativePath} (listed : path ∈ baseline.paths) :
    baseline.entry path ≠ none := by
  intro absent
  have present : (baseline.entry path).isSome = true := byKey_isSome listed
  rw [absent] at present
  cases present

theorem entry_listed {locked current : Baseline} {path : RelativePath}
    (listed : path ∈ locked.paths ∨ path ∈ current.paths) :
    locked.entry path ≠ none ∨ current.entry path ≠ none :=
  listed.imp entry_isSome entry_isSome

theorem authorityHash_unlisted {baseline : Baseline} {authorityId : Identifier}
    (unlisted : authorityId ∉ baseline.authorityIds) : baseline.authorityHash authorityId = none := by
  rw [Baseline.authorityHash, Option.map_eq_none_iff]
  by_contra listed
  obtain ⟨authority, found⟩ := Option.ne_none_iff_exists'.mp listed
  obtain ⟨member, rfl⟩ := byKey_some found
  exact unlisted (List.mem_map_of_mem member)

theorem authority_iff {locked current : Baseline} :
    (∀ authorityId, authorityId ∈ locked.authorityIds ∨ authorityId ∈ current.authorityIds →
      locked.authorityHash authorityId = current.authorityHash authorityId) ↔
    ∀ authorityId, locked.authorityHash authorityId = current.authorityHash authorityId := by
  refine ⟨fun agree authorityId => ?_, fun agree authorityId _ => agree authorityId⟩
  by_cases listed : authorityId ∈ locked.authorityIds ∨ authorityId ∈ current.authorityIds
  · exact agree authorityId listed
  · rw [not_or] at listed
    rw [authorityHash_unlisted listed.1, authorityHash_unlisted listed.2]

/-- **What must hold of every change, part by part.** -/
theorem baselineChanges_all {locked current : Baseline} {property : DriftChange → Prop} :
    (∀ change ∈ baselineChanges locked current, property change) ↔
      (locked.repositoryRoot ≠ current.repositoryRoot →
        property (unverifiable ⟨"repository-root", by decide⟩ none none)) ∧
      (locked.scope ≠ current.scope →
        property (unverifiable ⟨"baseline-scope", by decide⟩ none none)) ∧
      (∀ path, path ∈ locked.paths ∨ path ∈ current.paths →
        ∀ change, pathChange path (locked.entry path) (current.entry path) = some change →
          property change) ∧
      ∀ authorityId, authorityId ∈ locked.authorityIds ∨ authorityId ∈ current.authorityIds →
        ∀ change, authorityChange authorityId (locked.authorityHash authorityId)
          (current.authorityHash authorityId) = some change → property change := by
  have single (same : Prop) [Decidable same] (change : DriftChange) :
      (∀ other ∈ (if same then [] else [change]), property other) ↔ (¬ same → property change) := by
    split <;> simp [*]
  simp only [baselineChanges, List.forall_mem_append, single, List.mem_filterMap,
    mem_sortedUnion, and_assoc]
  refine and_congr_right fun _ => and_congr_right fun _ => and_congr ?_ ?_
  · exact ⟨fun all path listed change made => all change ⟨path, listed, made⟩,
      fun all change ⟨path, listed, made⟩ => all path listed change made⟩
  · exact ⟨fun all authorityId listed change made => all change ⟨authorityId, listed, made⟩,
      fun all change ⟨authorityId, listed, made⟩ => all authorityId listed change made⟩

/-- **Every change is harmless when the baselines are quiet.** -/
theorem baselineChanges_harmless {locked current : Baseline} :
    (∀ change ∈ baselineChanges locked current, change.Harmless) ↔ Quiet locked current := by
  have unsure (path : RelativePath) : ¬ (unverifiable path none none).Harmless := fun harmless =>
    harmless.2 rfl
  have guarded (authorityId : Identifier) (old new : Option Digest) :
      (∀ change, authorityChange authorityId old new = some change → change.Harmless) ↔
        old = new := by
    by_cases same : old = new <;> simp [authorityChange, same, DriftChange.Harmless]
  rw [baselineChanges_all]
  simp only [unsure, imp_false, not_not, guarded, authority_iff]
  constructor
  · rintro ⟨root, scope, paths, authority⟩
    refine ⟨root, scope, authority, fun path listed => ?_⟩
    exact (pathChange_harmless (entry_listed listed)).mp (paths path listed)
  · rintro ⟨root, scope, authority, paths⟩
    refine ⟨root, scope, fun path listed => ?_, authority⟩
    exact (pathChange_harmless (entry_listed listed)).mpr (paths path listed)

/-- **There is no change when the baselines are unchanged.** -/
theorem baselineChanges_none {locked current : Baseline} :
    baselineChanges locked current = [] ↔ Unchanged locked current := by
  have none_iff {α : Type} (made : Option α) : (∀ change, made = some change → False) ↔ made = none :=
    Option.eq_none_iff_forall_ne_some.symm
  have kept (authorityId : Identifier) (old new : Option Digest) :
      authorityChange authorityId old new = none ↔ old = new := by
    by_cases same : old = new <;> simp [authorityChange, same]
  rw [List.eq_nil_iff_forall_not_mem]
  have parts := @baselineChanges_all locked current fun _ => False
  simp only [imp_false, not_not] at parts
  rw [parts]
  constructor
  · rintro ⟨root, scope, paths, authority⟩
    refine ⟨root, scope, authority_iff.mp fun id listed => (kept id _ _).mp ?_, fun path listed => ?_⟩
    · exact (none_iff _).mp (authority id listed)
    · exact pathChange_none.mp ((none_iff _).mp (paths path listed))
  · rintro ⟨root, scope, authority, paths⟩
    refine ⟨root, scope, fun path listed => ?_, fun id _ => ?_⟩
    · exact (none_iff _).mpr (pathChange_none.mpr (paths path listed))
    · exact (none_iff _).mpr ((kept id _ _).mpr (authority id))

/-! ### The verdict -/

theorem compareBaselines_ok {locked current : Baseline} (lockedValid : locked.validate sha = .ok ())
    (currentValid : current.validate sha = .ok ()) (observedAt : String) :
    ∃ event, compareBaselines sha locked current observedAt = .ok event ∧
      event.changes = baselineChanges locked current := by
  rw [compareBaselines, lockedValid, currentValid]
  exact ⟨_, rfl, rfl⟩

def bareBaseline (root : AbsolutePath) : Baseline :=
  { baselineId := ⟨"baseline.bare", Eq.refl true⟩, repositoryRoot := root
    repositoryKind := oneOf "filesystem", gitState := oneOf "unavailable"
    dirtyState := oneOf "clean"
    scope := { mode := oneOf "global", relevantPaths := [], protectedPaths := [] }
    entries := [], authorityHashes := [], capturedAt := "2026-01-01T00:00:00Z"
    contentHash := ⟨"sha256:" ++ sha256.hexdigest "", isSha256_digest sha256 ""⟩ }

theorem bareBaseline_valid (root : AbsolutePath) :
    ((bareBaseline root).seal sha256).validate sha256 = .ok () := by
  have sealed : require (verifyHash sha256 ((bareBaseline root).seal sha256).contentHash
      ((bareBaseline root).seal sha256).toJson) "baseline content hash mismatch" = .ok () :=
    require_ok.mpr (Baseline.seal_verifies sha256 (bareBaseline root))
  rw [Baseline.validate, sealed]
  rfl

end Audisor.Aflow
