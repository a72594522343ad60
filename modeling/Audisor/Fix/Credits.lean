/-
**Which findings the resolution credits with evidence.**

* `Repository.targets` — the local files that an affected file imports.
* `firstReaches` — the file whose last finding has an id is the first to import some new local file.
* `credited` — a finding is no unresolved dependency, or a supplied record names it, or its file was
  the first to reach some local file. Whether the module it names was found plays no part.
* **`resolutionResult_resolved`** — the result of a finding is resolved exactly when it is credited.
-/

import Audisor.Fix.Dependencies

namespace Audisor.Fix

open Json Text

/-! ### Evidence for a finding -/

def HasOrigin (evidence : Table (List Dict)) (findingId : String) : Prop :=
  ∃ path records, evidence.lookup path = some records ∧ records.any (originates findingId) = true

theorem hasOrigin_entries {evidence : Table (List Dict)} {findingId : String} :
    HasOrigin evidence findingId ↔
      ∃ entry ∈ evidence.entries, entry.2.any (originates findingId) = true := by
  constructor
  · rintro ⟨path, records, found, named⟩
    exact ⟨⟨path, records⟩, AList.mem_lookup_iff.mp found, named⟩
  · rintro ⟨⟨path, records⟩, member, named⟩
    exact ⟨path, records, AList.mem_lookup_iff.mpr member, named⟩

theorem hasOrigin_sortedTable {evidence : Table (List Dict)} {findingId : String} :
    HasOrigin (sortedTable evidence) findingId ↔ HasOrigin evidence findingId := by
  simp only [hasOrigin_entries, sortedTable, List.mem_insertionSort]

theorem not_hasOrigin_empty (findingId : String) : ¬ HasOrigin ∅ findingId := by
  rintro ⟨path, records, found, -⟩
  rw [AList.lookup_empty] at found
  cases found

/-- **Replacing the records of a file by more** adds what the new records name. -/
theorem hasOrigin_insert {evidence : Table (List Dict)} {findingId path : String}
    {records : List Dict}
    (kept : ((evidence.lookup path).getD []).any (originates findingId) = true →
      records.any (originates findingId) = true) :
    HasOrigin (evidence.insert path records) findingId ↔
      HasOrigin evidence findingId ∨ records.any (originates findingId) = true := by
  constructor
  · rintro ⟨other, held, found, named⟩
    by_cases same : other = path
    · subst same
      rw [AList.lookup_insert, Option.some.injEq] at found
      exact .inr (found ▸ named)
    · rw [AList.lookup_insert_ne same] at found
      exact .inl ⟨other, held, found, named⟩
  · rintro (⟨other, held, found, named⟩ | named)
    · by_cases same : other = path
      · subst same
        exact ⟨other, records, AList.lookup_insert _, kept (by rw [found]; exact named)⟩
      · exact ⟨other, held, by rw [AList.lookup_insert_ne same]; exact found, named⟩
    · exact ⟨path, records, AList.lookup_insert _, named⟩

theorem hasOrigin_appendRecord {evidence : Table (List Dict)} {findingId target : String}
    {record : Dict} :
    HasOrigin (appendRecord evidence target record) findingId ↔
      HasOrigin evidence findingId ∨ originates findingId record = true := by
  rw [appendRecord, hasOrigin_insert (fun named => by simp only [List.any_append, named, Bool.true_or])]
  constructor
  · rintro (named | named)
    · exact .inl named
    · simp only [List.any_append, List.any_cons, List.any_nil, Bool.or_false, Bool.or_eq_true] at named
      refine named.imp_left fun held => ?_
      cases found : evidence.lookup target with
      | none =>
        rw [found] at held
        cases held
      | some records =>
        rw [found] at held
        exact ⟨target, records, found, held⟩
  · exact Or.imp_right fun named => by simp [named]

/-! ### The merge -/

theorem originates_of_recordKey {findingId : String} {record other : Dict}
    (same : recordKey record = recordKey other) :
    originates findingId record = originates findingId other := by
  have first : get? record "originating_finding_id" = get? other "originating_finding_id" :=
    congrArg Prod.fst same
  rw [originates, originates, first]

/-- **The merged records name what either side names.** -/
theorem mergeRecords_any {existing new : List Dict} {findingId : String} :
    (mergeRecords existing new).any (originates findingId) =
      (existing.any (originates findingId) || new.any (originates findingId)) := by
  unfold mergeRecords
  induction new generalizing existing with
  | nil => simp
  | cons record rest ih =>
    rw [List.foldl_cons, ih, addRecord]
    split
    · rename_i present
      obtain ⟨held, member, same⟩ := List.any_eq_true.mp present
      have covered : originates findingId record = true →
          existing.any (originates findingId) = true := fun named =>
        List.any_eq_true.mpr
          ⟨held, member, (originates_of_recordKey (of_decide_eq_true same)).trans named⟩
      cases named : originates findingId record with
      | false => simp [named]
      | true => simp [covered named]
    · simp [List.any_append, Bool.or_assoc]

/-- **The merged evidence names what either side names.** -/
theorem hasOrigin_mergeEvidence {existing new : Table (List Dict)} {findingId : String} :
    HasOrigin (mergeEvidence existing new) findingId ↔
      HasOrigin existing findingId ∨ HasOrigin new findingId := by
  rw [mergeEvidence, hasOrigin_sortedTable, @hasOrigin_entries new]
  generalize new.entries = entries
  induction entries generalizing existing with
  | nil => simp
  | cons entry rest ih =>
    rw [List.foldl_cons, ih, hasOrigin_insert fun named => by rw [mergeRecords_any, named, Bool.true_or],
      mergeRecords_any, Bool.or_eq_true]
    have held : ((existing.lookup entry.1).getD []).any (originates findingId) = true →
        HasOrigin existing findingId := fun named => by
      cases found : existing.lookup entry.1 with
      | none =>
        rw [found] at named
        cases named
      | some records =>
        rw [found] at named
        exact ⟨entry.1, records, found, named⟩
    simp only [List.exists_mem_cons_iff]
    tauto

/-! ### What the imports reach -/

def Repository.targets (repository : Repository) (relative : String) : List String :=
  (repository.imports (repository.source relative)).filterMap
    (repository.target (repository.source relative))

theorem originates_evidenceRecord (findingId : String) (finding : Finding) (relative target : String)
    (imported : Import) :
    originates findingId (evidenceRecord finding relative target imported) = true ↔
      finding.id = findingId := by
  simp [originates, evidenceRecord]

/-- **Following the imports of one file**: the closure gains their targets, and the finding of the file
is named when one of them is new. -/
theorem Closure.follow_imports {repository : Repository} {finding : Finding} {relative : String}
    (imports : List Import) (closure : Closure) :
    (∀ file, file ∈ (imports.foldl (follow repository finding relative) closure).paths ↔
      file ∈ closure.paths ∨
        file ∈ imports.filterMap (repository.target (repository.source relative))) ∧
    ∀ findingId,
      HasOrigin (imports.foldl (follow repository finding relative) closure).evidence findingId ↔
        HasOrigin closure.evidence findingId ∨ finding.id = findingId ∧
          ∃ file ∈ imports.filterMap (repository.target (repository.source relative)),
            file ∉ closure.paths := by
  induction imports generalizing closure with
  | nil => simp
  | cons imported rest ih =>
    rw [List.foldl_cons]
    cases reached : repository.target (repository.source relative) imported with
    | none =>
      have same : closure.follow repository finding relative imported = closure := by
        rw [follow, reached]
      rw [same, List.filterMap_cons_none reached]
      exact ih closure
    | some target =>
      rw [List.filterMap_cons_some reached]
      by_cases known : target ∈ closure.paths
      · have same : closure.follow repository finding relative imported = closure := by
          rw [follow, reached]
          exact if_pos known
        rw [same]
        refine ⟨fun file => ?_, fun findingId => ?_⟩
        · rw [(ih closure).1 file, List.mem_cons]
          constructor
          · exact Or.imp_right Or.inr
          · rintro (held | rfl | later)
            · exact .inl held
            · exact .inl known
            · exact .inr later
        · rw [(ih closure).2 findingId, List.exists_mem_cons_iff]
          simp [known]
      · have grown : closure.follow repository finding relative imported =
            { paths := target :: closure.paths
              evidence := appendRecord closure.evidence target
                (evidenceRecord finding relative target imported) } := by
          rw [follow, reached]
          exact if_neg known
        rw [grown]
        refine ⟨fun file => ?_, fun findingId => ?_⟩
        · rw [(ih _).1 file]
          simp only [List.mem_cons]
          tauto
        · rw [(ih _).2 findingId, hasOrigin_appendRecord, originates_evidenceRecord,
            List.exists_mem_cons_iff]
          simp only [List.mem_cons, not_or, known, not_false_eq_true, true_or, and_true]
          exact ⟨fun named => by tauto, fun named => by tauto⟩

/-- The affected file whose finding has the id is the first to import some local file that is not
found yet. -/
def firstReaches (repository : Repository) (findingId : String) :
    List String → List (String × Finding) → Bool
  | _, [] => false
  | found, (relative, owner) :: rest =>
    (owner.id = findingId && (repository.targets relative).any fun file => file ∉ found) ||
      firstReaches repository findingId (found ++ repository.targets relative) rest

/-- **Visiting the affected files**: all must be present, and the evidence names the findings whose
file is the first to reach some local file. -/
theorem Closure.visit_files {repository : Repository} (files : List (String × Finding))
    (closure : Closure) (found : List String) (listed : ∀ file, file ∈ closure.paths ↔ file ∈ found) :
    match files.foldlM (visit repository) closure with
    | none => files.all (fun file => repository.present file.1) = false
    | some final =>
      files.all (fun file => repository.present file.1) = true ∧
        ∀ findingId, HasOrigin final.evidence findingId ↔
          HasOrigin closure.evidence findingId ∨
            firstReaches repository findingId found files = true := by
  induction files generalizing closure found with
  | nil => simp [firstReaches]
  | cons file rest ih =>
    obtain ⟨relative, owner⟩ := file
    rw [List.foldlM_cons, visit]
    by_cases here : repository.present relative = true
    · rw [if_pos here, Option.bind_eq_bind, Option.bind_some]
      obtain ⟨grown, named⟩ := @follow_imports repository owner relative
        (repository.imports (repository.source relative)) closure
      have rests := ih ((repository.imports (repository.source relative)).foldl
        (follow repository owner relative) closure) (found ++ repository.targets relative)
        fun file => by rw [grown file, listed file, List.mem_append]; rfl
      have new : (∃ file ∈ repository.targets relative, file ∉ closure.paths) ↔
          ((repository.targets relative).any fun file => file ∉ found) = true := by
        simp only [List.any_eq_true, decide_eq_true_eq, listed]
      split at rests
      · rename_i missing
        rw [missing]
        simp only [List.all_cons, rests, Bool.and_false]
      · rename_i final reached
        rw [reached]
        refine ⟨by simp only [List.all_cons, here, rests.1, Bool.and_self], fun findingId => ?_⟩
        rw [rests.2 findingId, named findingId, firstReaches, Bool.or_eq_true, Bool.and_eq_true,
          decide_eq_true_eq, ← new]
        exact or_assoc
    · rw [if_neg here]
      simp [here]

/-! ### Credit -/

def suppliedFor (manifest : FixScopedManifest) (findingId : String) : Bool :=
  manifest.dependencyEvidence.entries.any fun entry => entry.2.any (originates findingId)

/-- **What credits a finding**: its type, a supplied record, or the first import of a local file by the
file whose last finding it is, where no affected file is missing. -/
def credited (repository : Repository) (operation : AcceptedFixOperation) (finding : Finding) : Bool :=
  finding.type ≠ unresolvedType || suppliedFor operation.manifest finding.id ||
    ((issueFiles operation.findings).all (fun file => repository.present file.1) &&
      firstReaches repository finding.id (issuePaths operation.findings)
        (issueFiles operation.findings))

theorem resolveDependencyDetails_origin (repository : Repository) (findings : List Finding)
    (findingId : String) :
    HasOrigin ((resolveDependencyDetails repository findings).getD
        { paths := [], evidence := ∅ }).evidence findingId ↔
      (issueFiles findings).all (fun file => repository.present file.1) = true ∧
        firstReaches repository findingId (issuePaths findings) (issueFiles findings) = true := by
  have visited := @Closure.visit_files repository (issueFiles findings)
    { paths := issuePaths findings, evidence := ∅ } (issuePaths findings) fun _ => Iff.rfl
  unfold resolveDependencyDetails
  split at visited
  · rename_i missing
    rw [missing, Option.getD_none, visited]
    simp [not_hasOrigin_empty]
  · rename_i final reached
    rw [reached, Option.getD_some, visited.2 findingId]
    simp [not_hasOrigin_empty, visited.1]

/-- **The result of a finding is resolved exactly when the finding is credited.** -/
theorem resolutionResult_resolved (repr : PythonRepr) (repository : Repository)
    (operation : AcceptedFixOperation) (finding : Finding) :
    (resolutionResult repr (enrichedManifest repository operation).dependencyEvidence
      finding).resolved = credited repository operation finding := by
  have named : HasOrigin (enrichedManifest repository operation).dependencyEvidence finding.id ↔
      suppliedFor operation.manifest finding.id = true ∨
        (issueFiles operation.findings).all (fun file => repository.present file.1) = true ∧
          firstReaches repository finding.id (issuePaths operation.findings)
            (issueFiles operation.findings) = true := by
    rw [enrichedManifest, hasOrigin_mergeEvidence, resolveDependencyDetails_origin,
      @hasOrigin_entries operation.manifest.dependencyEvidence, suppliedFor, List.any_eq_true]
  generalize (enrichedManifest repository operation).dependencyEvidence = evidence at named ⊢
  have cited : (evidence.entries.filter fun entry => entry.2.any (originates finding.id)).map
      Sigma.fst ≠ [] ↔ HasOrigin evidence finding.id := by
    rw [hasOrigin_entries, ne_eq, List.map_eq_nil_iff, List.filter_eq_nil_iff]
    push Not
    rfl
  rw [Bool.eq_iff_iff, credited, Bool.or_assoc, Bool.or_eq_true, Bool.or_eq_true, Bool.and_eq_true,
    ← named, ← cited, resolutionResult]
  split
  · rename_i other
    simp [other]
  · rename_i kind
    dsimp only
    split
    · rename_i some
      simp [some]
    · rename_i none
      simp [none, kind]

end Audisor.Fix
