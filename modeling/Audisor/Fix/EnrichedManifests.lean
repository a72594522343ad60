/-
**What the enrichment does to a valid manifest.**

* `mergeRecords_split`, `lookup_mergeEvidence` — the merged records of a file are the old ones, and
  behind them new ones under new keys.
* `closure_paths` — what the resolution adds to the closure: the affected files and the files they import.
* `HostRepository` — a repository whose paths are resolved ones.
* `preserves_iff` — a valid manifest stays valid exactly if nothing is added to a closure with hashes,
  and no finding without an id is credited. Everything else is kept, and a second run changes nothing.
-/

import Audisor.Fix.Credits
import Audisor.Lists.Sorting
import Mathlib.Data.List.Dedup

namespace Audisor.Fix

open Json Text

/-! ### The merged records of a file -/

theorem addRecord_keys {records : List Dict} {record : Dict} :
    ∃ held ∈ addRecord records record, recordKey held = recordKey record := by
  unfold addRecord
  split
  · rename_i present
    obtain ⟨held, member, same⟩ := List.any_eq_true.mp present
    exact ⟨held, member, of_decide_eq_true same⟩
  · exact ⟨record, List.mem_append_right _ (List.mem_singleton_self _), rfl⟩

/-- **Old records first, new ones behind them, each under a new key.** -/
theorem mergeRecords_split (existing new : List Dict) :
    ∃ added, mergeRecords existing new = existing ++ added ∧ (∀ record ∈ added, record ∈ new) ∧
      (added.map recordKey).Nodup ∧
      ∀ record ∈ added, ∀ held ∈ existing, recordKey held ≠ recordKey record := by
  induction new generalizing existing with
  | nil =>
    exact ⟨[], (List.append_nil _).symm, fun _ => id, List.nodup_nil,
      fun _ none => absurd none List.not_mem_nil⟩
  | cons record rest ih =>
    obtain ⟨added, merged, from_new, distinct, apart⟩ := ih (addRecord existing record)
    have step : mergeRecords existing (record :: rest) = mergeRecords (addRecord existing record) rest := rfl
    by_cases present : (existing.any fun held => recordKey held = recordKey record) = true
    · have same : addRecord existing record = existing := if_pos present
      rw [same] at merged apart
      exact ⟨added, by rw [step, same, merged], fun other member => List.mem_cons_of_mem _ (from_new other member),
        distinct, apart⟩
    · have grown : addRecord existing record = existing ++ [record] := if_neg present
      rw [grown] at merged apart
      refine ⟨record :: added, by rw [step, grown, merged, List.append_assoc]; rfl, ?_, ?_, ?_⟩
      · intro other member
        rcases List.mem_cons.mp member with rfl | later
        · exact List.mem_cons_self
        · exact List.mem_cons_of_mem _ (from_new other later)
      · rw [List.map_cons, List.nodup_cons]
        refine ⟨fun twice => ?_, distinct⟩
        obtain ⟨other, member, same⟩ := List.mem_map.mp twice
        exact apart other member record (List.mem_append_right _ (List.mem_singleton_self _)) same.symm
      · intro other member held listed
        rcases List.mem_cons.mp member with rfl | later
        · intro same
          exact present (List.any_eq_true.mpr ⟨held, listed, decide_eq_true same⟩)
        · exact apart other later held (List.mem_append_left _ listed)

theorem mergeRecords_keys {existing new : List Dict} {record : Dict} (listed : record ∈ new) :
    ∃ held ∈ mergeRecords existing new, recordKey held = recordKey record := by
  induction new generalizing existing with
  | nil => cases listed
  | cons first rest ih =>
    rcases List.mem_cons.mp listed with rfl | later
    · obtain ⟨held, member, same⟩ := @addRecord_keys existing record
      obtain ⟨added, merged, -⟩ := mergeRecords_split (addRecord existing record) rest
      refine ⟨held, ?_, same⟩
      show held ∈ mergeRecords (addRecord existing record) rest
      rw [merged]
      exact List.mem_append_left _ member
    · exact ih later

theorem mergeRecords_of_keys {existing new : List Dict}
    (present : ∀ record ∈ new, ∃ held ∈ existing, recordKey held = recordKey record) :
    mergeRecords existing new = existing := by
  induction new with
  | nil => rfl
  | cons record rest ih =>
    obtain ⟨held, member, same⟩ := present record List.mem_cons_self
    have kept : addRecord existing record = existing :=
      if_pos (List.any_eq_true.mpr ⟨held, member, decide_eq_true same⟩)
    show mergeRecords (addRecord existing record) rest = existing
    rw [kept]
    exact ih fun other later => present other (List.mem_cons_of_mem _ later)

theorem mergeRecords_idem (existing new : List Dict) :
    mergeRecords (mergeRecords existing new) new = mergeRecords existing new :=
  mergeRecords_of_keys fun _ listed => mergeRecords_keys listed

/-! ### The merged evidence -/

theorem sortedTable_lookup {α : Type} (table : Table α) (path : String) :
    (sortedTable table).lookup path = table.lookup path := by
  refine Option.ext fun value => ?_
  rw [← Option.mem_def, ← Option.mem_def, AList.mem_lookup_iff, AList.mem_lookup_iff]
  exact List.mem_insertionSort _

/-- **A sorted table is what its lookups answer.** -/
theorem sortedTable_eq {α : Type} {first second : Table α}
    (same : ∀ path, first.lookup path = second.lookup path) : sortedTable first = sortedTable second := by
  have perm : first.entries.Perm second.entries :=
    List.lookup_ext first.nodupKeys second.nodupKeys fun path value => by
      show value ∈ first.lookup path ↔ value ∈ second.lookup path
      rw [same]
  refine AList.ext (Lists.insertionSort_perm_eq (fun _ _ _ _ => String.le_total _ _)
    (fun _ _ _ _ _ _ => String.le_trans) (fun a listed b listed' below above => ?_) perm)
  exact List.NodupKeys.eq_of_fst_eq first.nodupKeys listed listed' (String.le_antisymm below above)

theorem lookup_merge {entries : List (Sigma fun _ : String => List Dict)} {merged : Table (List Dict)}
    {path : String} (distinct : entries.NodupKeys) :
    (entries.foldl (fun merged entry =>
        merged.insert entry.1 (mergeRecords ((merged.lookup entry.1).getD []) entry.2)) merged).lookup path =
      (entries.dlookup path).elim (merged.lookup path)
        fun records => some (mergeRecords ((merged.lookup path).getD []) records) := by
  induction entries generalizing merged with
  | nil => rfl
  | cons entry rest ih =>
    obtain ⟨fresh, distinct⟩ := List.nodupKeys_cons.mp distinct
    rw [List.foldl_cons, ih distinct]
    by_cases same : path = entry.1
    · subst same
      rw [List.dlookup_eq_none.mpr fresh, List.dlookup_cons_eq, Option.elim_none, Option.elim_some,
        AList.lookup_insert]
    · rw [AList.lookup_insert_ne same, List.dlookup_cons_ne _ _ same]

/-- **The merged evidence of a file.** -/
theorem lookup_mergeEvidence (existing new : Table (List Dict)) (path : String) :
    (mergeEvidence existing new).lookup path =
      (new.lookup path).elim (existing.lookup path)
        fun records => some (mergeRecords ((existing.lookup path).getD []) records) := by
  rw [mergeEvidence, sortedTable_lookup, lookup_merge new.nodupKeys]
  rfl

theorem mergeEvidence_idem (existing new : Table (List Dict)) :
    mergeEvidence (mergeEvidence existing new) new = mergeEvidence existing new := by
  have same (path : String) : (mergeEvidence (mergeEvidence existing new) new).lookup path =
      (mergeEvidence existing new).lookup path := by
    rw [lookup_mergeEvidence, lookup_mergeEvidence existing]
    cases new.lookup path with
    | none => rfl
    | some records => exact congrArg some (mergeRecords_idem _ _)
  refine sortedTable_eq fun path => ?_
  rw [← sortedTable_lookup, ← sortedTable_lookup (List.foldl _ existing _)]
  exact same path

/-! ### The closure -/

theorem sorted_closure_eq {first second : List String} (same : ∀ path, path ∈ first ↔ path ∈ second) :
    (first.dedup.insertionSort fun a b => a ≤ b) = second.dedup.insertionSort fun a b => a ≤ b :=
  Lists.insertionSort_perm_eq (fun _ _ _ _ => String.le_total _ _) (fun _ _ _ _ _ _ => String.le_trans)
    (fun _ _ _ _ => String.le_antisymm)
    ((List.perm_ext_iff_of_nodup (List.nodup_dedup _) (List.nodup_dedup _)).mpr fun path => by
      rw [List.mem_dedup, List.mem_dedup, same])

theorem mem_sorted_closure {paths : List String} {path : String} :
    path ∈ (paths.dedup.insertionSort fun a b => a ≤ b) ↔ path ∈ paths := by
  rw [List.mem_insertionSort, List.mem_dedup]

/-- What the resolution finds; nothing where an affected file is missing. -/
def foundClosure (repository : Repository) (findings : List Finding) : Closure :=
  (resolveDependencyDetails repository findings).getD { paths := [], evidence := ∅ }

/-- **A second preparation changes nothing.** -/
theorem prepare_idem (repr : PythonRepr) (repository : Repository) (operation : AcceptedFixOperation) :
    prepareDependencyEvidence repr repository (prepareDependencyEvidence repr repository operation).1 =
      prepareDependencyEvidence repr repository operation := by
  have manifest : enrichedManifest repository
      { operation with manifest := enrichedManifest repository operation } =
      enrichedManifest repository operation := by
    unfold enrichedManifest
    simp only [mergeEvidence_idem]
    congr 1
    refine sorted_closure_eq fun path => ?_
    rw [List.mem_append, mem_sorted_closure, List.mem_append]
    tauto
  simp only [prepareDependencyEvidence, manifest]

/-! ### What the resolution finds -/

variable {repository : Repository}

/-- **What the closure gains**: the files that the affected files import. -/
theorem visit_paths {files : List (String × Finding)} {closure final : Closure}
    (reached : files.foldlM (Closure.visit repository) closure = some final) (path : String) :
    path ∈ final.paths ↔ path ∈ closure.paths ∨ ∃ file ∈ files, path ∈ repository.targets file.1 := by
  induction files generalizing closure with
  | nil =>
    cases reached
    simp
  | cons file rest ih =>
    rw [List.foldlM_cons, Closure.visit] at reached
    by_cases here : repository.present file.1 = true
    · rw [if_pos here, Option.bind_eq_bind, Option.bind_some] at reached
      rw [ih reached, (Closure.follow_imports _ closure).1 path, List.exists_mem_cons_iff, or_assoc]
      rfl
    · rw [if_neg here] at reached
      cases reached

/-- Every record stands at a file of the closure, and is that of an import of one of the files. -/
def Recorded (repository : Repository) (files : List (String × Finding)) (closure : Closure) : Prop :=
  ∀ path records, closure.evidence.lookup path = some records → path ∈ closure.paths ∧
    ∀ record ∈ records, ∃ file ∈ files, ∃ imported, repository.present file.1 = true ∧
      repository.target (repository.source file.1) imported = some path ∧
      record = evidenceRecord file.2 file.1 path imported

theorem recorded_follow {files : List (String × Finding)} {file : String × Finding} (listed : file ∈ files)
    (here : repository.present file.1 = true) {closure : Closure}
    (recorded : Recorded repository files closure) (imported : Import) :
    Recorded repository files (closure.follow repository file.2 file.1 imported) := by
  unfold Closure.follow
  cases reached : repository.target (repository.source file.1) imported with
  | none => exact recorded
  | some target =>
    by_cases known : target ∈ closure.paths
    · simp only [if_pos known]
      exact recorded
    · simp only [if_neg known]
      intro path records found
      by_cases same : path = target
      · subst same
        rw [appendRecord, AList.lookup_insert, Option.some.injEq] at found
        subst found
        refine ⟨List.mem_cons_self, fun record member => ?_⟩
        rcases List.mem_append.mp member with held | added
        · cases earlier : closure.evidence.lookup path with
          | none =>
            rw [earlier] at held
            cases held
          | some records => exact absurd (recorded path records earlier).1 known
        · exact ⟨file, listed, imported, here, reached, List.mem_singleton.mp added⟩
      · rw [appendRecord, AList.lookup_insert_ne same] at found
        exact ⟨List.mem_cons_of_mem _ (recorded path records found).1, (recorded path records found).2⟩

theorem recorded_imports {files : List (String × Finding)} {file : String × Finding} (listed : file ∈ files)
    (here : repository.present file.1 = true) (imports : List Import) {closure : Closure}
    (recorded : Recorded repository files closure) :
    Recorded repository files (imports.foldl (Closure.follow repository file.2 file.1) closure) := by
  induction imports generalizing closure with
  | nil => exact recorded
  | cons imported rest ih => exact ih (recorded_follow listed here recorded imported)

theorem recorded_visits {files visited : List (String × Finding)} (part : ∀ file ∈ visited, file ∈ files)
    {closure final : Closure} (recorded : Recorded repository files closure)
    (reached : visited.foldlM (Closure.visit repository) closure = some final) :
    Recorded repository files final := by
  induction visited generalizing closure with
  | nil =>
    cases reached
    exact recorded
  | cons file rest ih =>
    rw [List.foldlM_cons, Closure.visit] at reached
    by_cases here : repository.present file.1 = true
    · rw [if_pos here, Option.bind_eq_bind, Option.bind_some] at reached
      exact ih (fun other later => part other (List.mem_cons_of_mem _ later))
        (recorded_imports (part file List.mem_cons_self) here _ recorded) reached
    · rw [if_neg here] at reached
      cases reached

theorem mem_issuePaths {findings : List Finding} {path : String} :
    path ∈ issuePaths findings ↔ ∃ finding ∈ findings, finding.relative = path := by
  rw [issuePaths, mem_sorted_closure, List.mem_map]

theorem mem_issueFiles {findings : List Finding} {path : String} :
    (∃ file ∈ issueFiles findings, file.1 = path) ↔ path ∈ issuePaths findings := by
  unfold issueFiles
  constructor
  · rintro ⟨file, member, rfl⟩
    obtain ⟨relative, listed, here⟩ := List.mem_filterMap.mp member
    obtain ⟨last, -, rfl⟩ := Option.map_eq_some_iff.mp here
    exact listed
  · intro listed
    obtain ⟨finding, member, same⟩ := mem_issuePaths.mp listed
    cases found : findings.reverse.find? fun finding => finding.relative = path with
    | none =>
      have other := List.find?_eq_none.mp found finding (List.mem_reverse.mpr member)
      exact absurd (decide_eq_true same) other
    | some last =>
      refine ⟨(path, last), List.mem_filterMap.mpr ⟨path, listed, ?_⟩, rfl⟩
      rw [found]
      rfl

def AllPresent (repository : Repository) (findings : List Finding) : Prop :=
  ∀ finding ∈ findings, repository.present finding.relative = true

theorem allPresent_iff {findings : List Finding} :
    (issueFiles findings).all (fun file => repository.present file.1) = true ↔
      AllPresent repository findings := by
  rw [List.all_eq_true]
  constructor
  · intro all finding member
    obtain ⟨file, listed, same⟩ := mem_issueFiles.mpr (mem_issuePaths.mpr ⟨finding, member, rfl⟩)
    exact same ▸ all file listed
  · intro all file listed
    obtain ⟨finding, member, same⟩ := mem_issuePaths.mp (mem_issueFiles.mp ⟨file, listed, rfl⟩)
    exact same ▸ all finding member

/-- **The paths that the resolution finds.** -/
theorem foundClosure_paths {findings : List Finding} {path : String} :
    path ∈ (foundClosure repository findings).paths ↔
      AllPresent repository findings ∧ ∃ finding ∈ findings,
        path = finding.relative ∨ path ∈ repository.targets finding.relative := by
  have visited := @Closure.visit_files repository (issueFiles findings)
    { paths := issuePaths findings, evidence := ∅ } (issuePaths findings) fun _ => Iff.rfl
  unfold foundClosure resolveDependencyDetails
  rw [← allPresent_iff]
  split at visited
  · rename_i missing
    rw [missing, Option.getD_none, visited]
    exact iff_of_false List.not_mem_nil (by rintro ⟨⟨⟩, -⟩)
  · rename_i final reached
    rw [reached, Option.getD_some, visit_paths reached, mem_issuePaths]
    constructor
    · rintro (⟨finding, member, rfl⟩ | ⟨file, listed, imported⟩)
      · exact ⟨visited.1, finding, member, .inl rfl⟩
      · obtain ⟨finding, member, same⟩ := mem_issuePaths.mp (mem_issueFiles.mp ⟨file, listed, rfl⟩)
        exact ⟨visited.1, finding, member, .inr (same ▸ imported)⟩
    · rintro ⟨-, finding, member, rfl | imported⟩
      · exact .inl ⟨finding, member, rfl⟩
      · obtain ⟨file, listed, same⟩ := mem_issueFiles.mpr (mem_issuePaths.mpr ⟨finding, member, rfl⟩)
        exact .inr ⟨file, listed, same ▸ imported⟩

/-- **The records that the resolution finds.** -/
theorem foundClosure_recorded (repository : Repository) (findings : List Finding) :
    Recorded repository (issueFiles findings) (foundClosure repository findings) := by
  unfold foundClosure resolveDependencyDetails
  cases reached : (issueFiles findings).foldlM (Closure.visit repository)
      { paths := issuePaths findings, evidence := ∅ } with
  | none =>
    intro path records found
    rw [Option.getD_none, AList.lookup_empty] at found
    cases found
  | some final =>
    refine recorded_visits (fun _ => id) (fun path records found => ?_) reached
    rw [AList.lookup_empty] at found
    cases found

/-! ### Resolved paths -/

/-- A repository on a host: its base is a resolved path, and no part of a resolved path is empty. -/
structure HostRepository extends Repository where
  base_resolved : resolve base = base
  parts_resolved : ∀ path, ∀ part ∈ resolve path, part ≠ ""

variable (host : HostRepository)

theorem HostRepository.file_ne {relative : String} (here : host.present relative = true) :
    relative ≠ "" := by
  rintro rfl
  have base : host.source "" = host.base := by
    rw [Repository.source, Path.joined]
    show host.resolve (host.base ++ pathParts "") = host.base
    have none : pathParts "" = [] := by decide
    rw [none, List.append_nil, host.base_resolved]
  rw [Repository.present, base, Path.isBelow] at here
  simp at here

theorem HostRepository.target_ne {source : Path} {imported : Import} {target : String}
    (reached : host.target source imported = some target) : target ≠ "" := by
  obtain ⟨candidate, found, rfl⟩ := Option.map_eq_some_iff.mp reached
  have held := List.find?_some found
  rw [Repository.holds, Bool.and_eq_true, Path.isBelow, Bool.and_eq_true, decide_eq_true_eq] at held
  intro empty
  cases rest : (host.resolve candidate).drop host.base.length with
  | nil =>
    have short := List.drop_eq_nil_iff.mp rest
    omega
  | cons part others =>
    have named : part ≠ "" := host.parts_resolved candidate part
      (List.mem_of_mem_drop (rest ▸ List.mem_cons_self))
    have text : (Path.relativeTo (host.resolve candidate) host.base).toList =
        List.intercalate ['/'] ((part :: others).map String.toList) := by
      rw [Path.relativeTo, rest, String.toList_intercalate]
      rfl
    rw [empty] at text
    cases others with
    | nil =>
      refine named (String.toList_inj.mp ?_)
      simpa using text.symm
    | cons next more =>
      simp at text

/-! ### When a record is complete -/

theorem isEvidenceRecord_evidenceRecord {finding : Finding} {relative target : String}
    {imported : Import} :
    isEvidenceRecord (evidenceRecord finding relative target imported) = true ↔
      finding.id ≠ "" ∧ relative ≠ "" ∧ target ≠ "" := by
  have written : "python import '" ++ imported.module ++ "' at " ++ relative ++ ":" ++
      String.ofList (decimal imported.line) ≠ "" := by
    simp [String.append_eq_empty_iff]
  have reason : "direct local import required to understand or validate affected file" ≠ "" := by
    decide
  simp [isEvidenceRecord, evidenceRecord, evidenceKeys]

theorem originates_nameless {record : Dict} (complete : isEvidenceRecord record = true) :
    originates "" record = false := by
  rw [isEvidenceRecord, Bool.and_eq_true] at complete
  have named := List.all_eq_true.mp complete.2 "originating_finding_id" List.mem_cons_self
  rw [originates, decide_eq_false_iff_not]
  intro empty
  rw [empty] at named
  exact absurd named (by decide)

/-! ### The checks of a manifest -/

/-- **What `validate` lets through.** -/
theorem validate_eq_ok {manifest : FixScopedManifest} :
    manifest.validate = .ok () ↔
      (manifest.inputHash ≠ "" ∧ manifest.files.Nodup) ∧
      (∀ file ∈ manifest.files, file ∈ manifest.dependencyClosure) ∧
      (manifest.fileHashes.keys = [] ∨
        sameSet manifest.fileHashes.keys manifest.dependencyClosure = true) ∧
      (∀ entry ∈ manifest.fileHashes.entries, isHexDigest entry.2 = true) ∧
      (∀ path ∈ manifest.dependencyEvidence.keys, path ∈ manifest.dependencyClosure) ∧
      ∀ entry ∈ manifest.dependencyEvidence.entries, entry.2.all isEvidenceRecord = true := by
  unfold FixScopedManifest.validate
  by_cases named : manifest.inputHash = "" ∨ ¬ manifest.files.Nodup
  · rw [if_pos named]
    refine iff_of_false (by rintro ⟨⟩) ?_
    rintro ⟨⟨stated, distinct⟩, -⟩
    exact named.elim stated fun twice => twice distinct
  rw [if_neg named]
  by_cases inside : (manifest.files.all fun file => file ∈ manifest.dependencyClosure) = true
  swap
  · rw [if_pos inside]
    refine iff_of_false (by rintro ⟨⟩) ?_
    rintro ⟨-, contained, -⟩
    exact inside (List.all_eq_true.mpr fun file member => decide_eq_true (contained file member))
  rw [if_neg (not_not.mpr inside)]
  by_cases hashed : manifest.fileHashes.keys ≠ [] ∧
      ¬ sameSet manifest.fileHashes.keys manifest.dependencyClosure = true
  · rw [if_pos hashed]
    refine iff_of_false (by rintro ⟨⟩) ?_
    rintro ⟨-, -, same, -⟩
    exact same.elim hashed.1 hashed.2
  rw [if_neg hashed]
  by_cases hex : (manifest.fileHashes.entries.all fun entry => isHexDigest entry.2) = true
  swap
  · rw [if_pos hex]
    refine iff_of_false (by rintro ⟨⟩) ?_
    rintro ⟨-, -, -, digests, -⟩
    exact hex (List.all_eq_true.mpr digests)
  rw [if_neg (not_not.mpr hex)]
  by_cases scope :
    (manifest.dependencyEvidence.keys.all fun path => path ∈ manifest.dependencyClosure) = true
  swap
  · rw [if_pos scope]
    refine iff_of_false (by rintro ⟨⟩) ?_
    rintro ⟨-, -, -, -, contained, -⟩
    exact scope (List.all_eq_true.mpr fun path member => decide_eq_true (contained path member))
  rw [if_neg (not_not.mpr scope)]
  have first : manifest.inputHash ≠ "" ∧ manifest.files.Nodup := by
    rw [not_or, not_not] at named
    exact named
  have second : ∀ file ∈ manifest.files, file ∈ manifest.dependencyClosure := fun file member =>
    of_decide_eq_true (List.all_eq_true.mp inside file member)
  have third : manifest.fileHashes.keys = [] ∨
      sameSet manifest.fileHashes.keys manifest.dependencyClosure = true := by
    by_cases none : manifest.fileHashes.keys = []
    · exact .inl none
    · exact .inr (not_not.mp fun other => hashed ⟨none, other⟩)
  have fourth := List.all_eq_true.mp hex
  have fifth : ∀ path ∈ manifest.dependencyEvidence.keys, path ∈ manifest.dependencyClosure :=
    fun path member => of_decide_eq_true (List.all_eq_true.mp scope path member)
  split
  · rename_i entry found
    refine iff_of_false (by rintro ⟨⟩) ?_
    rintro ⟨-, -, -, -, -, complete⟩
    have broken := List.find?_some found
    rw [complete entry (List.mem_of_find?_eq_some found)] at broken
    cases broken
  · rename_i found
    refine iff_of_true rfl ⟨first, second, third, fourth, fifth, fun entry member => ?_⟩
    simpa using List.find?_eq_none.mp found entry member

/-! ### What is kept -/

/-- **What the enrichment is to preserve.** -/
structure Preserves (repr : PythonRepr) (repository : Repository) (operation : AcceptedFixOperation) :
    Prop where
  valid : (enrichedManifest repository operation).validate = .ok ()
  files : (enrichedManifest repository operation).files = operation.manifest.files
  inputHash : (enrichedManifest repository operation).inputHash = operation.manifest.inputHash
  closure : ∀ path ∈ operation.manifest.dependencyClosure,
    path ∈ (enrichedManifest repository operation).dependencyClosure
  hashes : ∀ path hash, operation.manifest.fileHashes.lookup path = some hash →
    (enrichedManifest repository operation).fileHashes.lookup path = some hash
  evidence : ∀ path records, operation.manifest.dependencyEvidence.lookup path = some records →
    ∃ added, (enrichedManifest repository operation).dependencyEvidence.lookup path =
      some (records ++ added)
  distinct : ∀ path records,
    (enrichedManifest repository operation).dependencyEvidence.lookup path = some records →
      ∃ added, records = (operation.manifest.dependencyEvidence.lookup path).getD [] ++ added ∧
        (added.map recordKey).Nodup ∧
        ∀ record ∈ added, ∀ held ∈ (operation.manifest.dependencyEvidence.lookup path).getD [],
          recordKey held ≠ recordKey record
  settled : (prepareDependencyEvidence repr repository
      (prepareDependencyEvidence repr repository operation).1).1 =
    (prepareDependencyEvidence repr repository operation).1

/-- Nothing is added to a closure with hashes, and no finding without an id is credited. -/
def EnrichesSafely (repository : Repository) (operation : AcceptedFixOperation) : Prop :=
  AllPresent repository operation.findings →
    (operation.manifest.fileHashes.keys ≠ [] → ∀ finding ∈ operation.findings,
      finding.relative ∈ operation.manifest.dependencyClosure ∧
        ∀ target ∈ repository.targets finding.relative, target ∈ operation.manifest.dependencyClosure) ∧
    firstReaches repository "" (issuePaths operation.findings) (issueFiles operation.findings) = false

theorem mem_enriched_closure {operation : AcceptedFixOperation} {path : String} :
    path ∈ (enrichedManifest repository operation).dependencyClosure ↔
      path ∈ operation.manifest.dependencyClosure ∨
        path ∈ (foundClosure repository operation.findings).paths := by
  show path ∈ (List.dedup _).insertionSort _ ↔ _
  rw [mem_sorted_closure, List.mem_append]
  rfl

theorem lookup_enriched_evidence (operation : AcceptedFixOperation) (path : String) :
    (enrichedManifest repository operation).dependencyEvidence.lookup path =
      ((foundClosure repository operation.findings).evidence.lookup path).elim
        (operation.manifest.dependencyEvidence.lookup path) fun records =>
          some (mergeRecords ((operation.manifest.dependencyEvidence.lookup path).getD []) records) :=
  lookup_mergeEvidence _ _ path

theorem enriched_hashes {operation : AcceptedFixOperation}
    (matched : operation.manifest.fileHashes.keys = [] ∨
      sameSet operation.manifest.fileHashes.keys operation.manifest.dependencyClosure = true) :
    (operation.manifest.fileHashes.keys = [] ∨ sameSet operation.manifest.fileHashes.keys
        (enrichedManifest repository operation).dependencyClosure = true) ↔
      (operation.manifest.fileHashes.keys ≠ [] →
        ∀ path ∈ (foundClosure repository operation.findings).paths,
          path ∈ operation.manifest.dependencyClosure) := by
  by_cases none : operation.manifest.fileHashes.keys = []
  · exact iff_of_true (.inl none) fun some => absurd none some
  · have same := matched.resolve_left none
    simp only [sameSet, Bool.and_eq_true, List.all_eq_true, decide_eq_true_eq] at same ⊢
    constructor
    · rintro (none' | ⟨-, covered⟩) - path found
      · exact absurd none' none
      · exact same.1 path (covered path (mem_enriched_closure.mpr (.inr found)))
    · intro contained
      refine .inr ⟨fun path member => mem_enriched_closure.mpr (.inl (same.1 path member)), ?_⟩
      intro path member
      rcases mem_enriched_closure.mp member with held | found
      · exact same.2 path held
      · exact same.2 path (contained none path found)

/-- **The merged records are complete** exactly if no finding without an id is credited. -/
theorem enriched_complete {operation : AcceptedFixOperation}
    (complete : ∀ entry ∈ operation.manifest.dependencyEvidence.entries,
      entry.2.all isEvidenceRecord = true) :
    (∀ entry ∈ (enrichedManifest host.toRepository operation).dependencyEvidence.entries,
        entry.2.all isEvidenceRecord = true) ↔
      ¬ HasOrigin (foundClosure host.toRepository operation.findings).evidence "" := by
  constructor
  · intro all nameless
    obtain ⟨path, records, found, named⟩ := hasOrigin_mergeEvidence.mpr
      (.inr nameless : HasOrigin operation.manifest.dependencyEvidence "" ∨ _)
    obtain ⟨record, member, origin⟩ := List.any_eq_true.mp named
    have stated := List.all_eq_true.mp (all ⟨path, records⟩ (AList.mem_lookup_iff.mp found)) record member
    rw [originates_nameless stated] at origin
    cases origin
  · rintro named ⟨path, records⟩ member
    have found := AList.mem_lookup_iff.mpr member
    rw [Option.mem_def, lookup_enriched_evidence] at found
    have old : ∀ record ∈ (operation.manifest.dependencyEvidence.lookup path).getD [],
        isEvidenceRecord record = true := by
      intro record listed
      cases held : operation.manifest.dependencyEvidence.lookup path with
      | none =>
        rw [held] at listed
        cases listed
      | some supplied =>
        rw [held] at listed
        exact List.all_eq_true.mp (complete ⟨path, supplied⟩ (AList.mem_lookup_iff.mp held)) record listed
    refine List.all_eq_true.mpr fun record listed => ?_
    cases new : (foundClosure host.toRepository operation.findings).evidence.lookup path with
    | none =>
      rw [new, Option.elim_none] at found
      rw [found] at old
      exact old record listed
    | some resolved =>
      rw [new, Option.elim_some, Option.some.injEq] at found
      obtain ⟨added, merged, from_new, -⟩ := mergeRecords_split
        ((operation.manifest.dependencyEvidence.lookup path).getD []) resolved
      rw [← found, merged] at listed
      rcases List.mem_append.mp listed with held | later
      · exact old record held
      · obtain ⟨file, -, imported, here, reached, rfl⟩ :=
          (foundClosure_recorded host.toRepository operation.findings path resolved new).2 record
            (from_new record later)
        refine isEvidenceRecord_evidenceRecord.mpr ⟨?_, host.file_ne here, host.target_ne reached⟩
        intro nameless
        refine named ⟨path, resolved, new, List.any_eq_true.mpr ⟨_, from_new _ later, ?_⟩⟩
        exact (originates_evidenceRecord _ _ _ _ _).mpr nameless

/-- **When the enriched manifest is still valid.** -/
theorem enriched_valid_iff {operation : AcceptedFixOperation}
    (valid : operation.manifest.validate = .ok ()) :
    (enrichedManifest host.toRepository operation).validate = .ok () ↔
      EnrichesSafely host.toRepository operation := by
  obtain ⟨named, inside, matched, digests, scope, complete⟩ := validate_eq_ok.mp valid
  have origin := resolveDependencyDetails_origin host.toRepository operation.findings ""
  rw [allPresent_iff] at origin
  have contained : (∀ path ∈ (foundClosure host.toRepository operation.findings).paths,
      path ∈ operation.manifest.dependencyClosure) ↔ (AllPresent host.toRepository operation.findings →
        ∀ finding ∈ operation.findings, finding.relative ∈ operation.manifest.dependencyClosure ∧
          ∀ target ∈ host.targets finding.relative, target ∈ operation.manifest.dependencyClosure) := by
    simp only [foundClosure_paths]
    constructor
    · intro each all finding member
      exact ⟨each _ ⟨all, finding, member, .inl rfl⟩, fun target imported =>
        each _ ⟨all, finding, member, .inr imported⟩⟩
    · rintro each path ⟨all, finding, member, rfl | imported⟩
      · exact (each all finding member).1
      · exact (each all finding member).2 path imported
  have kept : (enrichedManifest host.toRepository operation).validate = .ok () ↔
      (operation.manifest.fileHashes.keys ≠ [] →
        ∀ path ∈ (foundClosure host.toRepository operation.findings).paths,
          path ∈ operation.manifest.dependencyClosure) ∧
        ¬ HasOrigin (foundClosure host.toRepository operation.findings).evidence "" := by
    rw [validate_eq_ok, ← enriched_hashes matched, ← enriched_complete host complete]
    constructor
    · rintro ⟨-, -, hashes, -, -, records⟩
      exact ⟨hashes, records⟩
    · rintro ⟨hashes, records⟩
      refine ⟨named, fun file member => mem_enriched_closure.mpr (.inl (inside file member)), hashes,
        digests, fun path member => ?_, records⟩
      obtain ⟨held, found⟩ := Option.isSome_iff_exists.mp (AList.lookup_isSome.mpr member)
      rw [lookup_enriched_evidence] at found
      cases new : (foundClosure host.toRepository operation.findings).evidence.lookup path with
      | none =>
        rw [new, Option.elim_none] at found
        exact mem_enriched_closure.mpr (.inl (scope path (AList.lookup_isSome.mp (found ▸ rfl))))
      | some resolved =>
        exact mem_enriched_closure.mpr (.inr
          (foundClosure_recorded host.toRepository operation.findings path resolved new).1)
  rw [kept, contained, EnrichesSafely]
  unfold foundClosure
  rw [origin]
  constructor
  · rintro ⟨closure, unnamed⟩ all
    exact ⟨fun hashed => closure hashed all, Bool.eq_false_iff.mpr fun first => unnamed ⟨all, first⟩⟩
  · intro safe
    refine ⟨fun hashed all => (safe all).1 hashed, ?_⟩
    rintro ⟨all, first⟩
    rw [(safe all).2] at first
    cases first

/-- **When the enrichment preserves a valid manifest**: exactly if it adds nothing to a closure that has
hashes, and credits no finding without an id. -/
theorem preserves_iff (repr : PythonRepr) {operation : AcceptedFixOperation}
    (valid : operation.manifest.validate = .ok ()) :
    Preserves repr host.toRepository operation ↔ EnrichesSafely host.toRepository operation := by
  rw [← enriched_valid_iff host valid]
  refine ⟨Preserves.valid, fun still => ⟨still, rfl, rfl, ?_, fun _ _ => id, ?_, ?_, ?_⟩⟩
  · exact fun path member => mem_enriched_closure.mpr (.inl member)
  · intro path records held
    rw [lookup_enriched_evidence, held]
    cases (foundClosure host.toRepository operation.findings).evidence.lookup path with
    | none => exact ⟨[], by rw [List.append_nil]; rfl⟩
    | some resolved =>
      obtain ⟨added, merged, -⟩ := mergeRecords_split records resolved
      exact ⟨added, congrArg some merged⟩
  · intro path records found
    rw [lookup_enriched_evidence] at found
    cases new : (foundClosure host.toRepository operation.findings).evidence.lookup path with
    | none =>
      rw [new, Option.elim_none] at found
      refine ⟨[], by rw [found, Option.getD_some, List.append_nil], List.nodup_nil, ?_⟩
      exact fun _ none => absurd none List.not_mem_nil
    | some resolved =>
      rw [new, Option.elim_some, Option.some.injEq] at found
      obtain ⟨added, merged, -, distinct, apart⟩ := mergeRecords_split
        ((operation.manifest.dependencyEvidence.lookup path).getD []) resolved
      exact ⟨added, found.symm.trans merged, distinct, apart⟩
  · exact congrArg Prod.fst (prepare_idem repr host.toRepository operation)

/-! ### A closure that grows -/

def withoutEmpty (path : Path) : Path := path.filter fun part => part ≠ ""

theorem withoutEmpty_parts (path : Path) : ∀ part ∈ withoutEmpty path, part ≠ "" := by
  intro part member
  exact of_decide_eq_true (List.mem_filter.mp member).2

/-- The repository in which `src/app.py` imports `helper`, on a host. -/
def importingHost : HostRepository where
  base := ["repo"]
  resolve := withoutEmpty
  isFile path := path ∈ [["repo", "src", "app.py"], ["repo", "src", "helper.py"]]
  statements path := if path = ["repo", "src", "app.py"] then some [.plain ["helper"] 1] else some []
  base_resolved := Eq.refl ["repo"]
  parts_resolved := withoutEmpty_parts

def importFinding : Finding where
  id := "scan-1"
  type := "dependency.unresolved"
  file := "src/app.py"
  severity := "high"
  evidence := .obj [("module", .str "helper")]

/-- A manifest with a closure of the affected file alone; `hashes` are those of the closure. -/
def importFix (hashes : Table String) : AcceptedFixOperation where
  operationId := "fix-1"
  findings := [importFinding]
  manifest := {
    files := ["src/app.py"]
    dependencyClosure := ["src/app.py"]
    inputHash := "input"
    fileHashes := hashes
    dependencyEvidence := ∅ }
  statements := Vector.replicate 3 {
    type := "intent", content := [], findingsRefHash := "findings", manifestRefHash := "manifest" }
  plan := { steps := [], targetFiles := [], isQualified := true, minorIssues := [] }
  workspaceIdentity := [("root", .str "/repo")]
  authorityContext := []
  aflowAnalysisRequest := none
  authorityDecisions := none
  aflowAnalysisRequestPresent := false

def appHashes : Table String := AList.singleton "src/app.py" (String.ofList (List.replicate 64 'a'))

/-- Without hashes the imported file joins the closure, and the manifest stays valid. -/
theorem preserves_unhashed : Preserves plainRepr importingHost.toRepository (importFix ∅) := by
  refine (preserves_iff importingHost plainRepr (by decide +kernel)).mpr fun _ => ⟨fun hashed => ?_, ?_⟩
  · exact absurd rfl hashed
  · decide +kernel

/-- **The closure gains `src/helper.py`, and the hashes do not**: the valid manifest is refused
afterwards. -/
theorem grown_closure_refused :
    (importFix appHashes).manifest.validate = .ok () ∧
      (enrichedManifest importingHost.toRepository (importFix appHashes)).dependencyClosure =
        ["src/app.py", "src/helper.py"] ∧
      (enrichedManifest importingHost.toRepository (importFix appHashes)).validate =
        .error "scoped file hashes must match dependency closure" ∧
      ¬ Preserves plainRepr importingHost.toRepository (importFix appHashes) := by
  have refused : (enrichedManifest importingHost.toRepository (importFix appHashes)).validate =
      .error "scoped file hashes must match dependency closure" := by
    decide +kernel
  refine ⟨by decide +kernel, by decide +kernel, refused, fun preserves => ?_⟩
  have valid := preserves.valid
  rw [refused] at valid
  cases valid

end Audisor.Fix
