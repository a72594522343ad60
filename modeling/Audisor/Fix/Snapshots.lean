/-
**The snapshot of the files that a fix may read.**

* `SnapshotHost` — the files of the repository, and what keeps the host from copying one.
* `landing` — where a copy goes: the place of `storage / relative`, which need not be below the storage.
* `createScopedSnapshot` — reads and hashes the files, then copies them, then writes the manifest.
* `Faithful` — every path is stored with the content that was hashed, with the manifest and nothing else.
* `copyAll_eq` — what the copies leave in the storage.
* **`snapshot_faithful_iff`** — a snapshot is faithful exactly if every path stays below the storage,
  paths at one place have one hash, none takes the place of the manifest, and the evidence is complete.
  What a failed call leaves behind.
* `climbing_unfaithful` — a path that leaves the repository and comes back is copied beside the storage.
-/

import Audisor.Fix.EnrichedManifests
import Audisor.Interaction.Checked
import Audisor.Lists.Sorting
import Audisor.Text.Sha256

namespace Audisor.Fix

open Checked Json Lists Text

/-! ### The host -/

/-- What a call raises. Only the first two are an `Exception`. -/
inductive Raised where
  | valueError (message : String)
  | osError (message : String)
  | interrupt
  deriving DecidableEq

/-- `except Exception`. -/
def Raised.isException : Raised → Bool
  | .interrupt => false
  | _ => true

/-- What is at a resolved path. -/
inductive FileRead where
  | missing
  | unreadable (message : String)
  | bytes (content : ByteArray)

/-- The repository and the output below their resolved roots, and what goes wrong on the host: anything
can, between any two steps. `reentry` is where a path leads that climbs above the storage, when a link
brings it back there; `removes` is whether `shutil.rmtree(.., ignore_errors=True)` removes all. -/
structure SnapshotHost where
  base : Path
  output : Path
  resolve : Path → Path
  file : Path → FileRead
  isThere : Path → Bool
  mkdirFails : Path → Option Raised
  copyFails : String → Option Raised
  manifestFails : Option Raised
  removes : Bool
  reentry : String → Option Path

/-! ### The files -/

/-- `item.replace("\\", "/")`. -/
def forwardSlashes (item : String) : String :=
  String.ofList (item.toList.map fun c => if c = '\\' then '/' else c)

/-- `(root / relative).resolve()`, `is_file` and `read_bytes` of it. -/
def SnapshotHost.source (host : SnapshotHost) (relative : String) : Except Raised ByteArray :=
  let source := host.resolve (Path.joined host.base relative)
  if host.base.isPrefixOf source = false then
    .error (.valueError ("snapshot_file_unavailable:" ++ relative))
  else
    match host.file source with
    | .missing => .error (.valueError ("snapshot_file_unavailable:" ++ relative))
    | .unreadable message => .error (.osError message)
    | .bytes content => .ok content

def SnapshotHost.read (host : SnapshotHost) (relative : String) :
    Except Raised (String × ByteArray) := do
  let content ← host.source relative
  return (relative, content)

def tableOf {α : Type} (items : List (String × α)) : Table α :=
  (items.map fun item => (⟨item.1, item.2⟩ : Sigma fun _ : String => α)).toAList

/-! ### The record -/

structure ScopedSnapshot where
  root : String
  files : List String
  dependencyClosure : List String
  fileHashes : Table String
  snapshotHash : String
  storagePath : String
  dependencyEvidence : Table (List Dict)

def ScopedSnapshot.toManifest (snapshot : ScopedSnapshot) : FixScopedManifest where
  files := snapshot.files
  dependencyClosure := snapshot.dependencyClosure
  inputHash := snapshot.snapshotHash
  fileHashes := snapshot.fileHashes
  dependencyEvidence := snapshot.dependencyEvidence

/-- `snapshot.manifest()`. -/
def ScopedSnapshot.manifest (snapshot : ScopedSnapshot) : Except String FixScopedManifest := do
  snapshot.toManifest.validate
  return snapshot.toManifest

/-- `_canonical(value)`. -/
def canonicalBytes (value : Json) : ByteArray :=
  encode ((sortKeys value).dumps { ensureAscii := false, compact := true }).toList

/-- `snapshot_payload`. -/
def snapshotPayload (files closure : List String) (hashes : Table String)
    (evidence : Table (List Dict)) : Dict :=
  [("files", textsJson files), ("dependency_closure", textsJson closure),
    ("file_hashes", tableJson .str hashes),
    ("dependency_evidence", tableJson (fun records => .arr (records.map .obj)) evidence)]

/-- `{**snapshot_payload, "snapshot_hash": snapshot_hash}` of a snapshot. -/
def ScopedSnapshot.payload (snapshot : ScopedSnapshot) : Dict :=
  snapshotPayload snapshot.files snapshot.dependencyClosure snapshot.fileHashes
    snapshot.dependencyEvidence ++ [("snapshot_hash", .str snapshot.snapshotHash)]

/-- The bytes of `snapshot-manifest.json`. -/
def ScopedSnapshot.manifestBytes (snapshot : ScopedSnapshot) : ByteArray :=
  canonicalBytes (.obj snapshot.payload) ++ encode ['\n']

/-! ### The storage -/

/-- The files below the storage, the last written first. -/
abbrev Storage := List (Path × ByteArray)

def manifestPlace : Path := ["snapshot-manifest.json"]

/-- Where some parts lead below a directory without links, unless they climb above it. -/
def walk (place : Path) : Path → Option Path
  | [] => some place
  | part :: rest =>
    if part = ".." then if place.isEmpty then none else walk place.dropLast rest
    else walk (place ++ [part]) rest

/-- The place of `storage / relative` below the storage. -/
def SnapshotHost.landing (host : SnapshotHost) (relative : String) : Option Path :=
  (walk [] (pathParts relative)).or (host.reentry relative)

/-- What `shutil.copyfile(root / relative, storage / relative)` raises. An absolute path is its own
destination. -/
def SnapshotHost.copyRaises (host : SnapshotHost) (relative : String) : Option Raised :=
  if isAbsolute relative then some (.osError (relative ++ " are the same file"))
  else host.copyFails relative

def copyAll (host : SnapshotHost) : List (String × ByteArray) → Storage → Storage × Option Raised
  | [], storage => (storage, none)
  | (relative, content) :: rest, storage =>
    match host.copyRaises relative with
    | some raised => (storage, some raised)
    | none =>
      match host.landing relative with
      | some place => copyAll host rest ((place, content) :: storage)
      | none => copyAll host rest storage

def fillStorage (host : SnapshotHost) (sources : List (String × ByteArray)) (manifest : ByteArray) :
    Storage × Option Raised :=
  match copyAll host sources [] with
  | (storage, some raised) => (storage, some raised)
  | (storage, none) =>
    match host.manifestFails with
    | some raised => (storage, some raised)
    | none => ((manifestPlace, manifest) :: storage, none)

/-! ### The call -/

/-- How a call ends, with the directory under its hash that it made and left. -/
structure SnapshotRun where
  result : Except Raised ScopedSnapshot
  left : Option Storage

def closurePaths (dependencyClosure : List String) : List String :=
  sortedSet (dependencyClosure.map forwardSlashes)

/-- The checks and the hashes: the snapshot, with the files that are to be copied. -/
def prepareSnapshot (digest : ByteDigest) (host : SnapshotHost) (findings : List Finding)
    (dependencyClosure : List String) (dependencyEvidence : Table (List Dict)) :
    Except Raised (ScopedSnapshot × List (String × ByteArray)) := do
  let files := issuePaths findings
  let closure := closurePaths dependencyClosure
  refuse (files = []) (.valueError "issue_snapshot_requires_findings")
  refuse ((files.all fun file => closure.contains file) = false)
    (.valueError "issue_files_must_be_in_dependency_closure")
  let sources ← closure.mapM host.read
  let fileHashes := tableOf (sources.map fun source => (source.1, digest.hexdigest source.2))
  let evidence := sortedTable dependencyEvidence
  let snapshotHash := digest.hexdigest
    (canonicalBytes (.obj (snapshotPayload files closure fileHashes evidence)))
  return ({
    root := Path.text host.base
    files
    dependencyClosure := closure
    fileHashes
    snapshotHash
    storagePath := Path.text (host.output ++ [snapshotHash])
    dependencyEvidence := evidence }, sources)

/-- `storage.mkdir(parents=True, exist_ok=False)`. -/
def SnapshotHost.mkdirRaises (host : SnapshotHost) (storage : Path) : Option Raised :=
  if host.isThere storage then some (.osError "File exists") else host.mkdirFails storage

/-- `create_scoped_snapshot(..)`. -/
def createScopedSnapshot (digest : ByteDigest) (host : SnapshotHost) (findings : List Finding)
    (dependencyClosure : List String) (dependencyEvidence : Table (List Dict)) : SnapshotRun :=
  match prepareSnapshot digest host findings dependencyClosure dependencyEvidence with
  | .error raised => ⟨.error raised, none⟩
  | .ok (snapshot, sources) =>
    match host.mkdirRaises (host.output ++ [snapshot.snapshotHash]) with
    | some raised => ⟨.error raised, none⟩
    | none =>
      match fillStorage host sources snapshot.manifestBytes with
      | (storage, none) => ⟨.ok snapshot, some storage⟩
      | (storage, some raised) =>
        -- only an `Exception` is caught for the removal
        ⟨.error raised, if raised.isException && host.removes then none else some storage⟩

/-! ### Faithful snapshots -/

def Storage.read (storage : Storage) (place : Path) : Option ByteArray :=
  (storage.find? fun entry => entry.1 = place).map Prod.snd

/-- **A snapshot that holds what it states**: every path below the storage with the content that was
hashed, the manifest, and nothing else; and a manifest that validates. -/
structure Faithful (digest : ByteDigest) (host : SnapshotHost) (snapshot : ScopedSnapshot)
    (storage : Storage) : Prop where
  stored : ∀ path ∈ snapshot.dependencyClosure, ∃ place content hash,
    host.landing path = some place ∧ storage.read place = some content ∧
      snapshot.fileHashes.lookup path = some hash ∧ digest.hexdigest content = hash
  manifest : storage.read manifestPlace = some snapshot.manifestBytes
  nothingElse : ∀ place, (storage.read place).isSome = true →
    place = manifestPlace ∨ ∃ path ∈ snapshot.dependencyClosure, host.landing path = some place
  validated : ∃ manifest, snapshot.manifest = .ok manifest

/-- Paths that can be copied: each has its place below the storage, which it shares at most with files of
its own hash, the manifest among them. -/
structure Placed (digest : ByteDigest) (host : SnapshotHost) (closure : List String)
    (manifest : ByteArray) : Prop where
  within : ∀ path ∈ closure, ∃ place, host.landing path = some place
  apart : ∀ first ∈ closure, ∀ second ∈ closure, host.landing first = host.landing second →
    ∀ content content', host.source first = .ok content → host.source second = .ok content' →
      digest.hexdigest content = digest.hexdigest content'
  own : ∀ path ∈ closure, host.landing path = some manifestPlace →
    ∀ content, host.source path = .ok content → digest.hexdigest content = digest.hexdigest manifest

def EvidenceComplete (closure : List String) (evidence : Table (List Dict)) : Prop :=
  (∀ path ∈ evidence.keys, path ∈ closure) ∧
    ∀ entry ∈ evidence.entries, entry.2.all isEvidenceRecord = true

/-! ### What is copied -/

theorem Storage.mem_of_read {storage : Storage} {place : Path} {content : ByteArray}
    (found : storage.read place = some content) : (place, content) ∈ storage := by
  unfold Storage.read at found
  obtain ⟨entry, first, same⟩ := Option.map_eq_some_iff.mp found
  have named : entry.1 = place := by simpa using List.find?_some first
  rw [← named, ← same]
  exact List.mem_of_find?_eq_some first

theorem Storage.read_of_mem {storage : Storage} {place : Path} {content : ByteArray}
    (member : (place, content) ∈ storage) : ∃ other, storage.read place = some other := by
  unfold Storage.read
  cases first : storage.find? fun entry => entry.1 = place with
  | none => exact absurd (decide_eq_true rfl) (List.find?_eq_none.mp first _ member)
  | some entry => exact ⟨entry.2, rfl⟩

theorem Storage.read_cons {storage : Storage} {place wanted : Path} {content : ByteArray} :
    Storage.read ((place, content) :: storage) wanted =
      if place = wanted then some content else storage.read wanted := by
  unfold Storage.read
  rw [List.find?_cons]
  by_cases same : place = wanted
  · simp [same]
  · simp [same]

def SnapshotHost.copies (host : SnapshotHost) (sources : List (String × ByteArray)) : Storage :=
  sources.filterMap fun source => (host.landing source.1).map fun place => (place, source.2)

theorem SnapshotHost.mem_copies {host : SnapshotHost} {sources : List (String × ByteArray)}
    {place : Path} {content : ByteArray} : (place, content) ∈ host.copies sources ↔
      ∃ path, (path, content) ∈ sources ∧ host.landing path = some place := by
  rw [SnapshotHost.copies, List.mem_filterMap]
  constructor
  · intro copied
    obtain ⟨source, member, made⟩ := copied
    obtain ⟨landed, found, same⟩ := Option.map_eq_some_iff.mp made
    cases same
    exact ⟨source.1, member, found⟩
  · intro held
    obtain ⟨path, member, found⟩ := held
    exact ⟨(path, content), member, by rw [found]; rfl⟩

/-- **What the copies leave**, when none raises. -/
theorem copyAll_eq {host : SnapshotHost} {sources : List (String × ByteArray)} :
    ∀ {storage left : Storage}, copyAll host sources storage = (left, none) →
      left = (host.copies sources).reverse ++ storage := by
  induction sources with
  | nil =>
    intro storage left copied
    cases copied
    rfl
  | cons source rest ih =>
    obtain ⟨relative, content⟩ := source
    intro storage left copied
    rw [copyAll] at copied
    cases raises : host.copyRaises relative with
    | some raised =>
      rw [raises] at copied
      cases copied
    | none =>
      rw [raises] at copied
      unfold SnapshotHost.copies
      cases landed : host.landing relative with
      | none =>
        rw [landed] at copied
        rw [List.filterMap_cons_none (by rw [landed]; rfl)]
        exact ih copied
      | some place =>
        rw [landed] at copied
        rw [List.filterMap_cons_some (by rw [landed]; rfl), List.reverse_cons, List.append_assoc]
        exact ih copied

theorem fillStorage_eq {host : SnapshotHost} {sources : List (String × ByteArray)} {manifest : ByteArray}
    {left : Storage} (filled : fillStorage host sources manifest = (left, none)) :
    left = (manifestPlace, manifest) :: (host.copies sources).reverse := by
  unfold fillStorage at filled
  split at filled
  · cases filled
  · rename_i storage copied
    cases fails : host.manifestFails with
    | some raised =>
      rw [fails] at filled
      cases filled
    | none =>
      rw [fails] at filled
      cases filled
      rw [copyAll_eq copied, List.append_nil]

/-! ### What is prepared -/

theorem lookup_tableOf {α : Type} {items : List (String × α)} (distinct : (items.map Prod.fst).Nodup)
    {key : String} {value : α} : (tableOf items).lookup key = some value ↔ (key, value) ∈ items := by
  have keys : (items.map fun item => (⟨item.1, item.2⟩ : Sigma fun _ : String => α)).NodupKeys := by
    rw [List.NodupKeys, List.keys, List.map_map]
    exact distinct
  rw [tableOf, AList.lookup_to_alist, ← Option.mem_def, List.mem_dlookup_iff keys, List.mem_map]
  constructor
  · intro held
    obtain ⟨item, member, same⟩ := held
    cases same
    exact member
  · exact fun member => ⟨_, member, rfl⟩

/-- What is ready before the directory is made. -/
structure PreparedSnapshot (digest : ByteDigest) (host : SnapshotHost) (dependencyClosure : List String)
    (dependencyEvidence : Table (List Dict)) (snapshot : ScopedSnapshot)
    (sources : List (String × ByteArray)) : Prop where
  closure : snapshot.dependencyClosure = closurePaths dependencyClosure
  reads : (closurePaths dependencyClosure).mapM host.read = .ok sources
  hashes : snapshot.fileHashes =
    tableOf (sources.map fun source => (source.1, digest.hexdigest source.2))
  evidence : snapshot.dependencyEvidence = sortedTable dependencyEvidence
  files : snapshot.files.Nodup ∧ ∀ file ∈ snapshot.files, file ∈ snapshot.dependencyClosure
  hash : isDigestText snapshot.snapshotHash = true

theorem prepareSnapshot_eq_ok {digest : ByteDigest} {host : SnapshotHost} {findings : List Finding}
    {dependencyClosure : List String} {dependencyEvidence : Table (List Dict)}
    {snapshot : ScopedSnapshot} {sources : List (String × ByteArray)}
    (prepared : prepareSnapshot digest host findings dependencyClosure dependencyEvidence =
      .ok (snapshot, sources)) :
    PreparedSnapshot digest host dependencyClosure dependencyEvidence snapshot sources := by
  unfold prepareSnapshot at prepared
  simp only [bind_eq_ok, refuse_eq_ok, pure_eq_ok, exists_and_left] at prepared
  obtain ⟨-, inside, -, -, sources, read, same⟩ := prepared
  cases same
  refine ⟨rfl, read, rfl, rfl, ⟨?_, fun file member => ?_⟩, digest.digits _⟩
  · exact (List.perm_insertionSort _ _).nodup_iff.mpr (List.nodup_dedup _)
  · rw [Bool.not_eq_false, List.all_eq_true] at inside
    exact List.contains_iff_mem.mp (inside file member)

section Snapshot

variable {digest : ByteDigest} {host : SnapshotHost} {closure : List String}
  {evidence : Table (List Dict)} {snapshot : ScopedSnapshot} {sources : List (String × ByteArray)}

theorem SnapshotHost.read_eq_ok {relative : String} {source : String × ByteArray} :
    host.read relative = .ok source ↔ relative = source.1 ∧ host.source relative = .ok source.2 := by
  unfold SnapshotHost.read
  simp only [bind_eq_ok, pure_eq_ok]
  constructor
  · intro read
    obtain ⟨content, found, rfl⟩ := read
    exact ⟨rfl, found⟩
  · intro read
    exact ⟨source.2, read.2, by rw [read.1]⟩

theorem PreparedSnapshot.paths
    (prepared : PreparedSnapshot digest host closure evidence snapshot sources) :
    sources.map Prod.fst = closurePaths closure := by
  have each := mapM_eq_ok.mp prepared.reads
  generalize closurePaths closure = paths at each
  clear prepared
  induction each with
  | nil => rfl
  | cons here _ ih => rw [List.map_cons, ih, (SnapshotHost.read_eq_ok.mp here).1]

theorem PreparedSnapshot.mem_sources
    (prepared : PreparedSnapshot digest host closure evidence snapshot sources)
    {path : String} {content : ByteArray} :
    (path, content) ∈ sources ↔ path ∈ snapshot.dependencyClosure ∧ host.source path = .ok content := by
  have each := mapM_eq_ok.mp prepared.reads
  have distinct : (sources.map Prod.fst).Nodup := prepared.paths ▸ nodup_sortedSet _
  rw [prepared.closure, ← prepared.paths]
  constructor
  · intro member
    obtain ⟨relative, -, read⟩ := exists_mem_of_forall₂ each member
    obtain ⟨rfl, found⟩ := SnapshotHost.read_eq_ok.mp read
    exact ⟨List.mem_map_of_mem member, found⟩
  · intro held
    obtain ⟨⟨other, content'⟩, member, same⟩ := List.mem_map.mp held.1
    obtain ⟨relative, -, read⟩ := exists_mem_of_forall₂ each member
    obtain ⟨rfl, found⟩ := SnapshotHost.read_eq_ok.mp read
    cases same
    rw [held.2] at found
    cases found
    exact member

theorem PreparedSnapshot.lookup
    (prepared : PreparedSnapshot digest host closure evidence snapshot sources)
    {path hash : String} : snapshot.fileHashes.lookup path = some hash ↔
      ∃ content, (path, content) ∈ sources ∧ digest.hexdigest content = hash := by
  have distinct : ((sources.map fun source => (source.1, digest.hexdigest source.2)).map
      Prod.fst).Nodup := by
    rw [List.map_map]
    exact prepared.paths ▸ nodup_sortedSet _
  rw [prepared.hashes, lookup_tableOf distinct, List.mem_map]
  constructor
  · intro held
    obtain ⟨source, member, same⟩ := held
    cases same
    exact ⟨source.2, member, rfl⟩
  · intro held
    obtain ⟨content, member, rfl⟩ := held
    exact ⟨(path, content), member, rfl⟩

/-- **The manifest validates** exactly if the evidence is complete. -/
theorem PreparedSnapshot.validated_iff
    (prepared : PreparedSnapshot digest host closure evidence snapshot sources) :
    (∃ manifest, snapshot.manifest = .ok manifest) ↔
      EvidenceComplete (closurePaths closure) evidence := by
  have returns : (∃ manifest, snapshot.manifest = .ok manifest) ↔
      snapshot.toManifest.validate = .ok () := by
    unfold ScopedSnapshot.manifest
    simp only [then_eq_ok, pure_eq_ok]
    exact ⟨fun held => held.choose_spec.1, fun valid => ⟨_, valid, rfl⟩⟩
  have named : snapshot.toManifest.inputHash ≠ "" := by
    intro (empty : snapshot.snapshotHash = "")
    have digits := prepared.hash
    rw [empty] at digits
    exact absurd digits (by decide)
  have keys (path : String) : path ∈ snapshot.fileHashes.keys ↔ path ∈ snapshot.dependencyClosure := by
    rw [← AList.mem_keys, ← AList.lookup_isSome, Option.isSome_iff_exists]
    constructor
    · intro held
      obtain ⟨hash, found⟩ := held
      obtain ⟨content, member, -⟩ := prepared.lookup.mp found
      exact (prepared.mem_sources.mp member).1
    · intro member
      rw [prepared.closure, ← prepared.paths] at member
      obtain ⟨source, listed, rfl⟩ := List.mem_map.mp member
      exact ⟨_, prepared.lookup.mpr ⟨source.2, listed, rfl⟩⟩
  have hashed : sameSet snapshot.fileHashes.keys snapshot.dependencyClosure = true := by
    rw [sameSet, Bool.and_eq_true, List.all_eq_true, List.all_eq_true]
    exact ⟨fun path member => decide_eq_true ((keys path).mp member),
      fun path member => decide_eq_true ((keys path).mpr member)⟩
  have hex : ∀ entry ∈ snapshot.fileHashes.entries, isHexDigest entry.2 = true := by
    intro entry member
    obtain ⟨content, -, same⟩ := prepared.lookup.mp (AList.mem_lookup_iff.mpr member)
    have digits := digest.digits content
    rw [same, isDigestText, String.length_toList] at digits
    exact digits
  have evidenceKeys (path : String) :
      path ∈ snapshot.dependencyEvidence.keys ↔ path ∈ evidence.keys := by
    rw [prepared.evidence, ← AList.mem_keys, ← AList.mem_keys, ← AList.lookup_isSome, sortedTable_lookup,
      AList.lookup_isSome]
  have evidenceEntries (entry : Sigma fun _ : String => List Dict) :
      entry ∈ snapshot.dependencyEvidence.entries ↔ entry ∈ evidence.entries := by
    rw [prepared.evidence]
    exact List.mem_insertionSort _
  rw [returns, validate_eq_ok, EvidenceComplete, ← prepared.closure]
  constructor
  · intro valid
    obtain ⟨-, -, -, -, scope, complete⟩ := valid
    exact ⟨fun path member => scope path ((evidenceKeys path).mpr member),
      fun entry member => complete entry ((evidenceEntries entry).mpr member)⟩
  · intro held
    exact ⟨⟨named, prepared.files.1⟩, prepared.files.2, .inr hashed, hex,
      fun path member => held.1 path ((evidenceKeys path).mp member),
      fun entry member => held.2 entry ((evidenceEntries entry).mp member)⟩

/-- **What is stored is faithful** exactly if the paths have places of their own and the evidence is
complete. -/
theorem PreparedSnapshot.faithful_iff
    (prepared : PreparedSnapshot digest host closure evidence snapshot sources)
    {storage : Storage}
    (filled : fillStorage host sources snapshot.manifestBytes = (storage, none)) :
    Faithful digest host snapshot storage ↔
      Placed digest host (closurePaths closure) snapshot.manifestBytes ∧
        EvidenceComplete (closurePaths closure) evidence := by
  have same := fillStorage_eq filled
  have manifest : storage.read manifestPlace = some snapshot.manifestBytes := by
    rw [same, Storage.read_cons, if_pos rfl]
  rw [← prepared.validated_iff, ← prepared.closure]
  constructor
  · intro faithful
    -- what is at the place of a path has the hash of the path
    have hash {path : String} {place : Path} {content : ByteArray}
        (member : path ∈ snapshot.dependencyClosure) (landed : host.landing path = some place)
        (found : host.source path = .ok content) :
        ∃ held, storage.read place = some held ∧ digest.hexdigest held = digest.hexdigest content := by
      obtain ⟨place', held, hash, landed', read, listed, hashed⟩ := faithful.stored path member
      rw [landed] at landed'
      cases landed'
      obtain ⟨content', among, hashed'⟩ := prepared.lookup.mp listed
      have found' := (prepared.mem_sources.mp among).2
      rw [found] at found'
      cases found'
      exact ⟨held, read, hashed.trans hashed'.symm⟩
    refine ⟨⟨fun path member => ?_,
      fun first member second member' together content content' found found' => ?_,
      fun path member landed content found => ?_⟩, faithful.validated⟩
    · obtain ⟨place, _, _, landed, -⟩ := faithful.stored path member
      exact ⟨place, landed⟩
    · obtain ⟨place, _, _, landed, -⟩ := faithful.stored first member
      obtain ⟨held, read, hashed⟩ := hash member landed found
      obtain ⟨held', read', hashed'⟩ := hash member' (together.symm.trans landed) found'
      rw [read] at read'
      cases read'
      exact hashed.symm.trans hashed'
    · obtain ⟨held, read, hashed⟩ := hash member landed found
      rw [manifest] at read
      rw [← hashed, Option.some.inj read]
  · intro held
    obtain ⟨placed, validated⟩ := held
    refine ⟨fun path member => ?_, manifest, fun place found => ?_, validated⟩
    · obtain ⟨place, landed⟩ := placed.within path member
      rw [prepared.closure, ← prepared.paths] at member
      obtain ⟨⟨_, content⟩, listed, rfl⟩ := List.mem_map.mp member
      obtain ⟨among, found⟩ := prepared.mem_sources.mp listed
      have hash := prepared.lookup.mpr ⟨content, listed, rfl⟩
      by_cases own : manifestPlace = place
      · exact ⟨place, snapshot.manifestBytes, _, landed, own ▸ manifest, hash,
          (placed.own _ among (own ▸ landed) content found).symm⟩
      · -- the last copy at a place has the hash of every other
        have copied : (place, content) ∈ (host.copies sources).reverse :=
          List.mem_reverse.mpr (SnapshotHost.mem_copies.mpr ⟨_, listed, landed⟩)
        obtain ⟨last, read⟩ := Storage.read_of_mem copied
        obtain ⟨other, listed', landed'⟩ :=
          SnapshotHost.mem_copies.mp (List.mem_reverse.mp (Storage.mem_of_read read))
        obtain ⟨among', found'⟩ := prepared.mem_sources.mp listed'
        refine ⟨place, last, _, landed, ?_, hash,
          placed.apart other among' _ among (landed'.trans landed.symm) last content found' found⟩
        rw [same, Storage.read_cons, if_neg own]
        exact read
    · obtain ⟨content, read⟩ := Option.isSome_iff_exists.mp found
      rw [same] at read
      obtain here | copied := List.mem_cons.mp (Storage.mem_of_read read)
      · cases here
        exact .inl rfl
      · obtain ⟨path, listed, landed⟩ := SnapshotHost.mem_copies.mp (List.mem_reverse.mp copied)
        exact .inr ⟨path, (prepared.mem_sources.mp listed).1, landed⟩

end Snapshot

/-! ### The call -/

/-- The call gets as far as the directory of the snapshot. -/
def MakesDirectory (digest : ByteDigest) (host : SnapshotHost) (findings : List Finding)
    (dependencyClosure : List String) (dependencyEvidence : Table (List Dict)) : Prop :=
  ∃ snapshot sources,
    prepareSnapshot digest host findings dependencyClosure dependencyEvidence = .ok (snapshot, sources) ∧
      host.mkdirRaises (host.output ++ [snapshot.snapshotHash]) = none

section Call

variable {digest : ByteDigest} {host : SnapshotHost} {findings : List Finding}
  {dependencyClosure : List String} {dependencyEvidence : Table (List Dict)}

theorem createScopedSnapshot_returned {snapshot : ScopedSnapshot} {left : Option Storage}
    (created : createScopedSnapshot digest host findings dependencyClosure dependencyEvidence =
      ⟨.ok snapshot, left⟩) :
    ∃ sources storage,
      PreparedSnapshot digest host dependencyClosure dependencyEvidence snapshot sources ∧
        fillStorage host sources snapshot.manifestBytes = (storage, none) ∧ left = some storage := by
  unfold createScopedSnapshot at created
  split at created
  · cases created
  · rename_i made sources prepared
    split at created
    · cases created
    · split at created
      · rename_i storage filled
        cases created
        exact ⟨sources, storage, prepareSnapshot_eq_ok prepared, filled, rfl⟩
      · cases created

/-- A call that raises: what it made is left unless an `Exception` is caught and the removal succeeds. -/
theorem createScopedSnapshot_raised {raised : Raised} {left : Option Storage}
    (created : createScopedSnapshot digest host findings dependencyClosure dependencyEvidence =
      ⟨.error raised, left⟩) :
    left = none ↔ (MakesDirectory digest host findings dependencyClosure dependencyEvidence →
      raised.isException = true ∧ host.removes = true) := by
  unfold MakesDirectory
  unfold createScopedSnapshot at created
  split at created
  · rename_i early prepared
    cases created
    refine iff_of_true rfl fun made => ?_
    obtain ⟨_, _, other, -⟩ := made
    rw [prepared] at other
    cases other
  · rename_i snapshot sources prepared
    split at created
    · rename_i refused
      cases created
      refine iff_of_true rfl fun made => ?_
      obtain ⟨_, _, other, free⟩ := made
      rw [prepared] at other
      cases other
      rw [refused] at free
      cases free
    · rename_i free
      split at created
      · cases created
      · cases created
        have made : ∃ snapshot sources,
            prepareSnapshot digest host findings dependencyClosure dependencyEvidence =
                .ok (snapshot, sources) ∧
              host.mkdirRaises (host.output ++ [snapshot.snapshotHash]) = none :=
          ⟨snapshot, sources, prepared, free⟩
        rw [← Bool.and_eq_true]
        constructor
        · intro none _
          by_contra kept
          rw [if_neg kept] at none
          cases none
        · exact fun caught => if_pos (caught made)

end Call

/-- **What a snapshot holds.** A call that returns has stored every path with the content it hashed, the
manifest and nothing else, and its manifest validates, exactly if every path has a place below the
storage that it shares only with files of its own hash, and the evidence is complete. A call that raises
leaves nothing exactly if it made nothing, or raised an `Exception` and could remove what it made. -/
theorem snapshot_faithful_iff (digest : ByteDigest) (host : SnapshotHost) (findings : List Finding)
    (dependencyClosure : List String) (dependencyEvidence : Table (List Dict)) :
    (∀ snapshot left, createScopedSnapshot digest host findings dependencyClosure dependencyEvidence =
        ⟨.ok snapshot, left⟩ →
      ((∃ storage, left = some storage ∧ Faithful digest host snapshot storage) ↔
        Placed digest host (closurePaths dependencyClosure) snapshot.manifestBytes ∧
          EvidenceComplete (closurePaths dependencyClosure) dependencyEvidence)) ∧
    ∀ raised left, createScopedSnapshot digest host findings dependencyClosure dependencyEvidence =
        ⟨.error raised, left⟩ →
      (left = none ↔ (MakesDirectory digest host findings dependencyClosure dependencyEvidence →
        raised.isException = true ∧ host.removes = true)) := by
  constructor
  · intro snapshot left created
    obtain ⟨sources, storage, prepared, filled, rfl⟩ := createScopedSnapshot_returned created
    rw [← prepared.faithful_iff filled]
    constructor
    · intro held
      obtain ⟨other, same, faithful⟩ := held
      cases same
      exact faithful
    · exact fun faithful => ⟨storage, rfl, faithful⟩
  · exact fun raised left created => createScopedSnapshot_raised created

/-! ### One file -/

/-- A repository with one file, on a host where nothing goes wrong and no link leads anywhere. -/
def oneFileHost : SnapshotHost where
  base := ["repo"]
  output := ["out"]
  resolve path := (walk [] path).getD []
  file path := if path = ["repo", "a.py"] then .bytes (encode ['x']) else .missing
  isThere _ := false
  mkdirFails _ := none
  copyFails _ := none
  manifestFails := none
  removes := true
  reentry _ := none

def fileFinding (file : String) : Finding := ⟨"f1", "syntax_error", file, "high", .null⟩

theorem returned_of_isOk {run : SnapshotRun} (fine : run.result.isOk = true) :
    ∃ snapshot left, run = ⟨.ok snapshot, left⟩ := by
  obtain ⟨result, left⟩ := run
  cases result with
  | error _ => cases fine
  | ok snapshot => exact ⟨snapshot, left, rfl⟩

theorem snapshot_faithful_iff_plain : ∃ snapshot left,
    createScopedSnapshot sha256Digest oneFileHost [fileFinding "a.py"] ["a.py"] ∅ =
        ⟨.ok snapshot, left⟩ ∧
      ∃ storage, left = some storage ∧ Faithful sha256Digest oneFileHost snapshot storage := by
  have fine : (createScopedSnapshot sha256Digest oneFileHost [fileFinding "a.py"] ["a.py"]
      ∅).result.isOk = true := by
    decide +kernel
  obtain ⟨snapshot, left, created⟩ := returned_of_isOk fine
  refine ⟨snapshot, left, created, ((snapshot_faithful_iff _ _ _ _ _).1 _ _ created).mpr ⟨?_, ?_⟩⟩
  · have closure : closurePaths ["a.py"] = ["a.py"] := by
      decide +kernel
    have landed : oneFileHost.landing "a.py" = some ["a.py"] := by
      decide +kernel
    rw [closure]
    refine ⟨fun path member => ?_, fun first member second member' _ content content' found found' => ?_,
      fun path member place => ?_⟩
    · rw [List.mem_singleton.mp member]
      exact ⟨_, landed⟩
    · rw [List.mem_singleton.mp member] at found
      rw [List.mem_singleton.mp member', found] at found'
      cases found'
      rfl
    · rw [List.mem_singleton.mp member, landed] at place
      exact absurd place (by decide)
  · exact ⟨fun path member => absurd member List.not_mem_nil,
      fun entry member => absurd member List.not_mem_nil⟩

/-- **A path that leaves the repository and comes back**: it is in the repository when it is checked, and
its copy is beside the storage. -/
theorem climbing_unfaithful : ∃ snapshot left,
    createScopedSnapshot sha256Digest oneFileHost [fileFinding "../repo/a.py"] ["../repo/a.py"] ∅ =
        ⟨.ok snapshot, left⟩ ∧
      ¬ ∃ storage, left = some storage ∧ Faithful sha256Digest oneFileHost snapshot storage := by
  have fine : (createScopedSnapshot sha256Digest oneFileHost [fileFinding "../repo/a.py"]
      ["../repo/a.py"] ∅).result.isOk = true := by
    decide +kernel
  obtain ⟨snapshot, left, created⟩ := returned_of_isOk fine
  refine ⟨snapshot, left, created, fun held => ?_⟩
  obtain ⟨storage, -, faithful⟩ := held
  obtain ⟨sources, _, prepared, -⟩ := createScopedSnapshot_returned created
  have closure : closurePaths ["../repo/a.py"] = ["../repo/a.py"] := by
    decide +kernel
  have outside : oneFileHost.landing "../repo/a.py" = none := by
    decide +kernel
  obtain ⟨place, _, _, landed, -⟩ := faithful.stored "../repo/a.py"
    (prepared.closure ▸ closure ▸ List.mem_singleton.mpr rfl)
  rw [outside] at landed
  cases landed

end Audisor.Fix
