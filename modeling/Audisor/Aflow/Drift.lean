/-
**Drift between two baselines.**

* `compareBaselines` — `compare_baselines`: what changed in the repository since the plan was locked.
* `classify` — whether the changes invalidate the locked analysis.
* `DriftEvent.validate`, `DriftDecision.validate` — the schemas of both.

The id of an event is composed of the baseline's. It is a plain text, which the schema of the event
may refuse.
-/

import Audisor.Aflow.Invariants

namespace Audisor.Aflow

open Json

variable (sha : Sha256)

/-! ### Documents -/

inductive ChangeType where
  | added | modified | deleted | authorityChanged | baselineUnverifiable
  deriving DecidableEq, Repr

def ChangeType.value : ChangeType → String
  | .added => "added"
  | .modified => "modified"
  | .deleted => "deleted"
  | .authorityChanged => "authority_changed"
  | .baselineUnverifiable => "baseline_unverifiable"

structure DriftChange where
  path : RelativePath
  changeType : ChangeType
  classification : Classification
  beforeHash : Option Digest
  afterHash : Option Digest
  deriving DecidableEq

structure DriftEvent where
  driftEventId : String
  baselineReference : ArtifactRef
  currentBaseline : Baseline
  changes : List DriftChange
  observedAt : String
  deriving DecidableEq

inductive DriftVerdict where
  | noDrift | nonblockingDriftRecorded | scopedRevalidationRequired | fullReanalysisRequired
  | baselineUnverifiable
  deriving DecidableEq, Repr

structure DriftDecision where
  driftEventReference : DerivedRef
  decision : DriftVerdict
  blocking : Bool
  affectedRequirements : List Identifier
  affectedPlanLocations : List JsonPointer
  reason : Words
  deriving DecidableEq

def DriftChange.toJson (change : DriftChange) : Json :=
  .obj [("path", .str change.path.val), ("change_type", .str change.changeType.value),
    ("classification", .str change.classification.value),
    ("before_hash", change.beforeHash.elim .null fun hash => .str hash.val),
    ("after_hash", change.afterHash.elim .null fun hash => .str hash.val)]

def DriftEvent.toJson (event : DriftEvent) : Json :=
  .obj [version, ("drift_event_id", .str event.driftEventId),
    ("baseline_reference", event.baselineReference.toJson),
    ("current_baseline", event.currentBaseline.toJson),
    ("changes", listOf event.changes DriftChange.toJson), ("observed_at", .str event.observedAt)]

/-- `validate(event, "drift-event.schema.json")`. -/
def DriftEvent.validate (event : DriftEvent) : Except AflowError Unit :=
  if isIdentifier event.driftEventId then .ok () else .error (.schemaValidation "drift-event.schema.json")

def DriftEvent.ref (event : DriftEvent) : DerivedRef :=
  { artifactId := event.driftEventId, schemaId := schemaId "drift-event.schema.json",
    version := schemaVersion, contentHash := canonicalHash sha event.toJson }

/-- The verdicts that block, as the schema of a decision pairs them. -/
def DriftVerdict.blocks : DriftVerdict → Bool
  | .noDrift | .nonblockingDriftRecorded => false
  | .scopedRevalidationRequired | .fullReanalysisRequired | .baselineUnverifiable => true

/-- `validate(decision, "drift-decision.schema.json")`. -/
def DriftDecision.validate (decision : DriftDecision) : Except AflowError Unit :=
  if isIdentifier decision.driftEventReference.artifactId &&
      decision.blocking == decision.decision.blocks then .ok ()
  else .error (.schemaValidation "drift-decision.schema.json")

/-! ### Comparison -/

/-- `_conservative_classification`. -/
def conservativeClassification (old new : Option Classification) : Classification :=
  if old = some .«protected» ∨ new = some .«protected» then .«protected»
  else if old = some .unknown ∨ new = some .unknown then .unknown
  else if old = some .relevant ∨ new = some .relevant then .relevant
  else .unrelated

def unverifiable (path : RelativePath) (before after : Option Digest) : DriftChange :=
  { path, changeType := .baselineUnverifiable, classification := .unknown, beforeHash := before,
    afterHash := after }

/-- What happened to a path, given its entries in both baselines. -/
def pathChange (path : RelativePath) (old new : Option BaselineEntry) : Option DriftChange :=
  match old, new with
  | some before, some after =>
    if before.contentHash = after.contentHash then
      if before.classification = after.classification then none
      else some (unverifiable path (some before.contentHash) (some after.contentHash))
    else some (changed .modified)
  | none, _ => some (changed .added)
  | some _, none => some (changed .deleted)
where
  changed (changeType : ChangeType) : DriftChange :=
    { path, changeType
      classification := conservativeClassification (old.map BaselineEntry.classification)
        (new.map BaselineEntry.classification)
      beforeHash := old.map BaselineEntry.contentHash
      afterHash := new.map BaselineEntry.contentHash }

theorem isRelativePath_authority (authorityId : Identifier) :
    isRelativePath ("authority/" ++ authorityId.val) = true := by
  have short : authorityId.val.length ≤ 128 := by
    have wellFormed := authorityId.property
    simp only [isIdentifier, Bool.and_eq_true, decide_eq_true_eq] at wellFormed
    exact wellFormed.1.2
  have rootless : isRooted ("authority/" ++ authorityId.val).toList = false := by
    rw [String.toList_append]
    rfl
  simp only [isRelativePath, rootless, String.length_append]
  simp only [Bool.not_false, Bool.and_true, Bool.and_eq_true, decide_eq_true_eq]
  have own : "authority/".length = 10 := rfl
  omega

/-- What happened to an authority, given its hashes in both baselines. -/
def authorityChange (authorityId : Identifier) (old new : Option Digest) : Option DriftChange :=
  if old = new then none
  else some
    { path := ⟨"authority/" ++ authorityId.val, isRelativePath_authority authorityId⟩
      changeType := .authorityChanged, classification := .«protected», beforeHash := old
      afterHash := new }

/-- The members of both lists, each once and in order: `sorted(before.keys() | after.keys())`. -/
def sortedUnion {format : String → Prop} (before after : List { text : String // format text }) :
    List { text : String // format text } :=
  (before ++ after).dedup.insertionSort fun left right => left.val ≤ right.val

def Baseline.entry (baseline : Baseline) (path : RelativePath) : Option BaselineEntry :=
  byKey baseline.entries BaselineEntry.path path

def Baseline.authorityHash (baseline : Baseline) (authorityId : Identifier) : Option Digest :=
  (byKey baseline.authorityHashes AuthorityHash.authorityId authorityId).map
    AuthorityHash.contentHash

def Baseline.paths (baseline : Baseline) : List RelativePath :=
  baseline.entries.map BaselineEntry.path

def Baseline.authorityIds (baseline : Baseline) : List Identifier :=
  baseline.authorityHashes.map AuthorityHash.authorityId

/-- **The changes**: of the root, of the scope, path by path, and authority by authority. -/
def baselineChanges (locked current : Baseline) : List DriftChange :=
  (if locked.repositoryRoot = current.repositoryRoot then []
    else [unverifiable ⟨"repository-root", by decide⟩ none none]) ++
  (if locked.scope = current.scope then []
    else [unverifiable ⟨"baseline-scope", by decide⟩ none none]) ++
  (sortedUnion locked.paths current.paths).filterMap (fun path =>
    pathChange path (locked.entry path) (current.entry path)) ++
  (sortedUnion locked.authorityIds current.authorityIds).filterMap fun authorityId =>
    authorityChange authorityId (locked.authorityHash authorityId)
      (current.authorityHash authorityId)

/-- `compare_baselines`. -/
def compareBaselines (locked current : Baseline) (observedAt : String) :
    Except AflowError DriftEvent := do
  locked.validate sha
  current.validate sha
  return { driftEventId := "drift." ++ current.baselineId.val, baselineReference := locked.ref
           currentBaseline := current, changes := baselineChanges locked current, observedAt }

/-! ### Classification -/

/-- **How far the changes reach**, the gravest first. -/
def driftVerdict (changes : List DriftChange) : DriftVerdict :=
  if changes.isEmpty then .noDrift
  else if changes.any fun change =>
      change.classification = .unknown ∨ change.changeType = .baselineUnverifiable then
    .baselineUnverifiable
  else if changes.any fun change => change.classification = .«protected» then
    .fullReanalysisRequired
  else if changes.any fun change => change.classification = .relevant then
    .scopedRevalidationRequired
  else .nonblockingDriftRecorded

def DriftVerdict.reason : DriftVerdict → Words
  | .noDrift => ⟨"Locked and current baselines are identical.", by decide⟩
  | .baselineUnverifiable => ⟨"Drift relevance cannot be determined safely.", by decide⟩
  | .fullReanalysisRequired => ⟨"Protected authority or configuration changed.", by decide⟩
  | .scopedRevalidationRequired =>
    ⟨"A locked target, dependency, validation, or proof path changed.", by decide⟩
  | .nonblockingDriftRecorded =>
    ⟨"Only certainly unrelated out-of-scope paths changed.", by decide⟩

def baselineLocation : JsonPointer := ⟨"/repository_baseline_reference", by decide⟩

/-- `classify`. -/
def classify (event : DriftEvent) (affectedRequirements : List Identifier) : DriftDecision :=
  let decision := driftVerdict event.changes
  { driftEventReference := event.ref sha, decision, blocking := decision.blocks
    affectedRequirements
    affectedPlanLocations := if decision.blocks then [baselineLocation] else []
    reason := decision.reason }

/-- A decision of `classify` satisfies its schema whenever its event satisfies its own. -/
theorem classify_validate {event : DriftEvent} (valid : event.validate = .ok ())
    (affectedRequirements : List Identifier) :
    (classify sha event affectedRequirements).validate = .ok () := by
  have named : isIdentifier event.driftEventId = true := by
    by_contra refused
    rw [DriftEvent.validate, if_neg refused] at valid
    cases valid
  rw [DriftDecision.validate, if_pos]
  simp [classify, DriftEvent.ref, named]

theorem mem_sortedUnion {format : String → Prop}
    {before after : List { text : String // format text }} {text : { text : String // format text }} :
    text ∈ sortedUnion before after ↔ text ∈ before ∨ text ∈ after := by
  rw [sortedUnion, List.mem_insertionSort, List.mem_dedup, List.mem_append]

/-- **Two baselines that differ in nothing but id and time have not drifted.** -/
theorem baselineChanges_same {locked current : Baseline}
    (sameRoot : locked.repositoryRoot = current.repositoryRoot)
    (sameScope : locked.scope = current.scope) (sameEntries : locked.entries = current.entries)
    (sameAuthority : locked.authorityHashes = current.authorityHashes) :
    baselineChanges locked current = [] := by
  have noPath : (sortedUnion locked.paths current.paths).filterMap (fun path =>
      pathChange path (locked.entry path) (current.entry path)) = [] := by
    rw [List.filterMap_eq_nil_iff]
    intro path listed
    have samePaths : locked.paths = current.paths := by
      rw [Baseline.paths, Baseline.paths, sameEntries]
    have present : path ∈ current.paths := by
      rwa [mem_sortedUnion, samePaths, or_self] at listed
    obtain ⟨entry, found⟩ := Option.isSome_iff_exists.mp (byKey_isSome present)
    rw [Baseline.entry, Baseline.entry, sameEntries, found]
    simp [pathChange]
  have noAuthority : (sortedUnion locked.authorityIds current.authorityIds).filterMap (fun id =>
      authorityChange id (locked.authorityHash id) (current.authorityHash id)) = [] := by
    rw [List.filterMap_eq_nil_iff]
    intro id _
    rw [Baseline.authorityHash, Baseline.authorityHash, sameAuthority, authorityChange, if_pos rfl]
  rw [baselineChanges, if_pos sameRoot, if_pos sameScope, noPath, noAuthority]
  rfl

end Audisor.Aflow
