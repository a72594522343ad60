/-
**Whose persisted result is read.**

* `StateRoot` — the result files, each name once, with files whose reading raises. `readStored` —
  `read_last_result`. `readStored_ofFiles` — on files that can be read, it is `readLastResult`.
* `Decides` — a file that is the newest of those that concern an artifact, as far as the reader can tell.
* `readStored_put` — a change of another file is never seen. `isCandidate_resultName_iff` — whose files
  match the name of an artifact.
* `runSteps` — results that are written, and files that are changed. `readStored_run` — the last result
  that was written is read, unless a newer file that concerns the artifact was put there.
-/

import Audisor.ArtifactFlow.Revisions
import Audisor.Text.Stamps

namespace Audisor.ArtifactFlow

open Json
open Audisor.Lifecycle (Raised holdsText holdsText_iff)

/-! ### The state root -/

/-- What the reading of a file gives. An exception that is not caught is raised by a text that is no
UTF-8, for instance. -/
abbrev StoredFile := Except Raised FileContent

/-- The file is damaged, or holds a result of the artifact. -/
def Concerns (artifactId : String) : StoredFile → Bool
  | .error _ => true
  | .ok content => content.concerns artifactId

/-- **The result files of a state root**, each name once. -/
structure StateRoot where
  files : List (String × StoredFile)
  distinct : (files.map Prod.fst).Nodup

def without (name : String) (files : List (String × StoredFile)) : List (String × StoredFile) :=
  files.filter fun file => file.1 ≠ name

def replaced (name : String) : Option StoredFile → List (String × StoredFile) →
    List (String × StoredFile)
  | some content, files => (name, content) :: without name files
  | none, files => without name files

theorem mem_without {name : String} {files : List (String × StoredFile)} {file : String × StoredFile} :
    file ∈ without name files ↔ file ∈ files ∧ file.1 ≠ name := by
  rw [without, List.mem_filter, decide_eq_true_eq]

theorem mem_replaced {name : String} {content : Option StoredFile}
    {files : List (String × StoredFile)} {file : String × StoredFile} :
    file ∈ replaced name content files ↔
      (file.1 = name ∧ content = some file.2) ∨ (file ∈ files ∧ file.1 ≠ name) := by
  cases content with
  | none => simp only [replaced, mem_without, reduceCtorEq, and_false, false_or]
  | some content =>
    rw [replaced, List.mem_cons, mem_without, Option.some.injEq, Prod.ext_iff]
    simp only [eq_comm (a := content)]

theorem nodup_without {name : String} {files : List (String × StoredFile)}
    (distinct : (files.map Prod.fst).Nodup) : ((without name files).map Prod.fst).Nodup :=
  distinct.sublist ((List.filter_sublist ..).map Prod.fst)

theorem nodup_replaced (name : String) (content : Option StoredFile)
    {files : List (String × StoredFile)} (distinct : (files.map Prod.fst).Nodup) :
    ((replaced name content files).map Prod.fst).Nodup := by
  cases content with
  | none => exact nodup_without distinct
  | some content =>
    refine List.nodup_cons.mpr ⟨?_, nodup_without distinct⟩
    intro among
    obtain ⟨file, kept, same⟩ := List.mem_map.mp among
    exact (mem_without.mp kept).2 same

/-- **A file is created, changed, damaged or removed.** -/
def StateRoot.put (name : String) (content : Option StoredFile) (root : StateRoot) : StateRoot where
  files := replaced name content root.files
  distinct := nodup_replaced name content root.distinct

/-! ### Reading -/

variable (host : Host)

/-- The files that match the name of the artifact, the last first. -/
def matching (artifactId : String) (files : List (String × StoredFile)) : List (String × StoredFile) :=
  (files.filter fun file => isCandidate artifactId file.1).insertionSort fun a b => b.1 ≤ a.1

def readFile (file : String × StoredFile) : Except Raised LastResult :=
  file.2.map fun content => content.read host file.1

/-- The loop of `read_last_result`. -/
def readMatching (artifactId : String) : List (String × StoredFile) → Except Raised LastResult
  | [] => .ok .absent
  | file :: rest =>
    if Concerns artifactId file.2 then readFile host file else readMatching artifactId rest

/-- **`read_last_result(artifact_id, state_root=..)`**, over every content of the state root. -/
def readStored (artifactId : String) (root : StateRoot) : Except Raised LastResult :=
  if isBlank artifactId then .ok .absent
  else readMatching host artifactId (matching artifactId root.files)

def Relevant (artifactId : String) (file : String × StoredFile) : Prop :=
  isCandidate artifactId file.1 = true ∧ Concerns artifactId file.2 = true

/-- The newest of the files that concern the artifact and match its name. -/
structure Newest (artifactId : String) (file : String × StoredFile) (root : StateRoot) : Prop where
  among : file ∈ root.files
  relevant : Relevant artifactId file
  last : ∀ other ∈ root.files, Relevant artifactId other → other.1 ≤ file.1

/-- **The file of this name decides**: of those that match the name of the artifact and are damaged or
hold a result of it, it is the newest. -/
def Decides (artifactId name : String) (root : StateRoot) : Prop :=
  ∃ content, Newest artifactId (name, content) root

variable {artifactId : String} {root : StateRoot} {file : String × StoredFile}

theorem StateRoot.eq_of_name (root : StateRoot) {file other : String × StoredFile}
    (among : file ∈ root.files) (own : other ∈ root.files) (same : file.1 = other.1) : file = other :=
  List.inj_on_of_nodup_map root.distinct among own same

theorem mem_matching {files : List (String × StoredFile)} :
    file ∈ matching artifactId files ↔ file ∈ files ∧ isCandidate artifactId file.1 = true := by
  rw [matching, List.mem_insertionSort, List.mem_filter]

theorem matching_sorted (artifactId : String) (files : List (String × StoredFile)) :
    (matching artifactId files).Pairwise fun a b => b.1 ≤ a.1 := by
  have total : Std.Total fun a b : String × StoredFile => b.1 ≤ a.1 := ⟨fun a b => le_total b.1 a.1⟩
  have trans : IsTrans _ fun a b : String × StoredFile => b.1 ≤ a.1 :=
    ⟨fun _ _ _ first second => second.trans first⟩
  exact List.pairwise_insertionSort _ _

theorem readMatching_append {front back : List (String × StoredFile)}
    (skipped : ∀ other ∈ front, ¬ Concerns artifactId other.2 = true) :
    readMatching host artifactId (front ++ back) = readMatching host artifactId back := by
  induction front with
  | nil => rfl
  | cons other front ih =>
    rw [List.forall_mem_cons] at skipped
    rw [List.cons_append, readMatching, if_neg skipped.1, ih skipped.2]

/-- **The newest file decides** what is read. -/
theorem readMatching_of_newest (newest : Newest artifactId file root) :
    readMatching host artifactId (matching artifactId root.files) = readFile host file := by
  obtain ⟨front, back, split⟩ :=
    List.append_of_mem (mem_matching.mpr ⟨newest.among, newest.relevant.1⟩)
  have sorted := matching_sorted artifactId root.files
  have listed : ∀ other ∈ front, other ∈ matching artifactId root.files := by
    intro other member
    rw [split]
    exact List.mem_append_left _ member
  have distinct : (matching artifactId root.files).Nodup :=
    ((List.perm_insertionSort _ _).nodup_iff).mpr ((List.Nodup.of_map _ root.distinct).filter _)
  rw [split] at sorted distinct
  rw [split, readMatching_append host, readMatching, if_pos newest.relevant.2]
  intro other member concerned
  obtain ⟨own, candidate⟩ := mem_matching.mp (listed other member)
  have below := newest.last other own ⟨candidate, concerned⟩
  have above := (List.pairwise_append.mp sorted).2.2 other member file List.mem_cons_self
  have same := root.eq_of_name own newest.among (le_antisymm below above)
  subst same
  exact (List.nodup_append.mp distinct).2.2 other member other List.mem_cons_self rfl

theorem readMatching_of_none (none : ∀ other ∈ root.files, ¬ Relevant artifactId other) :
    readMatching host artifactId (matching artifactId root.files) = .ok .absent := by
  rw [← List.append_nil (matching artifactId root.files), readMatching_append host, readMatching]
  intro other member concerned
  obtain ⟨own, candidate⟩ := mem_matching.mp member
  exact none other own ⟨candidate, concerned⟩

theorem exists_newest (among : file ∈ root.files) (relevant : Relevant artifactId file) :
    ∃ newest, Newest artifactId newest root := by
  have listed : ∀ other, other ∈ (matching artifactId root.files).filter
      (fun other => Concerns artifactId other.2) ↔ other ∈ root.files ∧ Relevant artifactId other := by
    intro other
    rw [List.mem_filter, mem_matching, and_assoc]
    rfl
  have sorted := (matching_sorted artifactId root.files).filter fun other => Concerns artifactId other.2
  cases found : (matching artifactId root.files).filter fun other => Concerns artifactId other.2 with
  | nil =>
    have member := (listed file).mpr ⟨among, relevant⟩
    rw [found] at member
    cases member
  | cons newest rest =>
    rw [found] at listed sorted
    obtain ⟨own, holds⟩ := (listed newest).mp List.mem_cons_self
    refine ⟨newest, own, holds, fun other there concerns => ?_⟩
    rcases List.mem_cons.mp ((listed other).mpr ⟨there, concerns⟩) with rfl | later
    · exact le_rfl
    · exact (List.pairwise_cons.mp sorted).1 other later

/-! ### One change -/

variable {name : String} {content : Option StoredFile}

theorem mem_put {other : String × StoredFile} (different : other.1 ≠ name) :
    other ∈ (root.put name content).files ↔ other ∈ root.files := by
  rw [StateRoot.put, mem_replaced]
  simp only [different, false_and, false_or, ne_eq, not_false_eq_true, and_true]

theorem Newest.put (newest : Newest artifactId file root) (different : file.1 ≠ name)
    (undecided : ¬ Decides artifactId name (root.put name content)) :
    Newest artifactId file (root.put name content) := by
  have kept : file ∈ (root.put name content).files := (mem_put different).mpr newest.among
  obtain ⟨other, decides⟩ := exists_newest kept newest.relevant
  have distinct : other.1 ≠ name := by
    rintro rfl
    exact undecided ⟨other.2, decides⟩
  have own := (mem_put distinct).mp decides.among
  have above := decides.last file kept newest.relevant
  have below := newest.last other own decides.relevant
  rwa [root.eq_of_name newest.among own (le_antisymm above below)]

/-- **A change of a file that does not decide is not seen**, neither before nor after. -/
theorem readStored_put (before : ¬ Decides artifactId name root)
    (after : ¬ Decides artifactId name (root.put name content)) :
    readStored host artifactId (root.put name content) = readStored host artifactId root := by
  unfold readStored
  split
  · rfl
  by_cases some : ∃ file ∈ root.files, Relevant artifactId file
  · obtain ⟨file, among, relevant⟩ := some
    obtain ⟨newest, decides⟩ := exists_newest among relevant
    have different : newest.1 ≠ name := by
      rintro rfl
      exact before ⟨newest.2, decides⟩
    rw [readMatching_of_newest host decides, readMatching_of_newest host (decides.put different after)]
  · have none : ∀ other ∈ root.files, ¬ Relevant artifactId other := by
      intro other among relevant
      exact some ⟨other, among, relevant⟩
    rw [readMatching_of_none host none, readMatching_of_none host]
    intro other among relevant
    obtain ⟨newest, decides⟩ := exists_newest among relevant
    have different : newest.1 ≠ name := by
      rintro rfl
      exact after ⟨newest.2, decides⟩
    exact none newest ((mem_put different).mp decides.among) decides.relevant

/-! ### Files that can be read -/

/-! ### Names of result files -/

def writtenName (artifactId : String) (time : Text.Moment) : String :=
  resultName artifactId (String.ofList (Text.stamp time))

theorem writtenName_toList (artifactId : String) (time : Text.Moment) :
    (writtenName artifactId time).toList =
      (sanitizeArtifactId artifactId ++ "-").toList ++ (Text.stamp time ++ ".json".toList) := by
  rw [writtenName, resultName, String.toList_append, String.toList_append, String.toList_ofList,
    List.append_assoc]

theorem hyphen_not_mem_tail (time : Text.Moment) : '-' ∉ Text.stamp time ++ ".json".toList := by
  rw [List.mem_append, not_or]
  exact ⟨Text.hyphen_not_mem_stamp time, by decide +kernel⟩

/-- The names of the results of `other` match the name of the artifact. -/
def Collides (artifactId other : String) : Prop :=
  (sanitizeArtifactId artifactId ++ "-").toList <+: (sanitizeArtifactId other ++ "-").toList

theorem hyphen_toList : "-".toList = ['-'] := by decide +kernel

/-- **Whose files match the name of an artifact.** -/
theorem isCandidate_writtenName_iff (artifactId other : String) (time : Text.Moment) :
    isCandidate artifactId (writtenName other time) = true ↔ Collides artifactId other := by
  have suffix : ".json".toList <:+ (writtenName other time).toList := by
    rw [writtenName_toList, ← List.append_assoc]
    exact List.suffix_append _ _
  rw [isCandidate, Bool.and_eq_true, List.isPrefixOf_iff_prefix, List.isSuffixOf_iff_suffix,
    and_iff_left suffix, writtenName_toList, Collides]
  constructor
  · intro fits
    by_cases short : (sanitizeArtifactId artifactId ++ "-").toList.length ≤
        (sanitizeArtifactId other ++ "-").toList.length
    · exact List.prefix_of_prefix_length_le fits (List.prefix_append _ _) short
    · -- The hyphen would be one of the time or of the suffix.
      exfalso
      obtain ⟨more, split⟩ :=
        List.prefix_of_prefix_length_le (List.prefix_append _ _) fits (not_le.mp short).le
      rw [← split, List.prefix_append_right_inj] at fits
      have last : more.getLast? = some '-' := by
        have whole := congrArg List.getLast? split
        simp only [List.getLast?_append, String.toList_append, hyphen_toList, List.getLast?_singleton] at whole
        cases found : more.getLast? with
        | none =>
          rw [List.getLast?_eq_none_iff] at found
          rw [found, List.append_nil] at split
          exact absurd (congrArg List.length split).ge short
        | some c =>
          rw [found] at whole
          exact whole
      exact hyphen_not_mem_tail time (fits.subset (List.mem_of_getLast? last))
  · exact fun collides => collides.trans (List.prefix_append _ _)

/-- **The results of one artifact are in the order of their times.** -/
theorem writtenName_lt (artifactId : String) {earlier later : Text.Moment} (before : earlier.Before later) :
    writtenName artifactId earlier < writtenName artifactId later := by
  rw [String.lt_iff, writtenName_toList, writtenName_toList]
  refine List.append_left_lt (Text.append_lt_append ?_ (Text.stamp_lt before))
  rw [Text.length_stamp, Text.length_stamp]

theorem writtenName_ne (artifactId other : String) {earlier later : Text.Moment}
    (before : earlier.Before later) : writtenName other later ≠ writtenName artifactId earlier := by
  intro same
  have lists := congrArg String.toList same
  rw [writtenName_toList, writtenName_toList] at lists
  have tails := (List.append_inj' lists (by simp only [List.length_append, Text.length_stamp])).2
  have stamps := List.append_cancel_right tails
  exact absurd (Text.stamp_lt before) (by rw [stamps]; exact lt_irrefl _)

/-! ### Results that are written, and files that are changed -/

/-- A result of an artifact, as a run writes it: it names the artifact, and has a status. -/
structure OwnResult (artifactId : String) where
  fields : Dict
  named : holdsText fields "artifact_id" artifactId = true
  ended : hasResultStatus fields = true

/-- What happens to a state root: `_persist_result` writes a result, or a file is created, changed or
removed in another way. -/
inductive RootStep where
  | write (artifactId : String) (time : Text.Moment) (result : OwnResult artifactId)
  | change (name : String) (content : Option StoredFile)

def RootStep.apply (root : StateRoot) : RootStep → StateRoot
  | .write artifactId time result =>
    root.put (writtenName artifactId time) (some (.ok (.result result.fields)))
  | .change name content => root.put name content

def runSteps (root : StateRoot) (steps : List RootStep) : StateRoot := steps.foldl RootStep.apply root

def RootStep.time? : RootStep → Option Text.Moment
  | .write _ time _ => some time
  | .change _ _ => none

/-- **The results are written at increasing times.** -/
def WritesInOrder (steps : List RootStep) : Prop :=
  (steps.filterMap RootStep.time?).Pairwise Text.Moment.Before

/-- Nothing but the writes puts a file that concerns the artifact behind this one, and nothing changes
this one once it is written. -/
structure Undisturbed (artifactId name : String) (root : StateRoot) (before after : List RootStep) :
    Prop where
  initial : ∀ file ∈ root.files, Relevant artifactId file → file.1 ≤ name
  changed : ∀ other content, .change other (some content) ∈ before ++ after →
    Relevant artifactId (other, content) → other ≤ name
  kept : ∀ content, .change name content ∉ after

def Bounded (artifactId name : String) (root : StateRoot) : Prop :=
  ∀ file ∈ root.files, Relevant artifactId file → file.1 ≤ name

theorem Bounded.put {limit : String} (bounded : Bounded artifactId limit root)
    (fits : ∀ put, content = some put → Relevant artifactId (name, put) → name ≤ limit) :
    Bounded artifactId limit (root.put name content) := by
  intro file among relevant
  rcases mem_replaced.mp among with ⟨own, held⟩ | ⟨kept, -⟩
  · subst own
    exact fits file.2 held relevant
  · exact bounded file kept relevant

theorem OwnResult.artifact {other : String} (result : OwnResult other)
    (concerned : Concerns artifactId (.ok (.result result.fields)) = true) : other = artifactId := by
  have own := holdsText_iff.mp result.named
  rw [holdsText_iff.mp concerned, Option.some.injEq, Json.str.injEq] at own
  exact own.symm

theorem bounded_before {time : Text.Moment} {steps : List RootStep}
    (bounded : Bounded artifactId (writtenName artifactId time) root)
    (earlier : ∀ moment ∈ steps.filterMap RootStep.time?, moment.Before time)
    (changed : ∀ other content, .change other (some content) ∈ steps →
      Relevant artifactId (other, content) → other ≤ writtenName artifactId time) :
    Bounded artifactId (writtenName artifactId time) (runSteps root steps) := by
  induction steps generalizing root with
  | nil => exact bounded
  | cons step steps ih =>
    refine @ih (step.apply root) ?_ ?_ ?_
    · cases step with
      | write other moment result =>
        refine bounded.put fun put held relevant => ?_
        cases held
        have own := result.artifact relevant.2
        subst own
        exact (writtenName_lt _ (earlier moment List.mem_cons_self)).le
      | change name content =>
        refine bounded.put fun put held => ?_
        subst held
        exact changed name put List.mem_cons_self
    · intro moment member
      refine earlier moment ?_
      rw [List.filterMap_cons]
      split
      · exact member
      · exact List.mem_cons_of_mem _ member
    · intro other content member
      exact changed other content (List.mem_cons_of_mem _ member)

/-- **A result that is written stays the newest**, whatever is written for others. -/
theorem newest_after {time : Text.Moment} {result : OwnResult artifactId} {steps : List RootStep}
    (written : (writtenName artifactId time, .ok (.result result.fields)) ∈ root.files)
    (bounded : Bounded artifactId (writtenName artifactId time) root)
    (later : ∀ moment ∈ steps.filterMap RootStep.time?, time.Before moment)
    (others : ∀ moment result, .write artifactId moment result ∉ steps)
    (changed : ∀ other content, .change other (some content) ∈ steps →
      Relevant artifactId (other, content) → other ≤ writtenName artifactId time)
    (kept : ∀ content, .change (writtenName artifactId time) content ∉ steps) :
    Newest artifactId (writtenName artifactId time, .ok (.result result.fields))
      (runSteps root steps) := by
  induction steps generalizing root with
  | nil =>
    have candidate := (isCandidate_writtenName_iff artifactId artifactId time).mpr (List.prefix_refl _)
    exact ⟨written, ⟨candidate, result.named⟩, bounded⟩
  | cons step steps ih =>
    refine @ih (step.apply root) ?_ ?_ ?_ ?_ ?_ ?_
    · cases step with
      | write other moment result' =>
        have different : writtenName artifactId time ≠ writtenName other moment :=
          (writtenName_ne artifactId other (later moment List.mem_cons_self)).symm
        have held : _ ∈ replaced (writtenName other moment) (some (.ok (.result result'.fields)))
          root.files := mem_replaced.mpr (.inr ⟨written, different⟩)
        exact held
      | change name content =>
        have different : writtenName artifactId time ≠ name := by
          rintro rfl
          exact kept content List.mem_cons_self
        exact mem_replaced.mpr (.inr ⟨written, different⟩)
    · cases step with
      | write other moment result' =>
        refine bounded.put fun put held relevant => ?_
        cases held
        have own := result'.artifact relevant.2
        subst own
        exact absurd List.mem_cons_self (others moment result')
      | change name content =>
        refine bounded.put fun put held => ?_
        subst held
        exact changed name put List.mem_cons_self
    · intro moment member
      refine later moment ?_
      rw [List.filterMap_cons]
      split
      · exact member
      · exact List.mem_cons_of_mem _ member
    · intro moment result' member
      exact others moment result' (List.mem_cons_of_mem _ member)
    · intro other content member
      exact changed other content (List.mem_cons_of_mem _ member)
    · intro content member
      exact kept content (List.mem_cons_of_mem _ member)

/-- **The last result that was written is read.** -/
theorem readStored_run {before after : List RootStep} {time : Text.Moment}
    {result : OwnResult artifactId} (stated : isBlank artifactId = false)
    (inOrder : WritesInOrder (before ++ .write artifactId time result :: after))
    (last : ∀ moment result, .write artifactId moment result ∉ after)
    (undisturbed : Undisturbed artifactId (writtenName artifactId time) root before after) :
    readStored host artifactId (runSteps root (before ++ .write artifactId time result :: after)) =
      .ok (.found result.fields) := by
  have times : (RootStep.write artifactId time result :: after).filterMap RootStep.time? =
      time :: after.filterMap RootStep.time? := rfl
  rw [WritesInOrder, List.filterMap_append, times, List.pairwise_append, List.pairwise_cons] at inOrder
  obtain ⟨-, ⟨later, -⟩, ordered⟩ := inOrder
  have earlier : ∀ moment ∈ before.filterMap RootStep.time?, moment.Before time := fun moment member =>
    ordered moment member time List.mem_cons_self
  have bounded : Bounded artifactId (writtenName artifactId time) (runSteps root before) :=
    bounded_before undisturbed.initial earlier fun other content member =>
      undisturbed.changed other content (List.mem_append_left _ member)
  let wrote := (runSteps root before).put (writtenName artifactId time) (some (.ok (.result result.fields)))
  have written : (writtenName artifactId time, .ok (.result result.fields)) ∈ wrote.files :=
    mem_replaced.mpr (.inl ⟨rfl, rfl⟩)
  have newest := newest_after written (bounded.put fun _ _ _ => le_rfl) later last
    (fun other content member => undisturbed.changed other content (List.mem_append_right _ member))
    undisturbed.kept
  have split : runSteps root (before ++ .write artifactId time result :: after) =
      runSteps wrote after := by
    rw [runSteps, List.foldl_append]
    rfl
  rw [split, readStored, if_neg (by rw [stated]; exact Bool.false_ne_true),
    readMatching_of_newest host newest]
  show Except.ok (FileContent.read host _ (.result result.fields)) = _
  rw [FileContent.read, if_pos result.ended]

/-! ### Isolation -/

/-- **Whose files are seen.** A change of a result file of another artifact is seen only where that file
is the newest that concerns the artifact, before the change or after it, and never where its name does
not match; and the last result that was written is read, where no newer file that concerns the artifact
has come from elsewhere. -/
theorem results_isolated (artifactId other : String) (root : StateRoot) :
    (∀ time content, ¬ Decides artifactId (writtenName other time) root →
      ¬ Decides artifactId (writtenName other time) (root.put (writtenName other time) content) →
      readStored host artifactId (root.put (writtenName other time) content) =
        readStored host artifactId root) ∧
    (¬ Collides artifactId other → ∀ time content,
      readStored host artifactId (root.put (writtenName other time) content) =
        readStored host artifactId root) ∧
    ∀ before time (result : OwnResult artifactId) after, isBlank artifactId = false →
      WritesInOrder (before ++ .write artifactId time result :: after) →
      (∀ moment result, .write artifactId moment result ∉ after) →
      Undisturbed artifactId (writtenName artifactId time) root before after →
      readStored host artifactId (runSteps root (before ++ .write artifactId time result :: after)) =
        .ok (.found result.fields) := by
  refine ⟨fun time content => readStored_put host, fun apart time content => ?_,
    fun before time result after => readStored_run host⟩
  have unmatched : ∀ root, ¬ Decides artifactId (writtenName other time) root := by
    rintro root ⟨content, newest⟩
    exact apart ((isCandidate_writtenName_iff artifactId other time).mp newest.relevant.1)
  exact readStored_put host (unmatched root) (unmatched _)

/-! ### An id that extends another -/

deriving instance DecidableEq for LastResult

def skippedFields (artifactId : String) : Dict := [("status", .str "skip"), ("artifact_id", .str artifactId)]

theorem skippedFields_named (artifactId : String) :
    holdsText (skippedFields artifactId) "artifact_id" artifactId = true := holdsText_iff.mpr rfl

def skippedResult (artifactId : String) : OwnResult artifactId where
  fields := skippedFields artifactId
  named := skippedFields_named artifactId
  ended := Eq.refl true

def momentAt (second : Fin (10 ^ 2)) : Text.Moment := ⟨2026, 1, 1, 0, 0, second, 0⟩

def twoWrites : List RootStep :=
  [.write "a" (momentAt 0) (skippedResult "a"), .write "a-b" (momentAt 1) (skippedResult "a-b")]

def emptyRoot : StateRoot := ⟨[], List.nodup_nil⟩

theorem foreign_distinct (file : String × StoredFile) : ([file].map Prod.fst).Nodup :=
  List.nodup_singleton _

def foreignRoot : StateRoot where
  files := [("a-99991231T000000000000Z.json", .ok (.corrupt "Expecting value: line 1 column 1 (char 0)"))]
  distinct := foreign_distinct _

theorem two_results_isolated :
    readStored plainHost "a" (runSteps emptyRoot twoWrites) = .ok (.found (skippedFields "a")) := by
  refine (results_isolated plainHost "a" "a-b" emptyRoot).2.2 [] (momentAt 0) (skippedResult "a")
    [.write "a-b" (momentAt 1) (skippedResult "a-b")] (by decide +kernel) ?_ ?_ ?_
  · exact List.pairwise_pair.mpr (by decide +kernel)
  · intro moment result member
    injection List.mem_singleton.mp member with same
    exact absurd same (by decide)
  · constructor
    · exact fun file member => by cases member
    · intro other content member
      cases List.mem_singleton.mp member
    · intro content member
      cases List.mem_singleton.mp member

/-- **What is read of `a` depends on a damaged file of `a-b`**; and a damaged file of a later time is read
instead of the result that was written. -/
theorem neighbour_seen :
    readStored plainHost "a" (runSteps emptyRoot twoWrites) = .ok (.found (skippedFields "a")) ∧
    readStored plainHost "a" ((runSteps emptyRoot twoWrites).put (writtenName "a-b" (momentAt 1))
      (some (.ok (.corrupt "Expecting value: line 1 column 1 (char 0)")))) =
        .ok (.damaged ("persisted result a-b-20260101T000001000000Z.json is corrupt: " ++
          "Expecting value: line 1 column 1 (char 0)")
          (plainHost.artifactsDir ++ "/a-b-20260101T000001000000Z.json") "corrupt") ∧
    readStored plainHost "a" (runSteps foreignRoot [.write "a" (momentAt 0) (skippedResult "a")]) =
      .ok (.damaged ("persisted result a-99991231T000000000000Z.json is corrupt: " ++
          "Expecting value: line 1 column 1 (char 0)")
          (plainHost.artifactsDir ++ "/a-99991231T000000000000Z.json") "corrupt") := by
  decide +kernel

end Audisor.ArtifactFlow
