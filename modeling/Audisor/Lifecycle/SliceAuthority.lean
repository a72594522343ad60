/-
**What the slices of a state authorize.**

* `LiesIn`, `IsLocked` — the slices that a target lies in, and those that are locked.
* `sliceObjection_clear` — a target passes when the first slice that it lies in is locked.
  **`authorizes_iff`** — a mutation is authorized when every target passes.
* `SetLaw` — a mutation is authorized when every target lies in a locked slice and in no other, whatever
  the order of the slices and of the targets.
* **`setLaw_iff`** — this holds exactly when no target lies both in a locked slice and in another one, or
  some target lies in no locked slice.
-/

import Audisor.Lifecycle.MutationGate

namespace Audisor.Lifecycle

open Checked Json Text

/-! ### Slices -/

def WellFormedSlice (slice : Json) : Prop :=
  ∃ fields status paths, slice = .obj fields ∧ get? fields "status" = some status ∧
    get? fields "allowed_paths" = some (.arr (List.map .str paths))

def LiesIn (target : String) (slice : Json) : Prop :=
  ∃ fields paths, slice = .obj fields ∧
    get? fields "allowed_paths" = some (.arr (List.map .str paths)) ∧
      ∃ path ∈ paths, isInside target path = true

/-- The status of the slice is `locked`. -/
def IsLocked (slice : Json) : Prop :=
  ∃ fields, slice = .obj fields ∧ get? fields "status" = some (.str "locked")

theorem liesIn_iff {target : String} {fields : Dict} {paths : List String}
    (listed : get? fields "allowed_paths" = some (.arr (List.map .str paths))) :
    LiesIn target (.obj fields) ↔ ∃ path ∈ paths, isInside target path = true := by
  constructor
  · rintro ⟨other, texts, same, found, inside⟩
    obtain rfl := Json.obj.inj same
    have texts_eq : List.map Json.str paths = List.map Json.str texts :=
      Json.arr.inj (Option.some.inj (listed.symm.trans found))
    rw [List.map_injective_iff.mpr (fun _ _ => Json.str.inj) texts_eq]
    exact inside
  · exact fun inside => ⟨fields, paths, rfl, listed, inside⟩

theorem isLocked_iff {fields : Dict} :
    IsLocked (.obj fields) ↔ holdsText fields "status" "locked" = true := by
  rw [holdsText_iff]
  constructor
  · rintro ⟨other, same, stated⟩
    rw [Json.obj.inj same]
    exact stated
  · exact fun stated => ⟨fields, rfl, stated⟩

theorem anyInside_texts (target : String) (paths : List String) :
    anyInside target (List.map .str paths) = .ok (paths.any (isInside target)) := by
  induction paths with
  | nil => rfl
  | cons path rest ih =>
    rw [List.map_cons, anyInside, List.any_cons]
    cases isInside target path with
    | true => rfl
    | false => exact ih

/-! ### The first slice decides -/

variable {host : HookHost} {target : String} {targets : List String} {state slices : Dict}

def FirstLocked (target : String) (slices : Dict) : Prop :=
  ∃ before entry behind, slices = before ++ entry :: behind ∧
    (∀ other ∈ before, ¬ LiesIn target other.2) ∧ LiesIn target entry.2 ∧ IsLocked entry.2

theorem firstLocked_cons_inside {entry : String × Json} {rest : Dict}
    (inside : LiesIn target entry.2) :
    FirstLocked target (entry :: rest) ↔ IsLocked entry.2 := by
  constructor
  · rintro ⟨before, first, behind, split, outside, _, locked⟩
    cases before with
    | nil =>
      obtain ⟨rfl, -⟩ := List.cons.inj split
      exact locked
    | cons other before =>
      obtain ⟨rfl, -⟩ := List.cons.inj split
      exact absurd inside (outside entry List.mem_cons_self)
  · exact fun locked => ⟨[], entry, rest, rfl, List.forall_mem_nil _, inside, locked⟩

theorem firstLocked_cons_outside {entry : String × Json} {rest : Dict}
    (outside : ¬ LiesIn target entry.2) :
    FirstLocked target (entry :: rest) ↔ FirstLocked target rest := by
  constructor
  · rintro ⟨before, first, behind, split, apart, inside, locked⟩
    cases before with
    | nil =>
      obtain ⟨rfl, -⟩ := List.cons.inj split
      exact absurd inside outside
    | cons other before =>
      obtain ⟨rfl, below⟩ := List.cons.inj split
      exact ⟨before, first, behind, below, (List.forall_mem_cons.mp apart).2, inside, locked⟩
  · rintro ⟨before, first, behind, rfl, apart, inside, locked⟩
    exact ⟨entry :: before, first, behind, rfl, List.forall_mem_cons.mpr ⟨outside, apart⟩, inside,
      locked⟩

/-- **A target passes when the first slice that it lies in is locked.** -/
theorem sliceObjection_clear (wellFormed : ∀ entry ∈ slices, WellFormedSlice entry.2) :
    sliceObjection host target slices = .ok none ↔ FirstLocked target slices := by
  induction slices with
  | nil =>
    refine iff_of_false (by simp [sliceObjection]) ?_
    rintro ⟨before, entry, behind, split, _⟩
    cases before <;> cases split
  | cons entry rest ih =>
    obtain ⟨key, slice⟩ := entry
    obtain ⟨⟨fields, status, paths, rfl, _, listed⟩, others⟩ := List.forall_mem_cons.mp wellFormed
    have allowed : getD fields "allowed_paths" (.arr []) = .arr (List.map .str paths) := by
      rw [getD, listed, Option.getD_some]
    have lies : LiesIn target (.obj fields) ↔ paths.any (isInside target) = true := by
      rw [liesIn_iff listed, List.any_eq_true]
    rw [sliceObjection, allowed]
    simp only [anyInside_texts]
    cases inside : paths.any (isInside target) with
    | true =>
      rw [firstLocked_cons_inside (lies.mpr inside), isLocked_iff]
      cases locked : holdsText fields "status" "locked" <;> simp [bind, Except.bind, pure, Except.pure]
    | false =>
      rw [firstLocked_cons_outside (mt lies.mp (by simp [inside])), ← ih others]
      rfl

theorem slicesObjection_clear :
    slicesObjection host slices targets = .ok none ↔
      ∀ target ∈ targets, sliceObjection host target slices = .ok none := by
  induction targets with
  | nil => exact iff_of_true rfl (List.forall_mem_nil _)
  | cons target rest ih =>
    rw [slicesObjection, List.forall_mem_cons, ← ih]
    cases found : sliceObjection host target slices with
    | error raised => simp [bind, Except.bind]
    | ok objection => cases objection <;> simp [bind, Except.bind, pure, Except.pure]

theorem firstLocked_front {front rest : Dict} {locked : Prop}
    (some : ∃ entry ∈ front, LiesIn target entry.2)
    (uniform : ∀ entry ∈ front, LiesIn target entry.2 → (IsLocked entry.2 ↔ locked)) :
    FirstLocked target (front ++ rest) ↔ locked := by
  induction front with
  | nil =>
    obtain ⟨_, member, _⟩ := some
    cases member
  | cons entry front ih =>
    rw [List.cons_append]
    by_cases inside : LiesIn target entry.2
    · rw [firstLocked_cons_inside inside]
      exact uniform entry List.mem_cons_self inside
    · rw [firstLocked_cons_outside inside]
      refine ih ?_ fun other member => uniform other (List.mem_cons_of_mem _ member)
      obtain ⟨other, member, within⟩ := some
      rcases List.mem_cons.mp member with rfl | member
      · exact absurd within inside
      · exact ⟨other, member, within⟩

theorem FirstLocked.locked (first : FirstLocked target slices) :
    ∃ entry ∈ slices, LiesIn target entry.2 ∧ IsLocked entry.2 := by
  obtain ⟨before, entry, behind, rfl, _, inside, locked⟩ := first
  exact ⟨entry, List.mem_append_right _ List.mem_cons_self, inside, locked⟩

/-! ### States with slices -/

/-- **A state whose slices decide**: a schema version of at least 2, and a mapping of slices that is not
empty, each with a status and a list of path strings. -/
structure Sliced (state slices : Dict) : Prop where
  version : less (getD state "schema_version" (.int 1)) (.int 2) = some false
  held : get? state "slices" = some (.obj slices)
  some : slices ≠ []
  keys : (slices.map Prod.fst).Nodup
  wellFormed : ∀ entry ∈ slices, WellFormedSlice entry.2

def withSlices (state slices : Dict) : Dict := set state "slices" (.obj slices)

theorem Sliced.reordered {others : Dict} (sliced : Sliced state slices)
    (reordered : others.Perm slices) : Sliced (withSlices state others) others where
  version := by
    rw [withSlices, getD, get?_set_of_ne _ _ (by decide)]
    exact sliced.version
  held := get?_set_self _ _ _
  some none := sliced.some (List.Perm.eq_nil (reordered.symm.trans (by rw [none])))
  keys := (reordered.map Prod.fst).nodup_iff.mpr sliced.keys
  wellFormed entry member := sliced.wellFormed entry (reordered.mem_iff.mp member)

/-- `_check_slice_authority` authorizes the mutation of the targets. -/
def Authorizes (host : HookHost) (state : Dict) (targets : List String) : Prop :=
  ∃ reason, checkSliceAuthority host state targets = .ok (true, reason)

/-- **A mutation is authorized when every target passes.** -/
theorem authorizes_iff (sliced : Sliced state slices) :
    Authorizes host state targets ↔ ∀ target ∈ targets, FirstLocked target slices := by
  have each : (∀ target ∈ targets, FirstLocked target slices) ↔
      slicesObjection host slices targets = .ok none := by
    rw [slicesObjection_clear]
    exact forall₂_congr fun target _ => (sliceObjection_clear sliced.wellFormed).symm
  obtain ⟨first, rest, split⟩ := List.exists_cons_of_ne_nil sliced.some
  rw [each, Authorizes, checkSliceAuthority, sliced.version, getD, sliced.held, Option.getD_some, split]
  simp only
  rw [← split, entries_of_nodup sliced.keys]
  cases found : slicesObjection host slices targets with
  | error raised => simp [bind, Except.bind]
  | ok objection => cases objection <;> simp [bind, Except.bind, pure, Except.pure]

/-! ### The law -/

/-- Every target lies in at least one locked slice, and in no slice with another status. -/
def EachLocked (slices : Dict) (targets : List String) : Prop :=
  ∀ target ∈ targets, (∃ entry ∈ slices, LiesIn target entry.2 ∧ IsLocked entry.2) ∧
    ∀ entry ∈ slices, LiesIn target entry.2 → IsLocked entry.2

/-- **Slice authority is a set law**: it is given when each target is in locked slices only, whatever the
order of the slices and of the targets. -/
structure SetLaw (host : HookHost) (state slices : Dict) (targets : List String) : Prop where
  law : Authorizes host state targets ↔ EachLocked slices targets
  unordered : ∀ others reordered, others.Perm slices → reordered.Perm targets →
    (Authorizes host (withSlices state others) reordered ↔ Authorizes host state targets)

/-- The target lies in a locked slice and in one with another status. -/
def Disputed (slices : Dict) (target : String) : Prop :=
  (∃ entry ∈ slices, LiesIn target entry.2 ∧ IsLocked entry.2) ∧
    ∃ entry ∈ slices, LiesIn target entry.2 ∧ ¬ IsLocked entry.2

def Unlocked (slices : Dict) (target : String) : Prop :=
  ∀ entry ∈ slices, LiesIn target entry.2 → ¬ IsLocked entry.2

theorem firstLocked_undisputed (undisputed : ¬ Disputed slices target) :
    FirstLocked target slices ↔ ∃ entry ∈ slices, LiesIn target entry.2 ∧ IsLocked entry.2 := by
  refine ⟨FirstLocked.locked, fun ⟨entry, member, inside, locked⟩ => ?_⟩
  have uniform : ∀ other ∈ slices, LiesIn target other.2 → (IsLocked other.2 ↔ True) := by
    intro other listed within
    refine iff_of_true ?_ trivial
    by_contra unlocked
    exact undisputed ⟨⟨entry, member, inside, locked⟩, other, listed, within, unlocked⟩
  rw [← List.append_nil slices, firstLocked_front ⟨entry, member, inside⟩ uniform]
  trivial

theorem disputed_perm {others : Dict} (reordered : others.Perm slices) :
    Disputed others target ↔ Disputed slices target := by
  simp only [Disputed, reordered.mem_iff]

section

open Classical

noncomputable def lockedFirst (slices : Dict) : Dict :=
  slices.filter (fun entry => decide (IsLocked entry.2)) ++
    slices.filter fun entry => !decide (IsLocked entry.2)

noncomputable def lockedLast (slices : Dict) : Dict :=
  slices.filter (fun entry => !decide (IsLocked entry.2)) ++
    slices.filter fun entry => decide (IsLocked entry.2)

theorem lockedFirst_perm (slices : Dict) : (lockedFirst slices).Perm slices :=
  List.filter_append_perm _ _

theorem lockedLast_perm (slices : Dict) : (lockedLast slices).Perm slices :=
  List.perm_append_comm.trans (List.filter_append_perm _ _)

theorem firstLocked_lockedFirst
    (locked : ∃ entry ∈ slices, LiesIn target entry.2 ∧ IsLocked entry.2) :
    FirstLocked target (lockedFirst slices) := by
  obtain ⟨entry, member, inside, locked⟩ := locked
  refine (firstLocked_front ⟨entry, List.mem_filter.mpr ⟨member, decide_eq_true locked⟩, inside⟩
    fun other listed _ => ?_).mpr trivial
  exact iff_of_true (of_decide_eq_true (List.mem_filter.mp listed).2) trivial

theorem not_firstLocked_lockedLast
    (unlocked : ∃ entry ∈ slices, LiesIn target entry.2 ∧ ¬ IsLocked entry.2) :
    ¬ FirstLocked target (lockedLast slices) := by
  obtain ⟨entry, member, inside, unlocked⟩ := unlocked
  have listed : entry ∈ slices.filter fun entry => !decide (IsLocked entry.2) :=
    List.mem_filter.mpr ⟨member, by simpa using unlocked⟩
  refine (firstLocked_front ⟨entry, listed, inside⟩ fun other listed _ => ?_).mp
  exact iff_of_false (by simpa using (List.mem_filter.mp listed).2) not_false

end

/-- Two slices, of which the first is locked and contains the second. -/
def nestedSlices : Dict :=
  [("runtime", .obj [("status", .str "locked"), ("allowed_paths", .arr [.str "src"])]),
    ("core", .obj [("status", .str "blocked"), ("allowed_paths", .arr [.str "src/core"])])]

def nestedState : Dict := [("schema_version", .int 2), ("slices", .obj nestedSlices)]

theorem nestedState_sliced : Sliced nestedState nestedSlices where
  version := rfl
  held := rfl
  some := List.cons_ne_nil _ _
  keys := by decide
  wellFormed := List.forall_mem_cons.mpr ⟨⟨_, _, ["src"], rfl, rfl, rfl⟩,
    List.forall_mem_singleton.mpr ⟨_, _, ["src/core"], rfl, rfl, rfl⟩⟩

theorem nestedSlices_runtime :
    LiesIn "src/core/app.py" (.obj [("status", .str "locked"), ("allowed_paths", .arr [.str "src"])]) :=
  ⟨_, ["src"], rfl, rfl, "src", List.mem_singleton_self _, by decide +kernel⟩

theorem nestedSlices_core : LiesIn "src/core/app.py"
    (.obj [("status", .str "blocked"), ("allowed_paths", .arr [.str "src/core"])]) :=
  ⟨_, ["src/core"], rfl, rfl, "src/core", List.mem_singleton_self _, by decide +kernel⟩

theorem nestedSlices_blocked : ¬ IsLocked
    (.obj [("status", .str "blocked"), ("allowed_paths", .arr [.str "src/core"])]) := by
  rw [isLocked_iff]
  decide

/-- **Slice authority is a set law exactly when no target is disputed**, or some target lies in no locked
slice. -/
theorem setLaw_iff (sliced : Sliced state slices) :
    SetLaw host state slices targets ↔
      (∃ target ∈ targets, Unlocked slices target) ∨ ∀ target ∈ targets, ¬ Disputed slices target := by
  have reordered {others : Dict} {order : List String} (perm : others.Perm slices)
      (shuffled : order.Perm targets) :
      Authorizes host (withSlices state others) order ↔
        ∀ target ∈ targets, FirstLocked target others := by
    rw [authorizes_iff (sliced.reordered perm)]
    exact forall_congr' fun target => imp_congr shuffled.mem_iff Iff.rfl
  constructor
  · intro law
    by_contra both
    simp only [not_or, not_exists, not_and, Unlocked, not_forall, not_not] at both
    obtain ⟨locked, target, asked, disputed⟩ := both
    have first : Authorizes host state targets := by
      rw [← law.unordered _ targets (lockedFirst_perm slices) (List.Perm.refl _),
        reordered (lockedFirst_perm slices) (List.Perm.refl _)]
      intro other member
      obtain ⟨entry, listed, inside, unopened⟩ := locked other member
      exact firstLocked_lockedFirst ⟨entry, listed, inside, unopened⟩
    rw [← law.unordered _ targets (lockedLast_perm slices) (List.Perm.refl _),
      reordered (lockedLast_perm slices) (List.Perm.refl _)] at first
    exact not_firstLocked_lockedLast disputed.2 (first target asked)
  · rintro (⟨target, asked, unlocked⟩ | undisputed)
    · have denied {others : Dict} {order : List String} (perm : others.Perm slices)
          (shuffled : order.Perm targets) : ¬ Authorizes host (withSlices state others) order := by
        rw [reordered perm shuffled]
        intro all
        obtain ⟨entry, member, inside, locked⟩ := (all target asked).locked
        exact unlocked entry (perm.mem_iff.mp member) inside locked
      have refused : ¬ Authorizes host state targets := by
        rw [authorizes_iff sliced]
        intro all
        obtain ⟨entry, member, inside, locked⟩ := (all target asked).locked
        exact unlocked entry member inside locked
      refine ⟨iff_of_false refused fun each => ?_, fun others order perm shuffled =>
        iff_of_false (denied perm shuffled) refused⟩
      obtain ⟨⟨entry, member, inside, locked⟩, _⟩ := each target asked
      exact unlocked entry member inside locked
    · have passes : ∀ target ∈ targets, (FirstLocked target slices ↔
          ∃ entry ∈ slices, LiesIn target entry.2 ∧ IsLocked entry.2) :=
        fun target asked => firstLocked_undisputed (undisputed target asked)
      constructor
      · rw [authorizes_iff sliced]
        refine forall₂_congr fun target asked => (passes target asked).trans ?_
        refine ⟨fun locked => ⟨locked, fun entry member inside => ?_⟩, And.left⟩
        by_contra unlocked
        exact undisputed target asked ⟨locked, entry, member, inside, unlocked⟩
      · intro others order perm shuffled
        rw [reordered perm shuffled, authorizes_iff sliced]
        refine forall₂_congr fun target asked => ?_
        rw [passes target asked,
          firstLocked_undisputed (mt (disputed_perm perm).mp (undisputed target asked))]
        simp only [perm.mem_iff]

theorem setLaw_nested : SetLaw plainHost nestedState nestedSlices ["src/core/app.py"] ↔
    (∃ target ∈ ["src/core/app.py"], Unlocked nestedSlices target) ∨
      ∀ target ∈ ["src/core/app.py"], ¬ Disputed nestedSlices target :=
  setLaw_iff nestedState_sliced

/-- **A target in a slice that is not locked is authorized** by a locked slice in front of it, and denied
when the two change places. -/
theorem nested_authorized :
    Sliced nestedState nestedSlices ∧ Authorizes plainHost nestedState ["src/core/app.py"] ∧
      ¬ EachLocked nestedSlices ["src/core/app.py"] ∧
      ¬ Authorizes plainHost (withSlices nestedState nestedSlices.reverse) ["src/core/app.py"] := by
  refine ⟨nestedState_sliced, ?_, fun each => ?_, fun authorized => ?_⟩
  · refine (authorizes_iff nestedState_sliced).mpr (List.forall_mem_singleton.mpr ?_)
    exact (firstLocked_cons_inside nestedSlices_runtime).mpr ⟨_, rfl, rfl⟩
  · refine nestedSlices_blocked ((each _ (List.mem_singleton_self _)).2
      ("core", .obj [("status", .str "blocked"), ("allowed_paths", .arr [.str "src/core"])])
      (List.mem_cons_of_mem _ (List.mem_singleton_self _)) nestedSlices_core)
  · have all := (authorizes_iff (nestedState_sliced.reordered (List.reverse_perm _))).mp authorized
    have first := all _ (List.mem_singleton_self _)
    exact nestedSlices_blocked ((firstLocked_cons_inside nestedSlices_core).mp first)

end Audisor.Lifecycle
