/-
**Computations that may raise.**

* `refuse` — `if bad: raise error`.
* `bind_eq_ok`, `bind_eq_error` — a sequence returns when its parts do, and raises what one raises.
* `mapM_eq_ok` — a loop that builds a list returns when every round does, and gives what they give.
* `forM_eq_ok` — a loop that only checks.
* `mapM_returns`, `mapM_map` — when such a loop returns, and what it gives on a mapped list.
* `Raises` — every error of a computation has a property. `Raises.bind` carries it along a sequence.
-/

import Mathlib.Data.List.Forall2

namespace Checked

variable {ε α β : Type}

/-- `if bad: raise error`. -/
def refuse (bad : Prop) [Decidable bad] (error : ε) : Except ε Unit :=
  if bad then .error error else .ok ()

@[simp] theorem refuse_eq_ok {bad : Prop} [Decidable bad] {error : ε} {done : Unit} :
    refuse bad error = .ok done ↔ ¬ bad := by
  unfold refuse
  split <;> simp_all

theorem bind_eq_ok {first : Except ε α} {next : α → Except ε β} {result : β} :
    (first >>= next) = .ok result ↔ ∃ value, first = .ok value ∧ next value = .ok result := by
  cases first with
  | error raised => exact iff_of_false nofun fun ⟨_, same, _⟩ => nomatch same
  | ok value => exact ⟨fun rest => ⟨value, rfl, rest⟩, fun ⟨_, same, rest⟩ => by cases same; exact rest⟩

theorem then_eq_ok {check : Except ε Unit} {next : Except ε β} {result : β} :
    (check >>= fun _ => next) = .ok result ↔ check = .ok () ∧ next = .ok result := by
  rw [bind_eq_ok]
  exact ⟨fun ⟨_, passed, rest⟩ => ⟨passed, rest⟩, fun ⟨passed, rest⟩ => ⟨(), passed, rest⟩⟩

theorem bind_eq_error {first : Except ε α} {next : α → Except ε β} {error : ε} :
    (first >>= next) = .error error ↔
      first = .error error ∨ ∃ value, first = .ok value ∧ next value = .error error := by
  cases first with
  | error raised =>
    constructor
    · intro same
      cases same
      exact .inl rfl
    · rintro (same | ⟨_, absent, _⟩)
      · cases same
        rfl
      · cases absent
  | ok value =>
    constructor
    · exact fun rest => .inr ⟨value, rfl, rest⟩
    · rintro (absent | ⟨_, same, rest⟩)
      · cases absent
      · cases same
        exact rest

theorem pure_eq_ok {value other : α} : (pure value : Except ε α) = .ok other ↔ value = other :=
  ⟨fun same => by cases same; rfl, fun same => same ▸ rfl⟩

/-- **A loop returns what its rounds return.** -/
theorem mapM_eq_ok {read : α → Except ε β} {items : List α} {results : List β} :
    items.mapM read = .ok results ↔
      List.Forall₂ (fun item result => read item = .ok result) items results := by
  induction items generalizing results with
  | nil =>
    rw [List.mapM_nil, List.forall₂_nil_left_iff]
    exact ⟨fun same => by cases same; rfl, fun same => by rw [same]; rfl⟩
  | cons item rest ih =>
    simp only [List.mapM_cons, bind_eq_ok, ih]
    constructor
    · rintro ⟨result, here, others, there, built⟩
      cases built
      exact .cons here there
    · intro built
      cases built with
      | cons here there => exact ⟨_, here, _, there, rfl⟩

/-- **A loop for its checks returns when every round does.** -/
theorem forM_eq_ok {check : α → Except ε Unit} {items : List α} :
    items.forM check = .ok () ↔ ∀ item ∈ items, check item = .ok () := by
  induction items with
  | nil => exact iff_of_true rfl fun item member => nomatch member
  | cons item rest ih =>
    have walk : (item :: rest).forM check = (check item >>= fun _ => rest.forM check) := rfl
    rw [walk, bind_eq_ok, List.forall_mem_cons, ← ih]
    constructor
    · rintro ⟨_, here, there⟩
      exact ⟨here, there⟩
    · rintro ⟨here, there⟩
      exact ⟨(), here, there⟩

theorem exists_mem_of_forall₂ {related : α → β → Prop} {items : List α} {results : List β}
    (each : List.Forall₂ related items results) {result : β} (member : result ∈ results) :
    ∃ item ∈ items, related item result := by
  induction each with
  | nil => cases member
  | cons here _ ih =>
    rcases List.mem_cons.mp member with rfl | member
    · exact ⟨_, List.mem_cons_self, here⟩
    · obtain ⟨item, among, there⟩ := ih member
      exact ⟨item, List.mem_cons_of_mem _ among, there⟩

theorem mapM_eq_some {read : α → Option β} {items : List α} {results : List β} :
    items.mapM read = some results ↔ items.map read = results.map some := by
  induction items generalizing results with
  | nil => cases results <;> simp
  | cons item rest ih =>
    rw [List.mapM_cons, List.map_cons]
    cases here : read item with
    | none => cases results <;> simp
    | some result =>
      cases results with
      | nil => cases there : rest.mapM read <;> simp
      | cons first others =>
        rw [List.map_cons, List.cons.injEq, ← ih]
        cases there : rest.mapM read <;> simp

theorem mapM_returns {read : α → Except ε β} {items : List α} :
    (∃ results, items.mapM read = .ok results) ↔ ∀ item ∈ items, ∃ result, read item = .ok result := by
  simp only [mapM_eq_ok]
  induction items with
  | nil => simp
  | cons item rest ih =>
    rw [List.forall_mem_cons, ← ih]
    constructor
    · rintro ⟨results, built⟩
      cases built with
      | cons here there => exact ⟨⟨_, here⟩, _, there⟩
    · rintro ⟨⟨_, here⟩, _, there⟩
      exact ⟨_, .cons here there⟩

theorem mapM_map {γ : Type} {read : β → Except ε γ} {write : α → β} {items : List α}
    {result : α → γ} (each : ∀ item ∈ items, read (write item) = .ok (result item)) :
    (items.map write).mapM read = .ok (items.map result) := by
  rw [mapM_eq_ok, List.forall₂_map_left_iff, List.forall₂_map_right_iff, List.forall₂_same]
  exact each

theorem mapM_map_iff {γ : Type} {read : β → Except ε γ} {write : α → β} {condition : α → Prop}
    {value : α → γ} {items : List α} {results : List γ}
    (each : ∀ item ∈ items, ∀ result,
      read (write item) = .ok result ↔ condition item ∧ value item = result) :
    (items.map write).mapM read = .ok results ↔
      (∀ item ∈ items, condition item) ∧ items.map value = results := by
  rw [mapM_eq_ok, List.forall₂_map_left_iff]
  induction items generalizing results with
  | nil => simp [List.forall₂_nil_left_iff, eq_comm]
  | cons item rest ih =>
    obtain ⟨here, later⟩ := List.forall_mem_cons.mp each
    rw [List.forall₂_cons_left_iff, List.forall_mem_cons]
    constructor
    · rintro ⟨result, others, first, built, rfl⟩
      obtain ⟨met, rfl⟩ := (here result).mp first
      obtain ⟨all, rfl⟩ := (ih later).mp built
      exact ⟨⟨met, all⟩, rfl⟩
    · rintro ⟨⟨met, all⟩, rfl⟩
      exact ⟨_, _, (here _).mpr ⟨met, rfl⟩, (ih later).mpr ⟨all, rfl⟩, rfl⟩

/-- Every error that a computation raises has the property. -/
def Raises (property : ε → Prop) (computation : Except ε α) : Prop :=
  ∀ error, computation = .error error → property error

theorem Raises.ok (property : ε → Prop) (value : α) : Raises property (.ok value : Except ε α) := nofun

/-- **A sequence raises what its parts raise.** -/
theorem Raises.bind {property : ε → Prop} {first : Except ε α} {next : α → Except ε β}
    (here : Raises property first) (later : ∀ value, first = .ok value → Raises property (next value)) :
    Raises property (first >>= next) := by
  cases first with
  | error raised =>
    intro error same
    cases same
    exact here raised rfl
  | ok value => exact later value rfl

end Checked
