/-
**Computations on a world, which may raise.**

* `Run` — from a world, a value or an exception, and the world that is left: what was done before an
  exception stays done.
* `Run.raise`, `Run.change`, `Run.tryCatch` — the statements of such programs.
* `Ends` — what holds of the value or of the exception, and of the world that is left. `ends_bind` is
  the rule for a sequence.
* `Frame` — a relation that every run keeps between the world before and the world after.
* `WorldPart`, `Run.zoom` — a computation on a part of a world.
-/

/-- A computation on worlds of type `σ`. -/
def Run (σ ε α : Type) : Type := σ → Except ε α × σ

namespace Run

variable {σ ε α β : Type}

/-- One computation, and the next from the world that it leaves. -/
def andThen (first : Run σ ε α) (next : α → Run σ ε β) : Run σ ε β := fun w =>
  match first w with
  | (.ok value, w') => next value w'
  | (.error error, w') => (.error error, w')

instance : Monad (Run σ ε) where
  pure value := fun w => (.ok value, w)
  bind := andThen

/-- `raise error`. -/
def raise (error : ε) : Run σ ε α := fun w => (.error error, w)

def ofExcept (result : Except ε α) : Run σ ε α := fun w => (result, w)

def look (read : σ → α) : Run σ ε α := fun w => (.ok (read w), w)

def change (update : σ → σ) : Run σ ε Unit := fun w => (.ok (), update w)

/-- `try: .. except error: ..`. -/
def tryCatch (body : Run σ ε α) (handle : ε → Run σ ε α) : Run σ ε α := fun w =>
  match body w with
  | (.ok value, w') => (.ok value, w')
  | (.error error, w') => handle error w'

end Run

variable {σ ε α β : Type}

/-! ### Sequences -/

@[simp] theorem run_pure (value : α) (w : σ) : (pure value : Run σ ε α) w = (.ok value, w) := rfl

theorem run_bind (p : Run σ ε α) (next : α → Run σ ε β) (w : σ) :
    (p >>= next) w =
      match p w with
      | (.ok value, w') => next value w'
      | (.error error, w') => (.error error, w') := rfl

theorem run_bind_ok {p : Run σ ε α} {next : α → Run σ ε β} {w w' : σ} {value : α}
    (returned : p w = (.ok value, w')) : (p >>= next) w = next value w' := by
  rw [run_bind, returned]

theorem run_bind_fst {p : Run σ ε α} {next : α → Run σ ε β} {w : σ} {value : α}
    (returned : (p w).1 = .ok value) : ((p >>= next) w).1 = (next value (p w).2).1 := by
  rw [run_bind_ok (Prod.ext returned rfl)]

theorem run_bind_error {p : Run σ ε α} {next : α → Run σ ε β} {w w' : σ} {error : ε}
    (raised : p w = (.error error, w')) : (p >>= next) w = (.error error, w') := by
  rw [run_bind, raised]

@[simp] theorem run_ofExcept (result : Except ε α) (w : σ) : Run.ofExcept result w = (result, w) := rfl

@[simp] theorem run_look (read : σ → α) (w : σ) :
    (Run.look read : Run σ ε α) w = (.ok (read w), w) := rfl

@[simp] theorem run_change (update : σ → σ) (w : σ) :
    (Run.change update : Run σ ε Unit) w = (.ok (), update w) := rfl

/-! ### Ends of a run -/

/-- A run from `w` that returns ends in `Q`, and one that raises ends in `X`. -/
def Ends (p : Run σ ε α) (w : σ) (Q : α → σ → Prop) (X : ε → σ → Prop) : Prop :=
  match p w with
  | (.ok value, w') => Q value w'
  | (.error error, w') => X error w'

section

variable {p : Run σ ε α} {w w' : σ} {Q R : α → σ → Prop} {X Y : ε → σ → Prop}

theorem ends_pure {value : α} (holds : Q value w) : Ends (pure value : Run σ ε α) w Q X := holds

theorem ends_raise {error : ε} (holds : X error w) : Ends (Run.raise error : Run σ ε α) w Q X :=
  holds

/-- **The rule for a sequence.** -/
theorem ends_bind {next : α → Run σ ε β} {Q : β → σ → Prop}
    (first : Ends p w (fun value w' => Ends (next value) w' Q X) X) :
    Ends (p >>= next) w Q X := by
  unfold Ends at first ⊢
  rw [run_bind]
  split at first <;> exact first

theorem Ends.mono (ends : Ends p w Q X) (value : ∀ a w', Q a w' → R a w')
    (error : ∀ e w', X e w' → Y e w') : Ends p w R Y := by
  unfold Ends at ends ⊢
  split at ends
  · exact value _ _ ends
  · exact error _ _ ends

theorem Ends.and (first : Ends p w Q X) (second : Ends p w R Y) :
    Ends p w (fun a w' => Q a w' ∧ R a w') fun e w' => X e w' ∧ Y e w' := by
  unfold Ends at first second ⊢
  generalize p w = outcome at first second ⊢
  obtain ⟨result, after⟩ := outcome
  cases result <;> exact ⟨first, second⟩

theorem Ends.of_ok (ends : Ends p w Q X) {value : α} (returned : p w = (.ok value, w')) :
    Q value w' := by
  unfold Ends at ends
  rwa [returned] at ends

theorem Ends.of_error (ends : Ends p w Q X) {error : ε} (raised : p w = (.error error, w')) :
    X error w' := by
  unfold Ends at ends
  rwa [raised] at ends

theorem ends_of_ok {value : α} (returned : p w = (.ok value, w')) (holds : Q value w') :
    Ends p w Q X := by
  unfold Ends
  rwa [returned]

theorem Ends.returns (ends : Ends p w Q fun _ _ => False) :
    ∃ value after, p w = (.ok value, after) ∧ Q value after := by
  unfold Ends at ends
  generalize p w = outcome at ends ⊢
  obtain ⟨result, after⟩ := outcome
  cases result with
  | ok value => exact ⟨value, after, rfl, ends⟩
  | error error => exact ends.elim

theorem ends_ofExcept {result : Except ε α} (value : ∀ a, result = .ok a → Q a w)
    (error : ∀ e, result = .error e → X e w) : Ends (Run.ofExcept result : Run σ ε α) w Q X := by
  unfold Ends Run.ofExcept
  cases result with
  | ok a => exact value a rfl
  | error e => exact error e rfl

end

/-! ### Frames -/

/-- Every run of `p` keeps `R` between the world before and the world after. -/
def Frame (R : σ → σ → Prop) (p : Run σ ε α) : Prop := ∀ w, R w (p w).2

theorem Frame.pure {R : σ → σ → Prop} (refl : ∀ w, R w w) (value : α) :
    Frame R (pure value : Run σ ε α) := refl

theorem frame_of_ends {R : σ → σ → Prop} {p : Run σ ε α}
    (ends : ∀ w, Ends p w (fun _ w' => R w w') fun _ w' => R w w') : Frame R p := by
  intro w
  have kept := ends w
  unfold Ends at kept
  generalize p w = outcome at kept ⊢
  obtain ⟨result, after⟩ := outcome
  cases result <;> exact kept

theorem Frame.ofExcept {R : σ → σ → Prop} (refl : ∀ w, R w w) (result : Except ε α) :
    Frame R (Run.ofExcept result : Run σ ε α) := refl

theorem Frame.bind {R : σ → σ → Prop} (trans : ∀ a b c, R a b → R b c → R a c) {p : Run σ ε α}
    {next : α → Run σ ε β} (first : Frame R p) (rest : ∀ value, Frame R (next value)) :
    Frame R (p >>= next) := by
  intro w
  have before := first w
  rw [run_bind]
  split
  · rename_i value w' returned
    rw [returned] at before
    exact trans _ _ _ before (rest value w')
  · rename_i error w' raised
    rw [raised] at before
    exact before

theorem Frame.ends {R : σ → σ → Prop} {p : Run σ ε α} (frame : Frame R p) (w : σ) :
    Ends p w (fun _ w' => R w w') fun _ w' => R w w' := by
  have kept := frame w
  unfold Ends
  generalize p w = outcome at kept ⊢
  obtain ⟨result, w'⟩ := outcome
  cases result <;> exact kept

/-! ### Parts of a world -/

/-- A part of a world. -/
structure WorldPart (σ τ : Type) where
  get : σ → τ
  put : τ → σ → σ

def Run.zoom {τ : Type} (part : WorldPart σ τ) (p : Run τ ε α) : Run σ ε α := fun w =>
  ((p (part.get w)).1, part.put (p (part.get w)).2 w)

theorem run_zoom {τ : Type} {part : WorldPart σ τ} {p : Run τ ε α} {w : σ} {result : Except ε α} {t : τ}
    (ran : p (part.get w) = (result, t)) : Run.zoom part p w = (result, part.put t w) := by
  unfold Run.zoom
  rw [ran]

theorem ends_zoom {τ : Type} {part : WorldPart σ τ} {p : Run τ ε α} {w : σ} {Q : α → σ → Prop}
    {X : ε → σ → Prop}
    (ends : Ends p (part.get w) (fun value t => Q value (part.put t w))
      fun error t => X error (part.put t w)) : Ends (Run.zoom part p) w Q X := by
  unfold Ends Run.zoom at *
  generalize p (part.get w) = outcome at *
  obtain ⟨result, t⟩ := outcome
  cases result <;> exact ends
