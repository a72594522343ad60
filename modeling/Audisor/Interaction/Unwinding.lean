/-
**Noninterference, by unwinding.**

* `Machine σ κ β` — what an action answers, and the world that it leaves.
* `Machine.seen`, `Machine.after` — the answers to the visible actions of a run, and the last world.
* **`Machine.unwinding`** — where hidden actions leave what is viewed, and visible ones answer from
  it, the hidden actions can be left out of a run.
* `Alike view p` — from worlds that look alike, a computation gives one result and leaves worlds that
  look alike. `Quiet view p` — it leaves what is viewed.
* `Program.served` — a program, by a world that answers each question in one way. `exec_served` — it
  is a run.
-/

import Audisor.Interaction.Outcome
import Audisor.Interaction.Stateful

namespace Interaction

variable {S : Signature} {σ κ β ν ε α γ : Type}

/-! ### Machines -/

/-- What an action answers, and the world that it leaves. -/
abbrev Machine (σ κ β : Type) := κ → σ → β × σ

namespace Machine

variable (M : Machine σ κ β)

def after : List κ → σ → σ
  | [], w => w
  | action :: rest, w => after rest (M action w).2

def seen (visible : κ → Bool) : List κ → σ → List β
  | [], _ => []
  | action :: rest, w =>
    if visible action then (M action w).1 :: seen visible rest (M action w).2
    else seen visible rest (M action w).2

variable {M} {visible : κ → Bool}

/-- **The unwinding rule.** A run looks as if its hidden actions had not been taken. -/
theorem unwinding (view : σ → ν) {actions : List κ}
    (quiet : ∀ action ∈ actions, visible action = false → ∀ w, view (M action w).2 = view w)
    (alike : ∀ action ∈ actions, visible action = true → ∀ w w', view w = view w' →
      (M action w).1 = (M action w').1 ∧ view (M action w).2 = view (M action w').2)
    {w w' : σ} (same : view w = view w') :
    M.seen visible actions w = M.seen visible (actions.filter visible) w' ∧
      view (M.after actions w) = view (M.after (actions.filter visible) w') := by
  induction actions generalizing w w' with
  | nil => exact ⟨rfl, same⟩
  | cons action rest ih =>
    obtain ⟨still, others⟩ := List.forall_mem_cons.mp quiet
    obtain ⟨here, later⟩ := List.forall_mem_cons.mp alike
    cases shown : visible action with
    | true =>
      obtain ⟨answer, next⟩ := here shown w w' same
      obtain ⟨answers, last⟩ := ih others later next
      rw [List.filter_cons_of_pos shown]
      simp only [seen, shown, if_true, after]
      exact ⟨List.cons_eq_cons.mpr ⟨answer, answers⟩, last⟩
    | false =>
      have hidden : ¬ visible action = true := Bool.eq_false_iff.mp shown
      rw [List.filter_cons_of_neg hidden]
      simp only [seen, if_neg hidden, after]
      exact ih others later ((still shown w).trans same)

theorem after_quiet (view : σ → ν) {actions : List κ}
    (quiet : ∀ action ∈ actions, ∀ w, view (M action w).2 = view w) (w : σ) :
    view (M.after actions w) = view w := by
  induction actions generalizing w with
  | nil => rfl
  | cons action rest ih =>
    obtain ⟨still, others⟩ := List.forall_mem_cons.mp quiet
    exact (ih others _).trans (still w)

end Machine

/-! ### Computations -/

def Quiet (view : σ → ν) (p : Run σ ε α) : Prop := ∀ w, view (p w).2 = view w

/-- From worlds that look alike, a computation gives one result, and leaves worlds that look alike. -/
def Alike (view : σ → ν) (p : Run σ ε α) : Prop :=
  ∀ w w', view w = view w' → (p w).1 = (p w').1 ∧ view (p w).2 = view (p w').2

section

variable {view : σ → ν}

theorem Quiet.pure (value : α) : Quiet view (pure value : Run σ ε α) := fun _ => rfl

theorem Quiet.look (read : σ → α) : Quiet view (Run.look read : Run σ ε α) := fun _ => rfl

theorem Quiet.bind {p : Run σ ε α} {next : α → Run σ ε γ} (first : Quiet view p)
    (rest : ∀ value, Quiet view (next value)) : Quiet view (p >>= next) := by
  intro w
  have before := first w
  rw [run_bind]
  split
  · rename_i value w' returned
    rw [returned] at before
    exact (rest value w').trans before
  · rename_i error w' raised
    rw [raised] at before
    exact before

theorem Alike.pure (value : α) : Alike view (pure value : Run σ ε α) := fun _ _ same => ⟨rfl, same⟩

theorem Alike.raise (error : ε) : Alike view (Run.raise error : Run σ ε α) :=
  fun _ _ same => ⟨rfl, same⟩

theorem Alike.look {read : σ → α} (viewed : ∀ w w', view w = view w' → read w = read w') :
    Alike view (Run.look read : Run σ ε α) :=
  fun w w' same => ⟨congrArg Except.ok (viewed w w' same), same⟩

theorem Alike.change {update : σ → σ}
    (viewed : ∀ w w', view w = view w' → view (update w) = view (update w')) :
    Alike view (Run.change update : Run σ ε Unit) := fun w w' same => ⟨rfl, viewed w w' same⟩

theorem Alike.bind {p : Run σ ε α} {next : α → Run σ ε γ} (first : Alike view p)
    (rest : ∀ value, Alike view (next value)) : Alike view (p >>= next) := by
  intro w w' same
  obtain ⟨result, left⟩ := first w w' same
  simp only [run_bind]
  generalize p w = ended at result left ⊢
  generalize p w' = other at result left ⊢
  obtain ⟨one, here⟩ := ended
  obtain ⟨two, there⟩ := other
  cases (result : one = two)
  cases one with
  | ok value => exact rest value here there left
  | error error => exact ⟨rfl, left⟩

end

/-! ### Programs -/

/-- A program, by a world that answers each question in one way. -/
def Program.served (answer : σ → (op : S.Op) → S.Ans op) (next : σ → (op : S.Op) → S.Ans op → σ) :
    Program S ε α → Run σ ε α
  | .done value => fun w => (.ok value, w)
  | .raise error => fun w => (.error error, w)
  | .ask op rest => fun w => (rest (answer w op)).served answer next (next w op (answer w op))

section

variable {answer : σ → (op : S.Op) → S.Ans op}
  {next : σ → (op : S.Op) → S.Ans op → σ} {allowed : S.Op → Prop} {p : Program S ε α}

/-- **A program that is served is run**, by an environment that gives such answers. -/
theorem exec_served {E : Environment S σ} (answers : ∀ w op, E.answers w op (answer w op))
    (p : Program S ε α) (w : σ) :
    Exec E w p (p.served answer E.next w).2 (.ofExcept (p.served answer E.next w).1) := by
  induction p generalizing w with
  | done value => exact .refl _ _
  | raise error => exact .refl _ _
  | ask op rest ih => exact .ask (answer w op) (answers w op) (ih _ _)

/-- **A program whose questions leave what is viewed.** -/
theorem Program.Asks.quiet (asks : p.Asks allowed) (view : σ → ν)
    (still : ∀ op, allowed op → ∀ w answer, view (next w op answer) = view w) :
    Quiet view (p.served answer next) := by
  induction p with
  | done value => exact fun _ => rfl
  | raise error => exact fun _ => rfl
  | ask op rest ih =>
    intro w
    exact (ih _ (asks.2 _) _).trans (still op asks.1 w _)

/-- **A program whose questions are answered from what is viewed.** -/
theorem Program.Asks.alike (asks : p.Asks allowed) (view : σ → ν)
    (answers : ∀ op, allowed op → ∀ w w', view w = view w' → answer w op = answer w' op)
    (follows : ∀ op, allowed op → ∀ w w' answer, view w = view w' →
      view (next w op answer) = view (next w' op answer)) :
    Alike view (p.served answer next) := by
  induction p with
  | done value => exact fun _ _ same => ⟨rfl, same⟩
  | raise error => exact fun _ _ same => ⟨rfl, same⟩
  | ask op rest ih =>
    intro w w' same
    have answered := answers op asks.1 w w' same
    simp only [Program.served, ← answered]
    exact ih _ (asks.2 _) _ _ (follows op asks.1 w w' _ same)

end

end Interaction
