/-
**Programs that ask their surroundings.**

* `Program S ε α` — a program that asks the questions of the signature `S`, one at a time, goes on
  with each answer, and ends with a value of `α` or raises an error of `ε`. It is a monad.
* `Environment S σ` — how a world `σ` answers, and how it changes; `Exec` — a program running
  against an environment, up to any point of its run.
* `Protocol S κ` — an abstract machine with states `κ` whose moves are questions with their answers.
  `Follows` — the program is simulated by the machine: whatever the answers, each question it asks is
  a move.
* **`Follows.exec_invariant`** — a property of world and machine that every move preserves holds at
  every point of every run of a program that follows the machine.
-/

import Mathlib.Data.List.Basic

namespace Interaction

/-- The questions a program may ask, and the answers to each. -/
structure Signature where
  Op : Type
  Ans : Op → Type

/-- A program over a signature. -/
inductive Program (S : Signature) (ε α : Type) where
  | done (value : α)
  | raise (error : ε)
  | ask (op : S.Op) (next : S.Ans op → Program S ε α)

variable {S : Signature} {ε α β γ σ κ : Type}

namespace Program

def andThen : Program S ε α → (α → Program S ε β) → Program S ε β
  | .done value, rest => rest value
  | .raise error, _ => .raise error
  | .ask op next, rest => .ask op fun answer => (next answer).andThen rest

instance : Monad (Program S ε) where
  pure := .done
  bind := andThen

@[simp] theorem done_bind (value : α) (rest : α → Program S ε β) :
    (Program.done value >>= rest) = rest value := rfl

@[simp] theorem pure_eq (value : α) : (pure value : Program S ε α) = .done value := rfl

@[simp] theorem raise_bind (error : ε) (rest : α → Program S ε β) :
    (Program.raise error >>= rest) = .raise error := rfl

@[simp] theorem ask_bind (op : S.Op) (next : S.Ans op → Program S ε α) (rest : α → Program S ε β) :
    (Program.ask op next >>= rest) = .ask op fun answer => next answer >>= rest := rfl

theorem bind_assoc' (program : Program S ε α) (first : α → Program S ε β)
    (second : β → Program S ε γ) :
    (program >>= first) >>= second = program >>= fun value => first value >>= second := by
  induction program with
  | done value => rfl
  | raise error => rfl
  | ask op next ih =>
    simp only [ask_bind]
    congr 1
    funext answer
    exact ih answer

theorem bind_done' (program : Program S ε α) : (program >>= Program.done) = program := by
  induction program with
  | done value => rfl
  | raise error => rfl
  | ask op next ih =>
    simp only [ask_bind]
    congr 1
    funext answer
    exact ih answer

instance : LawfulMonad (Program S ε) :=
  LawfulMonad.mk' _ (fun program => bind_done' program) (fun _ _ => rfl) bind_assoc'

def ofExcept : Except ε α → Program S ε α
  | .ok value => .done value
  | .error error => .raise error

@[simp] theorem ofExcept_ok (value : α) : (ofExcept (.ok value) : Program S ε α) = .done value := rfl

@[simp] theorem ofExcept_error (error : ε) :
    (ofExcept (.error error) : Program S ε α) = .raise error := rfl

end Program

def Program.Ended : Program S ε α → Prop
  | .done _ | .raise _ => True
  | .ask _ _ => False

instance (p : Program S ε α) : Decidable p.Ended :=
  match p with
  | .done _ | .raise _ => .isTrue trivial
  | .ask _ _ => .isFalse id

/-! ### Running against an environment -/

/-- How a world answers the questions, and what each answered question makes of it. -/
structure Environment (S : Signature) (σ : Type) where
  answers : σ → (op : S.Op) → S.Ans op → Prop
  next : σ → (op : S.Op) → S.Ans op → σ

/-- `Exec E w p w' p'`: run for a while from `w`, the program `p` has come to `p'` and the world
to `w'`. -/
inductive Exec (E : Environment S σ) : σ → Program S ε α → σ → Program S ε α → Prop
  | refl (w : σ) (p : Program S ε α) : Exec E w p w p
  | ask {w w' : σ} {op : S.Op} {next : S.Ans op → Program S ε α} {p' : Program S ε α}
      (answer : S.Ans op) (answered : E.answers w op answer)
      (rest : Exec E (E.next w op answer) (next answer) w' p') : Exec E w (.ask op next) w' p'

namespace Exec

variable {E : Environment S σ} {w w' w'' : σ} {p p' p'' : Program S ε α}

theorem trans (first : Exec E w p w' p') (second : Exec E w' p' w'' p'') : Exec E w p w'' p'' := by
  induction first with
  | refl w p => exact second
  | ask answer answered _ ih => exact .ask answer answered (ih second)

theorem bind {rest : α → Program S ε β} (run : Exec E w p w' p') :
    Exec E w (p >>= rest) w' (p' >>= rest) := by
  induction run with
  | refl w p => exact .refl _ _
  | ask answer answered _ ih => exact .ask answer answered ih

end Exec

/-! ### Following a protocol -/

/-- An abstract machine: its moves, and the states in which a program may end. -/
structure Protocol (S : Signature) (κ : Type) where
  Move : κ → (op : S.Op) → S.Ans op → κ → Prop
  Rest : κ → Prop

/-- The machine simulates the program from the state on, and `Q` holds where it ends with a value. -/
def Follows (P : Protocol S κ) : κ → Program S ε α → (κ → α → Prop) → Prop
  | k, .done value, Q => Q k value
  | k, .raise _, _ => P.Rest k
  | k, .ask op next, Q => ∀ answer, ∃ k', P.Move k op answer k' ∧ Follows P k' (next answer) Q

namespace Follows

variable {P : Protocol S κ} {k : κ} {Q R : κ → α → Prop}

theorem mono {p : Program S ε α} (follows : Follows P k p Q) (weaker : ∀ k a, Q k a → R k a) :
    Follows P k p R := by
  induction p generalizing k with
  | done value => exact weaker k value follows
  | raise error => exact follows
  | ask op next ih =>
    intro answer
    obtain ⟨k', move, rest⟩ := follows answer
    exact ⟨k', move, ih answer rest⟩

/-- **A sequence follows the machine when each part does**, the second from where the first ends. -/
theorem bind {p : Program S ε α} {rest : α → Program S ε β} {Q : κ → β → Prop}
    (follows : Follows P k p fun k' value => Follows P k' (rest value) Q) :
    Follows P k (p >>= rest) Q := by
  induction p generalizing k with
  | done value => exact follows
  | raise error => exact follows
  | ask op next ih =>
    intro answer
    obtain ⟨k', move, further⟩ := follows answer
    exact ⟨k', move, ih answer further⟩

/-- **A machine that simulates another** simulates what follows the other. -/
theorem lift {τ : Type} {P' : Protocol S τ} {R : κ → τ → Prop}
    (moves : ∀ k op answer k₁ l, P.Move k op answer k₁ → R k l →
      ∃ l₁, P'.Move l op answer l₁ ∧ R k₁ l₁)
    (rests : ∀ k l, P.Rest k → R k l → P'.Rest l) {p : Program S ε α} (follows : Follows P k p Q)
    {l : τ} (related : R k l) : Follows P' l p fun l' a => ∃ k', R k' l' ∧ Q k' a := by
  induction p generalizing k l with
  | done value => exact ⟨k, related, follows⟩
  | raise error => exact rests k l follows related
  | ask op next ih =>
    intro answer
    obtain ⟨k₁, move, further⟩ := follows answer
    obtain ⟨l₁, simulated, still⟩ := moves k op answer k₁ l move related
    exact ⟨l₁, simulated, ih answer further still⟩

theorem rest_of_ended {p : Program S ε α} (follows : Follows P k p fun k' _ => P.Rest k')
    (ended : p.Ended) : P.Rest k := by
  cases p with
  | done value => exact follows
  | raise error => exact follows
  | ask op next => exact ended.elim

/-- **The invariant rule.** What every move of the machine preserves holds, of the world and some
state of the machine that still simulates the program, wherever a run has come. -/
theorem exec_invariant {E : Environment S σ} (Inv : σ → κ → Prop)
    (step : ∀ w k op answer k', Inv w k → E.answers w op answer → P.Move k op answer k' →
      Inv (E.next w op answer) k')
    {w w' : σ} {p p' : Program S ε α} (run : Exec E w p w' p') :
    ∀ {k : κ}, Follows P k p Q → Inv w k → ∃ k', Follows P k' p' Q ∧ Inv w' k' := by
  induction run with
  | refl w p => exact fun {k} follows holds => ⟨k, follows, holds⟩
  | ask answer answered _ ih =>
    intro k follows holds
    obtain ⟨k', move, rest⟩ := follows answer
    exact ih rest (step _ _ _ _ _ holds answered move)

end Follows

end Interaction
