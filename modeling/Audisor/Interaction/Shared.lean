/-
**Interleavings over a shared world.**

* `Environment.after` — the world that a journal of answered questions has left.
* `Environment.journaled` — answers that depend on that world.
* `Interleaving.asks`, `Interleaving.answered` — the turns ask what the programs ask, and were answered.
* **`Interleaving.world_invariant`** — what every turn preserves holds of the shared world.
-/

import Audisor.Interaction.Interleaving
import Audisor.Interaction.Outcome

namespace Interaction

variable {S : Signature} {ε α σ : Type}

/-! ### Worlds -/

def Environment.after (E : Environment S σ) (first : σ) : List (Event S) → σ
  | [] => first
  | event :: older => E.next (E.after first older) event.op event.answer

def Environment.journaled (E : Environment S σ) (first : σ) (log : List (Event S)) (op : S.Op)
    (answer : S.Ans op) : Prop := E.answers (E.after first log) op answer

/-! ### Turns -/

variable {answers : List (Event S) → (op : S.Op) → S.Ans op → Prop} {base : List (Event S)}
  {start threads : Nat → Program S ε α} {turns : List (Turn S)}

theorem Interleaving.asks {allowed : S.Op → Prop}
    (run : Interleaving answers base start threads turns)
    (each : ∀ thread, (start thread).Asks allowed) :
    (∀ thread, (threads thread).Asks allowed) ∧ ∀ turn ∈ turns, allowed turn.event.op := by
  induction run with
  | start => exact ⟨each, fun turn among => nomatch among⟩
  | @turn threads turns op next _ thread answer asks _ ih =>
    obtain ⟨asked, earlier⟩ := ih
    have asking := asked thread
    rw [asks] at asking
    refine ⟨fun other => ?_, List.forall_mem_cons.mpr ⟨asking.1, earlier⟩⟩
    by_cases same : other = thread
    · rw [same, Function.update_self]
      exact asking.2 answer
    · rw [Function.update_of_ne same]
      exact asked other

theorem Interleaving.answered (run : Interleaving answers [] start threads turns) :
    Always (fun older event => answers older event.op event.answer) (logOf [] turns) := by
  induction run with
  | start => trivial
  | turn _ _ _ _ answered ih => exact ⟨answered, ih⟩

/-- **The invariant rule of a shared world.** What every answered, allowed event that meets a condition
preserves, holds after all turns of a run whose events meet it. -/
theorem Interleaving.world_invariant {E : Environment S σ} {first : σ} {allowed : S.Op → Prop}
    {condition : List (Event S) → Event S → Prop} (Inv : σ → Prop) (empty : Inv first)
    (step : ∀ older event, Inv (E.after first older) →
      E.answers (E.after first older) event.op event.answer → allowed event.op →
      condition older event → Inv (E.next (E.after first older) event.op event.answer))
    (run : Interleaving (E.journaled first) [] start threads turns)
    (each : ∀ thread, (start thread).Asks allowed) (met : Always condition (logOf [] turns)) :
    Inv (E.after first (logOf [] turns)) := by
  have asked := (run.asks each).2
  have answered := run.answered
  clear run
  induction turns with
  | nil => exact empty
  | cons turn older ih =>
    obtain ⟨here, earlier⟩ := List.forall_mem_cons.mp asked
    exact step _ turn.event (ih met.2 earlier answered.2) answered.1 here met.1

end Interaction
