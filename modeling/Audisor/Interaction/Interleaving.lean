/-
**Interleaved programs, and how they end.**

* `Turn S` — an answered question of one thread. `logOf base turns` — the journal of the turns, on top
  of what was there before the threads began.
* `Interleaving answers base start threads turns` — from the programs `start`, one for each thread, the
  turns taken in any order have led to `threads`. A thread that takes no turn was not called yet.
* **`Interleaving.invariant`** — where each thread follows a protocol, what every move of every thread
  preserves holds at every point of every interleaving.
* `scheduled` — the turns of a schedule, each answered in one way.
* `Overtaken own other thread turns` — since the thread's own last turn of one kind, another thread
  took one of the other kind: what the thread knows may be stale.
* `Settles P k p Q R` — the machine `P` simulates the program from the state on; where the program
  ends with a value `Q` holds, and where it raises an error, `R`.
* `Program.raised?` — the error that a program has ended with.
* `Settles.bind`, `Settles.mono` — the rules of sequences and of weaker ends.
* **`Interleaving.settles`** — where each thread settles with its machine, what every move of every
  thread preserves holds at every point of every interleaving.
-/

import Audisor.Interaction.Journal
import Mathlib.Logic.Function.Basic

namespace Interaction

section

variable {S : Signature} {ε α κ : Type}

/-! ### Turns -/

/-- An answered question of one thread. -/
structure Turn (S : Signature) where
  thread : Nat
  event : Event S

def logOf (base : List (Event S)) (turns : List (Turn S)) : List (Event S) :=
  turns.map Turn.event ++ base

@[simp] theorem logOf_cons (base : List (Event S)) (turn : Turn S) (turns : List (Turn S)) :
    logOf base (turn :: turns) = turn.event :: logOf base turns := rfl

/-- Any number of threads take their turns in any order. -/
inductive Interleaving (answers : List (Event S) → (op : S.Op) → S.Ans op → Prop)
    (base : List (Event S)) (start : Nat → Program S ε α) :
    (Nat → Program S ε α) → List (Turn S) → Prop
  | start : Interleaving answers base start start []
  | turn {threads : Nat → Program S ε α} {turns : List (Turn S)} {op : S.Op}
      {next : S.Ans op → Program S ε α} (before : Interleaving answers base start threads turns)
      (thread : Nat) (answer : S.Ans op) (asks : threads thread = .ask op next)
      (answered : answers (logOf base turns) op answer) :
      Interleaving answers base start (Function.update threads thread (next answer))
        (⟨thread, op, answer⟩ :: turns)

variable {answers : List (Event S) → (op : S.Op) → S.Ans op → Prop} {base : List (Event S)}
  {start threads : Nat → Program S ε α} {turns : List (Turn S)}

/-- **The invariant rule of interleavings.** Each thread follows its protocol from its entry state;
what every move of every thread preserves holds of the turns taken and of states that still simulate
the threads. -/
theorem Interleaving.invariant {P : Nat → Protocol S κ} {Q : Nat → κ → α → Prop} {entry : Nat → κ}
    (run : Interleaving answers base start threads turns)
    (Inv : List (Turn S) → (Nat → κ) → Prop)
    (follows : ∀ thread, Follows (P thread) (entry thread) (start thread) (Q thread))
    (empty : Inv [] entry)
    (step : ∀ turns states (thread : Nat) (op : S.Op) (answer : S.Ans op) (state' : κ),
      Inv turns states → answers (logOf base turns) op answer →
      (P thread).Move (states thread) op answer state' →
      Inv (⟨thread, op, answer⟩ :: turns) (Function.update states thread state')) :
    ∃ states, (∀ thread, Follows (P thread) (states thread) (threads thread) (Q thread)) ∧
      Inv turns states := by
  induction run with
  | start => exact ⟨entry, follows, empty⟩
  | turn _ thread answer asks answered ih =>
    obtain ⟨states, simulated, holds⟩ := ih
    have asking := simulated thread
    rw [asks] at asking
    obtain ⟨state', move, further⟩ := asking answer
    refine ⟨Function.update states thread state', fun other => ?_,
      step _ _ thread _ answer state' holds answered move⟩
    by_cases same : other = thread
    · subst same
      rwa [Function.update_self, Function.update_self]
    · rw [Function.update_of_ne same, Function.update_of_ne same]
      exact simulated other

/-- **A thread that runs alone for a while takes its turns.** -/
theorem Interleaving.solo (before : Interleaving answers base start threads turns) (thread : Nat)
    {log : List (Event S)} {program : Program S ε α}
    (alone : Exec (journal answers) (logOf base turns) (threads thread) log program) :
    ∃ turns', Interleaving answers base start (Function.update threads thread program) turns' ∧
      logOf base turns' = log := by
  generalize at_ : logOf base turns = earlier at alone
  generalize begun : threads thread = first at alone
  induction alone generalizing threads turns with
  | refl log program =>
    refine ⟨turns, ?_, at_⟩
    rwa [← begun, Function.update_eq_self]
  | @ask _ _ op next program answer answered _ ih =>
    subst at_
    have after := before.turn thread answer begun answered
    obtain ⟨turns', rest, log⟩ := ih after rfl (Function.update_self ..)
    exact ⟨turns', by rwa [Function.update_idem] at rest, log⟩

/-! ### Schedules -/

def scheduledTurn (answer : List (Event S) → (op : S.Op) → S.Ans op)
    (point : (Nat → Program S ε α) × List (Turn S)) (thread : Nat) :
    (Nat → Program S ε α) × List (Turn S) :=
  match point.1 thread with
  | .ask op next =>
    let given := answer (logOf [] point.2) op
    (Function.update point.1 thread (next given), ⟨thread, op, given⟩ :: point.2)
  | _ => point

def scheduled (answer : List (Event S) → (op : S.Op) → S.Ans op) (start : Nat → Program S ε α)
    (schedule : List Nat) : (Nat → Program S ε α) × List (Turn S) :=
  schedule.foldl (scheduledTurn answer) (start, [])

/-- **The turns of a schedule are an interleaving.** -/
theorem interleaving_scheduled {answer : List (Event S) → (op : S.Op) → S.Ans op}
    (answered : ∀ log op, answers log op (answer log op)) (start : Nat → Program S ε α)
    (schedule : List Nat) :
    Interleaving answers [] start (scheduled answer start schedule).1
      (scheduled answer start schedule).2 := by
  suffices further : ∀ point : (Nat → Program S ε α) × List (Turn S),
      Interleaving answers [] start point.1 point.2 →
      Interleaving answers [] start (schedule.foldl (scheduledTurn answer) point).1
        (schedule.foldl (scheduledTurn answer) point).2 from further (start, []) .start
  induction schedule with
  | nil => exact fun _ before => before
  | cons thread rest ih =>
    intro point before
    refine ih _ ?_
    unfold scheduledTurn
    split
    · rename_i op next asks
      exact before.turn thread _ asks (answered _ _)
    · exact before

/-! ### Stale threads -/

/-- Since its own last turn of the first kind, another thread took one of the second. -/
def Overtaken (own : Event S → Prop) (other : Turn S → Prop) (thread : Nat) :
    List (Turn S) → Prop
  | [] => False
  | turn :: older =>
    if turn.thread = thread then ¬ own turn.event ∧ Overtaken own other thread older
    else other turn ∨ Overtaken own other thread older

section Overtaken

variable {own : Event S → Prop} {other : Turn S → Prop} {thread : Nat} {turn : Turn S}

instance instDecidableOvertaken [DecidablePred own] [DecidablePred other] (thread : Nat) :
    (turns : List (Turn S)) → Decidable (Overtaken own other thread turns)
  | [] => .isFalse id
  | turn :: older =>
    have : Decidable (Overtaken own other thread older) := instDecidableOvertaken thread older
    inferInstanceAs (Decidable (if turn.thread = thread then _ else _))

theorem not_overtaken_own (mine : turn.thread = thread) (looks : own turn.event) :
    ¬ Overtaken own other thread (turn :: turns) := by
  rw [Overtaken, if_pos mine]
  exact fun overtaken => overtaken.1 looks

theorem overtaken_own_iff (mine : turn.thread = thread) (blind : ¬ own turn.event) :
    Overtaken own other thread (turn :: turns) ↔ Overtaken own other thread turns := by
  rw [Overtaken, if_pos mine]
  exact and_iff_right blind

theorem overtaken_other_iff (theirs : turn.thread ≠ thread) :
    Overtaken own other thread (turn :: turns) ↔
      other turn ∨ Overtaken own other thread turns := by
  rw [Overtaken, if_neg theirs]

end Overtaken

end

variable {S : Signature} {ε α β κ : Type}

def Program.raised? : Program S ε α → Option ε
  | .raise error => some error
  | .done _ | .ask _ _ => none

theorem Program.raised?_eq_some {p : Program S ε α} {error : ε} :
    p.raised? = some error ↔ p = .raise error := by
  cases p with
  | raise other => exact Option.some_inj.trans ⟨congrArg _, Program.raise.inj⟩
  | done value => exact iff_of_false (by rintro ⟨⟩) (by rintro ⟨⟩)
  | ask op next => exact iff_of_false (by rintro ⟨⟩) (by rintro ⟨⟩)

/-- The machine simulates the program, up to its value or its error. -/
def Settles (P : Protocol S κ) : κ → Program S ε α → (κ → α → Prop) → (κ → ε → Prop) → Prop
  | k, .done value, Q, _ => Q k value
  | k, .raise error, _, R => R k error
  | k, .ask op next, Q, R =>
    ∀ answer, ∃ k', P.Move k op answer k' ∧ Settles P k' (next answer) Q R

section

variable {P : Protocol S κ} {k : κ} {Q : κ → α → Prop} {R : κ → ε → Prop}

theorem Settles.mono {Q' : κ → α → Prop} {R' : κ → ε → Prop} {p : Program S ε α}
    (settles : Settles P k p Q R) (values : ∀ k a, Q k a → Q' k a)
    (errors : ∀ k e, R k e → R' k e) : Settles P k p Q' R' := by
  induction p generalizing k with
  | done value => exact values k value settles
  | raise error => exact errors k error settles
  | ask op next ih =>
    intro answer
    obtain ⟨k', move, rest⟩ := settles answer
    exact ⟨k', move, ih answer rest⟩

/-- **A sequence settles when each part does**, and an error of the first is one of the sequence. -/
theorem Settles.bind {p : Program S ε α} {rest : α → Program S ε β} {Q : κ → β → Prop}
    (settles : Settles P k p (fun k' value => Settles P k' (rest value) Q R) R) :
    Settles P k (p >>= rest) Q R := by
  induction p generalizing k with
  | done value => exact settles
  | raise error => exact settles
  | ask op next ih =>
    intro answer
    obtain ⟨k', move, further⟩ := settles answer
    exact ⟨k', move, ih answer further⟩

theorem settles_ofExcept {result : Except ε α} {rest : α → Program S ε β} {Q : κ → β → Prop}
    (values : ∀ value, result = .ok value → Settles P k (rest value) Q R)
    (errors : ∀ error, result = .error error → R k error) :
    Settles P k (Program.ofExcept result >>= rest) Q R := by
  cases result with
  | ok value => exact values value rfl
  | error error => exact errors error rfl

end

variable {answers : List (Event S) → (op : S.Op) → S.Ans op → Prop} {base : List (Event S)}
  {start threads : Nat → Program S ε α} {turns : List (Turn S)}

/-- **The invariant rule of interleavings**, with the values and errors of the threads. -/
theorem Interleaving.settles {P : Nat → Protocol S κ} {Q : Nat → κ → α → Prop}
    {R : Nat → κ → ε → Prop} {entry : Nat → κ}
    (run : Interleaving answers base start threads turns)
    (Inv : List (Turn S) → (Nat → κ) → Prop)
    (each : ∀ thread, Settles (P thread) (entry thread) (start thread) (Q thread) (R thread))
    (empty : Inv [] entry)
    (step : ∀ turns states (thread : Nat) (op : S.Op) (answer : S.Ans op) (state' : κ),
      Inv turns states → answers (logOf base turns) op answer →
      (P thread).Move (states thread) op answer state' →
      Inv (⟨thread, op, answer⟩ :: turns) (Function.update states thread state')) :
    ∃ states,
      (∀ thread, Settles (P thread) (states thread) (threads thread) (Q thread) (R thread)) ∧
        Inv turns states := by
  induction run with
  | start => exact ⟨entry, each, empty⟩
  | turn _ thread answer asks answered ih =>
    obtain ⟨states, simulated, holds⟩ := ih
    have asking := simulated thread
    rw [asks] at asking
    obtain ⟨state', move, further⟩ := asking answer
    refine ⟨Function.update states thread state', fun other => ?_,
      step _ _ thread _ answer state' holds answered move⟩
    by_cases same : other = thread
    · subst same
      rwa [Function.update_self, Function.update_self]
    · rw [Function.update_of_ne same, Function.update_of_ne same]
      exact simulated other

end Interaction
