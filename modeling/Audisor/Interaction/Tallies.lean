/-
**Counted questions, and what a journal adds up to.**

* `credits counted` — the machine whose state is the number of counted questions that a program may
  still ask: a counted question takes one credit, and any other takes none.
* `asked counted log` — how many counted questions a journal has.
* **`Follows.spent`** — a run spends what the machine loses: the counted questions it has asked, with
  the credits left, are the credits it began with.
* `tallying add` — the machine that applies `add` to every answered question, and allows every
  question.
* `tally add start log` — what a journal makes of the start.
* `Idle add op` — the question adds nothing, whatever the answer.
* **`Follows.tallied`** — where a program follows the machine, its result agrees with what the
  journal of the run adds up to.

Programs follow the machine by the rules of any protocol; `follows_uncounted` is the one for the moves
that cost nothing.
-/

import Audisor.Interaction.Outcome
import Audisor.Interaction.Scripted

namespace Interaction

section

variable {S : Signature} {ε α β : Type} {counted : S.Op → Prop} {credit : Nat}

/-- A counted question takes one credit, and any other takes none. -/
def credits (counted : S.Op → Prop) : Protocol S Nat where
  Move credit op _ left := (counted op ∧ credit = left + 1) ∨ (¬ counted op ∧ credit = left)
  Rest _ := True

theorem follows_uncounted {op : S.Op} {next : S.Ans op → Program S ε α} {Q : Nat → α → Prop}
    (free : ¬ counted op) (further : ∀ answer, Follows (credits counted) credit (next answer) Q) :
    Follows (credits counted) credit (.ask op next) Q :=
  fun answer => ⟨credit, Or.inr ⟨free, rfl⟩, further answer⟩

def asked (counted : S.Op → Prop) [DecidablePred counted] (log : List (Event S)) : Nat :=
  log.countP fun event => counted event.op

section Asked

variable [DecidablePred counted] {answers : List (Event S) → (op : S.Op) → S.Ans op → Prop}
  {log log' : List (Event S)} {p p' : Program S ε α} {Q : Nat → α → Prop}

@[simp] theorem asked_append (new log : List (Event S)) :
    asked counted (new ++ log) = asked counted new + asked counted log := List.countP_append

theorem asked_cons (event : Event S) (log : List (Event S)) :
    asked counted (event :: log) = asked counted log + if counted event.op then 1 else 0 := by
  simp [asked, List.countP_cons]

/-- **A run spends what the machine loses.** -/
theorem Follows.spent (run : Exec (journal answers) log p log' p')
    (follows : Follows (credits counted) credit p Q) :
    ∃ left, Follows (credits counted) left p' Q ∧
      asked counted log' + left = asked counted log + credit := by
  refine Follows.exec_invariant
    (fun log' left => asked counted log' + left = asked counted log + credit) ?_ run follows rfl
  intro journaled before op answer left spent _ move
  show asked counted (⟨op, answer⟩ :: journaled) + left = _
  rw [asked_cons]
  rcases move with ⟨counts, rfl⟩ | ⟨free, rfl⟩
  · rw [if_pos counts]
    omega
  · rw [if_neg free]
    omega

theorem Follows.asked_le (run : Exec (journal answers) log p log' p')
    (follows : Follows (credits counted) credit p Q) :
    asked counted log' ≤ asked counted log + credit := by
  obtain ⟨left, _, spent⟩ := follows.spent run
  omega

end Asked

end

variable {S : Signature} {ε α β κ : Type} {add : κ → (op : S.Op) → S.Ans op → κ} {k : κ}

/-- The machine that applies `add` to every answered question. -/
def tallying (add : κ → (op : S.Op) → S.Ans op → κ) : Protocol S κ where
  Move := fun k op answer k' => k' = add k op answer
  Rest := fun _ => True

def tally (add : κ → (op : S.Op) → S.Ans op → κ) (start : κ) : List (Event S) → κ
  | [] => start
  | event :: older => add (tally add start older) event.op event.answer

def Idle (add : κ → (op : S.Op) → S.Ans op → κ) (op : S.Op) : Prop :=
  ∀ k answer, add k op answer = k

theorem tally_append (start : κ) (newer older : List (Event S)) :
    tally add start (newer ++ older) = tally add (tally add start older) newer := by
  induction newer with
  | nil => rfl
  | cons event rest ih => rw [List.cons_append, tally, tally, ih]

theorem Program.returns_true (p : Program S ε α) : p.Returns fun _ => True := by
  induction p with
  | done value => trivial
  | raise error => trivial
  | ask op next ih => exact fun answer => ih answer

/-! ### Following the machine -/

theorem follows_tallied {op : S.Op} {next : S.Ans op → Program S ε α} {Q : κ → α → Prop}
    (further : ∀ answer, Follows (tallying add) (add k op answer) (next answer) Q) :
    Follows (tallying add) k (.ask op next) Q :=
  fun answer => ⟨add k op answer, rfl, further answer⟩

/-- **What asks idle questions only, adds nothing.** -/
theorem Program.Asks.adds_nothing {p : Program S ε α} {R : α → Prop} (asks : p.Asks (Idle add))
    (returns : p.Returns R) : Follows (tallying add) k p fun k' value => k' = k ∧ R value := by
  induction p with
  | done value => exact ⟨rfl, returns⟩
  | raise error => trivial
  | ask op next ih =>
    intro answer
    refine ⟨k, (asks.1 k answer).symm, ?_⟩
    exact ih answer (asks.2 answer) (returns answer)

theorem Program.Asks.then_adds {p : Program S ε α} {rest : α → Program S ε β} {R : α → Prop}
    {Q : κ → β → Prop} (asks : p.Asks (Idle add)) (returns : p.Returns R)
    (further : ∀ value, R value → Follows (tallying add) k (rest value) Q) :
    Follows (tallying add) k (p >>= rest) Q := by
  refine Follows.bind ((asks.adds_nothing returns).mono ?_)
  rintro k' value ⟨rfl, holds⟩
  exact further value holds

theorem Program.Returns.adds {p : Program S ε α} {R : α → Prop} (returns : p.Returns R) :
    Follows (tallying add) k p fun _ value => R value := by
  induction p generalizing k with
  | done value => exact returns
  | raise error => trivial
  | ask op next ih => exact follows_tallied fun answer => ih answer (returns answer)

theorem follows_tallied_ofExcept {result : Except ε β} {rest : β → Program S ε α} {Q : κ → α → Prop}
    (further : ∀ value, result = .ok value → Follows (tallying add) k (rest value) Q) :
    Follows (tallying add) k (Program.ofExcept result >>= rest) Q := by
  cases result with
  | ok value => exact further value rfl
  | error error => trivial

/-! ### Runs -/

theorem exec_resultOf {script : Script S} {p : Program S ε α} {value : α}
    (result : p.resultOf script [] = .ok value) :
    Exec (journal fun _ _ _ => True) [] p (p.journalOf script []) (.done value) := by
  have run : Exec (journal fun _ _ _ => True) [] p (p.journalOf script [])
      (ended (p.resultOf script [])) := exec_journalOf (fun _ _ => trivial) p []
  rw [result] at run
  exact run

/-- **A run adds up to what its journal adds up to.** -/
theorem Follows.tallied {answers : List (Event S) → (op : S.Op) → S.Ans op → Prop}
    {log : List (Event S)} {p p' : Program S ε α} {Q : κ → α → Prop}
    (run : Exec (journal answers) [] p log p') (follows : Follows (tallying add) k p Q) :
    Follows (tallying add) (tally add k log) p' Q := by
  obtain ⟨k', further, rfl⟩ := Follows.exec_invariant
    (fun log k' => k' = tally add k log)
    (by
      rintro log k₀ op answer k₁ rfl _ rfl
      rfl)
    run follows rfl
  exact further

end Interaction
