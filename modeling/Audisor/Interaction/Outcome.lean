/-
**What a program asks, and how its runs end.**

* `Program.Asks allowed p` — whatever the answers, `p` asks allowed questions only. `Exec.asked` — so
  the journal of a run gets allowed questions only.
* `Outcome E w p Q` — every run of `p` from `w` that comes to an end, ends in `Q`. Its rules follow the
  program: `outcome_ask`, `outcome_bind`.
* `exists_outcome` — where every question has an answer, some run comes to an end.
* `Embedding S T` — the questions of `S` as questions of `T`, with their answers.
* `Program.within` — a program over `S` that asks them of `T`.
* `Asks.within`, `asks_within` — what it may ask.
-/

import Audisor.Interaction.Journal

namespace Interaction

section

variable {S : Signature} {ε α β σ : Type}

/-! ### The questions of a program -/

def Program.Asks (allowed : S.Op → Prop) : Program S ε α → Prop
  | .done _ | .raise _ => True
  | .ask op next => allowed op ∧ ∀ answer, (next answer).Asks allowed

section Asks

variable {allowed : S.Op → Prop}

theorem Program.Asks.mono {permitted : S.Op → Prop} {p : Program S ε α} (asks : p.Asks allowed)
    (weaker : ∀ op, allowed op → permitted op) : p.Asks permitted := by
  induction p with
  | done value => trivial
  | raise error => trivial
  | ask op next ih => exact ⟨weaker op asks.1, fun answer => ih answer (asks.2 answer)⟩

theorem Program.Asks.bind {p : Program S ε α} {rest : α → Program S ε β} (first : p.Asks allowed)
    (second : ∀ value, (rest value).Asks allowed) : (p >>= rest).Asks allowed := by
  induction p with
  | done value => exact second value
  | raise error => trivial
  | ask op next ih => exact ⟨first.1, fun answer => ih answer (first.2 answer)⟩

theorem Program.Asks.ofExcept (result : Except ε α) :
    (Program.ofExcept result : Program S ε α).Asks allowed := by
  cases result <;> trivial

theorem Program.Asks.mapM {each : β → Program S ε α} {items : List β}
    (asks : ∀ item ∈ items, (each item).Asks allowed) : (items.mapM each).Asks allowed := by
  induction items with
  | nil => trivial
  | cons item rest ih =>
    obtain ⟨here, later⟩ := List.forall_mem_cons.mp asks
    rw [List.mapM_cons]
    exact here.bind fun _ => (ih later).bind fun _ => trivial

/-- **A run adds allowed questions to the journal.** -/
theorem Exec.asked {answers : List (Event S) → (op : S.Op) → S.Ans op → Prop}
    {log log' : List (Event S)} {p p' : Program S ε α} (run : Exec (journal answers) log p log' p')
    (asks : p.Asks allowed) : ∃ new, log' = new ++ log ∧ ∀ event ∈ new, allowed event.op := by
  induction run with
  | refl log p => exact ⟨[], rfl, fun _ member => absurd member List.not_mem_nil⟩
  | ask answer _ _ ih =>
    obtain ⟨new, rfl, every⟩ := ih (asks.2 answer)
    refine ⟨new ++ [⟨_, answer⟩], by simp [journal], ?_⟩
    intro event member
    rcases List.mem_append.mp member with earlier | last
    · exact every event earlier
    · rw [List.mem_singleton] at last
      subst last
      exact asks.1

end Asks

/-! ### The ends of a program -/

/-- Every run that comes to its end, ends in `Q`. -/
def Outcome (E : Environment S σ) (w : σ) (p : Program S ε α) (Q : σ → Program S ε α → Prop) :
    Prop :=
  ∀ w' p', Exec E w p w' p' → p'.Ended → Q w' p'

variable {E : Environment S σ} {w : σ}

theorem outcome_done {value : α} {Q : σ → Program S ε α → Prop} (holds : Q w (.done value)) :
    Outcome E w (.done value) Q := by
  intro w' p' run _
  cases run
  exact holds

theorem outcome_raise {error : ε} {Q : σ → Program S ε α → Prop} (holds : Q w (.raise error)) :
    Outcome E w (.raise error) Q := by
  intro w' p' run _
  cases run
  exact holds

theorem outcome_ask {op : S.Op} {next : S.Ans op → Program S ε α} {Q : σ → Program S ε α → Prop}
    (each : ∀ answer, E.answers w op answer → Outcome E (E.next w op answer) (next answer) Q) :
    Outcome E w (.ask op next) Q := by
  intro w' p' run ended
  cases run with
  | refl => exact ended.elim
  | ask answer answered rest => exact each answer answered w' p' rest ended

/-- **A sequence ends as its second part does**, from where the first part ends. -/
theorem outcome_bind {p : Program S ε α} {rest : α → Program S ε β}
    {Q : σ → Program S ε β → Prop}
    (first : Outcome E w p fun w' p' => Outcome E w' (p' >>= rest) Q) :
    Outcome E w (p >>= rest) Q := by
  induction p generalizing w with
  | done value => exact first w _ (.refl _ _) trivial
  | raise error => exact first w _ (.refl _ _) trivial
  | ask op next ih =>
    refine outcome_ask fun answer answered => ih answer ?_
    exact fun w' p' run ended => first w' p' (.ask answer answered run) ended

theorem Outcome.mono {p : Program S ε α} {Q R : σ → Program S ε α → Prop} (outcome : Outcome E w p Q)
    (weaker : ∀ w' p', Q w' p' → R w' p') : Outcome E w p R :=
  fun w' p' run ended => weaker w' p' (outcome w' p' run ended)

/-- **Where every question has an answer, a program can be run to its end.** -/
theorem exists_outcome (total : ∀ w op, ∃ answer, E.answers w op answer) (p : Program S ε α) (w : σ) :
    ∃ w' p', Exec E w p w' p' ∧ p'.Ended := by
  induction p generalizing w with
  | done value => exact ⟨w, _, .refl _ _, trivial⟩
  | raise error => exact ⟨w, _, .refl _ _, trivial⟩
  | ask op next ih =>
    obtain ⟨answer, answered⟩ := total w op
    obtain ⟨w', p', run, ended⟩ := ih answer (E.next w op answer)
    exact ⟨w', p', .ask answer answered run, ended⟩

theorem Outcome.exists_both {p : Program S ε α} {Q R : σ → Program S ε α → Prop}
    (total : ∀ w op, ∃ answer, E.answers w op answer) (first : Outcome E w p Q)
    (second : Outcome E w p R) : ∃ w' p', Q w' p' ∧ R w' p' := by
  obtain ⟨w', p', run, ended⟩ := exists_outcome total p w
  exact ⟨w', p', first w' p' run ended, second w' p' run ended⟩

end

/-- The questions of one signature as questions of another. -/
structure Embedding (S T : Signature) where
  op : S.Op → T.Op
  answer : (question : S.Op) → T.Ans (op question) → S.Ans question

variable {S T : Signature} {ε α : Type}

/-- A program that asks the questions of the other signature. -/
def Program.within (embedding : Embedding S T) : Program S ε α → Program T ε α
  | .done value => .done value
  | .raise error => .raise error
  | .ask op next => .ask (embedding.op op) fun answer =>
    (next (embedding.answer op answer)).within embedding

variable {embedding : Embedding S T} {p : Program S ε α}

theorem asks_within (embedding : Embedding S T) (p : Program S ε α) :
    (p.within embedding).Asks fun op => ∃ question, op = embedding.op question := by
  induction p with
  | done value => trivial
  | raise error => trivial
  | ask op next ih => exact ⟨⟨op, rfl⟩, fun answer => ih _⟩

end Interaction
