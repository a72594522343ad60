/-
**Journals of answered questions.**

* `Event S` — a question with its answer. A journal is a list of events, the newest first.
* `journal answers` — the environment whose world is its own journal: what a question may be
  answered depends on what was answered before.
* `Always P log` — every event of the journal satisfied `P` of the journal before it. It is the form
  of the safety properties (each event was right when it happened) and of the conditions on a run.
* `always_iff` — the same over all splits of the journal.
* `restricted answers P` — the environment that answers only the questions that meet `P`.
-/

import Audisor.Interaction.Program

namespace Interaction

variable {S : Signature} {ε α : Type}

/-- A question with its answer. -/
structure Event (S : Signature) where
  op : S.Op
  answer : S.Ans op

instance [DecidableEq S.Op] [∀ op, DecidableEq (S.Ans op)] : DecidableEq (Event S)
  | ⟨op, answer⟩, ⟨op', answer'⟩ =>
    if same : op = op' then
      decidable_of_iff (same ▸ answer = answer') (by subst same; simp)
    else .isFalse fun equal => same (congrArg Event.op equal)

def journal (answers : List (Event S) → (op : S.Op) → S.Ans op → Prop) :
    Environment S (List (Event S)) where
  answers := answers
  next := fun log op answer => ⟨op, answer⟩ :: log

theorem Exec.suffix {answers : List (Event S) → (op : S.Op) → S.Ans op → Prop}
    {log log' : List (Event S)} {p p' : Program S ε α} (run : Exec (journal answers) log p log' p') :
    log <:+ log' := by
  induction run with
  | refl log p => exact List.suffix_refl log
  | ask answer _ _ ih => exact (List.suffix_cons _ _).trans ih

/-- Every entry of a list, the newest first, satisfied `P` of what came before it. -/
def Always {ι : Type} (P : List ι → ι → Prop) : List ι → Prop
  | [] => True
  | event :: older => P older event ∧ Always P older

instance instDecidableAlways {ι : Type} (P : List ι → ι → Prop)
    [∀ older event, Decidable (P older event)] : (log : List ι) → Decidable (Always P log)
  | [] => .isTrue trivial
  | event :: older =>
    have : Decidable (Always P older) := instDecidableAlways P older
    inferInstanceAs (Decidable (P older event ∧ Always P older))

section Always

variable {ι : Type} {P : List ι → ι → Prop} {log : List ι}

theorem Always.suffix {older : List ι} (always : Always P log) (part : older <:+ log) :
    Always P older := by
  induction log with
  | nil =>
    rw [List.suffix_nil] at part
    subst part
    exact always
  | cons event rest ih =>
    rcases List.suffix_cons_iff.mp part with rfl | inside
    · exact always
    · exact ih always.2 inside

/-- **Every event, with what came before it.** -/
theorem always_iff :
    Always P log ↔ ∀ newer event older, log = newer ++ event :: older → P older event := by
  constructor
  · rintro always newer event older rfl
    exact (always.suffix (List.suffix_append newer (event :: older))).1
  · intro every
    induction log with
    | nil => trivial
    | cons event rest ih =>
      refine ⟨every [] event rest rfl, ih fun newer inner older split => ?_⟩
      exact every (event :: newer) inner older (by rw [split, List.cons_append])

end Always

def restricted (answers : List (Event S) → (op : S.Op) → S.Ans op → Prop)
    (P : List (Event S) → S.Op → Prop) : Environment S (List (Event S)) :=
  journal fun log op answer => answers log op answer ∧ P log op

section Restricted

variable {answers : List (Event S) → (op : S.Op) → S.Ans op → Prop}
  {P : List (Event S) → S.Op → Prop} {log log' : List (Event S)} {p p' : Program S ε α}

theorem Exec.of_restricted (run : Exec (restricted answers P) log p log' p') :
    Exec (journal answers) log p log' p' := by
  induction run with
  | refl log p => exact .refl log p
  | ask answer answered _ ih => exact .ask answer answered.1 ih

/-- **A run whose questions all meet the restriction is a restricted run.** -/
theorem Exec.restrict (run : Exec (journal answers) log p log' p')
    (always : Always (fun older event => P older event.op) log') :
    Exec (restricted answers P) log p log' p' := by
  induction run with
  | refl log p => exact .refl log p
  | ask answer answered rest ih =>
    exact .ask answer ⟨answered, (always.suffix rest.suffix).1⟩ (ih always)

end Restricted

end Interaction
