/-
**Runs against a world that knows its answers.**

* `Script S` — the answer to each question, given the journal so far.
* `Program.journalOf`, `Program.resultOf` — the journal of the one complete run of a program, and
  what it ends with.
* `exec_journalOf` — it is a run in every environment that allows the script's answers.
* `journalOf_bind`, `resultOf_bind` — one program after another. `EachMeets` — a loop, round by round.
* `Lockstep` — two programs ask the same questions against a script and end alike, with its rules.
-/

import Audisor.Interaction.Outcome

namespace Interaction

variable {S : Signature} {ε α β : Type}

/-- A world that knows its answer to every question, given what was asked before. -/
abbrev Script (S : Signature) := List (Event S) → (op : S.Op) → S.Ans op

namespace Program

def journalOf (script : Script S) : Program S ε α → List (Event S) → List (Event S)
  | .done _, log => log
  | .raise _, log => log
  | .ask op next, log => (next (script log op)).journalOf script (⟨op, script log op⟩ :: log)

def resultOf (script : Script S) : Program S ε α → List (Event S) → Except ε α
  | .done value, _ => .ok value
  | .raise error, _ => .error error
  | .ask op next, log => (next (script log op)).resultOf script (⟨op, script log op⟩ :: log)

end Program

open Program

def ended : Except ε α → Program S ε α := Program.ofExcept

variable {script : Script S}

/-- **The run against a script is a run.** -/
theorem exec_journalOf {answers : List (Event S) → (op : S.Op) → S.Ans op → Prop}
    (allowed : ∀ log op, answers log op (script log op)) (p : Program S ε α)
    (log : List (Event S)) :
    Exec (journal answers) log p (p.journalOf script log) (ended (p.resultOf script log)) := by
  induction p generalizing log with
  | done value => exact .refl _ _
  | raise error => exact .refl _ _
  | ask op next ih => exact .ask (script log op) (allowed log op) (ih _ _)

theorem journalOf_bind (p : Program S ε α) (rest : α → Program S ε β) (log : List (Event S)) :
    (p >>= rest).journalOf script log =
      match p.resultOf script log with
      | .ok value => (rest value).journalOf script (p.journalOf script log)
      | .error _ => p.journalOf script log := by
  induction p generalizing log with
  | done value => rfl
  | raise error => rfl
  | ask op next ih => exact ih _ _

theorem resultOf_bind (p : Program S ε α) (rest : α → Program S ε β) (log : List (Event S)) :
    (p >>= rest).resultOf script log =
      match p.resultOf script log with
      | .ok value => (rest value).resultOf script (p.journalOf script log)
      | .error error => .error error := by
  induction p generalizing log with
  | done value => rfl
  | raise error => rfl
  | ask op next ih => exact ih _ _

theorem resultOf_bind_eq_ok {p : Program S ε α} {rest : α → Program S ε β} {log : List (Event S)}
    {value : β} : (p >>= rest).resultOf script log = .ok value ↔
      ∃ first, p.resultOf script log = .ok first ∧
        (rest first).resultOf script (p.journalOf script log) = .ok value := by
  rw [resultOf_bind]
  cases p.resultOf script log <;> simp

theorem bind_visit {p : Program S ε α} {rest : α → Program S ε β} {log : List (Event S)} {value : β}
    (returned : (p >>= rest).resultOf script log = .ok value) :
    ∃ first, p.resultOf script log = .ok first ∧
      (rest first).resultOf script (p.journalOf script log) = .ok value ∧
      (p >>= rest).journalOf script log = (rest first).journalOf script (p.journalOf script log) := by
  obtain ⟨first, here, later⟩ := resultOf_bind_eq_ok.mp returned
  exact ⟨first, here, later, by rw [journalOf_bind, here]⟩

/-- Each item's program ends with a value that meets the test, when its turn comes. -/
def EachMeets (script : Script S) (each : α → Program S ε β) (test : β → Bool) :
    List α → List (Event S) → Prop
  | [], _ => True
  | item :: rest, log =>
    (∃ value, (each item).resultOf script log = .ok value ∧ test value = true) ∧
      EachMeets script each test rest ((each item).journalOf script log)

/-- **A loop that returns has met the test everywhere exactly if each round met it in its turn.** -/
theorem eachMeets_iff {each : α → Program S ε β} {test : β → Bool} {items : List α}
    {log : List (Event S)} {values : List β}
    (returned : (items.mapM each).resultOf script log = .ok values) :
    EachMeets script each test items log ↔ values.all test = true := by
  induction items generalizing log values with
  | nil =>
    cases returned
    exact iff_of_true trivial rfl
  | cons item rest ih =>
    rw [List.mapM_cons, resultOf_bind_eq_ok] at returned
    obtain ⟨value, here, returned⟩ := returned
    obtain ⟨others, later, same⟩ := resultOf_bind_eq_ok.mp returned
    cases same
    rw [EachMeets, ih later, here, List.all_cons, Bool.and_eq_true]
    simp

theorem EachMeets.of_mem {each : α → Program S ε β} {test : β → Bool} {items : List α}
    {log : List (Event S)} (meets : EachMeets script each test items log) {item : α}
    (member : item ∈ items) :
    ∃ older value, (each item).resultOf script older = .ok value ∧ test value = true := by
  induction items generalizing log with
  | nil => cases member
  | cons first rest ih =>
    rcases List.mem_cons.mp member with rfl | later
    · exact ⟨log, meets.1⟩
    · exact ih meets.2 later

theorem suffix_journalOf (script : Script S) (p : Program S ε α) (log : List (Event S)) :
    log <:+ p.journalOf script log := by
  have run : Exec (journal fun _ _ _ => True) log p (p.journalOf script log)
      (ended (p.resultOf script log)) := exec_journalOf (fun _ _ => trivial) p log
  exact run.suffix

/-- **A loop that returns has visited each of its items**, and its journal keeps that of the visit. -/
theorem mapM_visit {each : α → Program S ε β} {items : List α} {log : List (Event S)} {values : List β}
    (returned : (items.mapM each).resultOf script log = .ok values) {item : α} (member : item ∈ items) :
    ∃ older value, (each item).resultOf script older = .ok value ∧ value ∈ values ∧
      (each item).journalOf script older <:+ (items.mapM each).journalOf script log := by
  induction items generalizing log values with
  | nil => cases member
  | cons first rest ih =>
    rw [List.mapM_cons] at returned ⊢
    obtain ⟨value, here, returned, whole⟩ := bind_visit returned
    obtain ⟨others, later, same, whole'⟩ := bind_visit returned
    cases same
    rw [whole, whole']
    rcases List.mem_cons.mp member with rfl | inside
    · exact ⟨log, value, here, List.mem_cons_self, suffix_journalOf script _ _⟩
    · obtain ⟨older, found, visited, among, kept⟩ := ih later inside
      exact ⟨older, found, visited, List.mem_cons_of_mem _ among, kept⟩

/-- Whatever the answers, the values the program ends with satisfy `P`. -/
def Program.Returns (P : α → Prop) : Program S ε α → Prop
  | .done value => P value
  | .raise _ => True
  | .ask _ next => ∀ answer, (next answer).Returns P

theorem Program.Returns.bind {P : β → Prop} {p : Program S ε α} {rest : α → Program S ε β}
    (returns : p.Returns fun value => (rest value).Returns P) : (p >>= rest).Returns P := by
  induction p with
  | done value => exact returns
  | raise error => trivial
  | ask op next ih => exact fun answer => ih answer (returns answer)

theorem Program.Returns.mono {P Q : α → Prop} {p : Program S ε α} (returns : p.Returns P)
    (weaker : ∀ value, P value → Q value) : p.Returns Q := by
  induction p with
  | done value => exact weaker value returns
  | raise error => trivial
  | ask op next ih => exact fun answer => ih answer (returns answer)

theorem Program.Returns.of_result {P : α → Prop} {p : Program S ε α} (returns : p.Returns P)
    {log : List (Event S)} {value : α} (result : p.resultOf script log = .ok value) : P value := by
  induction p generalizing log with
  | done other =>
    cases result
    exact returns
  | raise error => cases result
  | ask op next ih => exact ih _ (returns _) result

/-- Whatever the answers, `Q` holds of the journal the program leaves and the value it ends with. -/
def Program.Leaves (Q : List (Event S) → α → Prop) : List (Event S) → Program S ε α → Prop
  | log, .done value => Q log value
  | _, .raise _ => True
  | log, .ask op next => ∀ answer, Program.Leaves Q (⟨op, answer⟩ :: log) (next answer)

theorem Program.Leaves.bind {Q : List (Event S) → β → Prop} {log : List (Event S)} {p : Program S ε α}
    {rest : α → Program S ε β} (leaves : p.Leaves (fun later value => (rest value).Leaves Q later) log) :
    (p >>= rest).Leaves Q log := by
  induction p generalizing log with
  | done value => exact leaves
  | raise error => trivial
  | ask op next ih => exact fun answer => ih answer (leaves answer)

theorem Program.Leaves.of_result {Q : List (Event S) → α → Prop} {log : List (Event S)} {p : Program S ε α}
    (leaves : p.Leaves Q log) {value : α} (result : p.resultOf script log = .ok value) :
    Q (p.journalOf script log) value := by
  induction p generalizing log with
  | done other =>
    cases result
    exact leaves
  | raise error => cases result
  | ask op next ih => exact ih _ (leaves _) result

/-! ### Programs in lockstep -/

/-- Against the script both programs ask the same, and end in related values or in the same error. -/
structure Lockstep (script : Script S) (log : List (Event S)) (p : Program S ε α)
    (q : Program S ε β) (Q : α → β → Prop) : Prop where
  journal : p.journalOf script log = q.journalOf script log
  result : match p.resultOf script log, q.resultOf script log with
    | .ok a, .ok b => Q a b
    | .error e, .error e' => e = e'
    | _, _ => False

namespace Lockstep

variable {log : List (Event S)} {Q : α → β → Prop}

theorem done {a : α} {b : β} (related : Q a b) :
    Lockstep script log (.done a : Program S ε α) (.done b) Q := ⟨rfl, related⟩

theorem raise (error : ε) :
    Lockstep script log (.raise error : Program S ε α) (.raise error : Program S ε β) Q := ⟨rfl, rfl⟩

theorem ask {op : S.Op} {next : S.Ans op → Program S ε α} {next' : S.Ans op → Program S ε β}
    (each : ∀ answer, Lockstep script (⟨op, answer⟩ :: log) (next answer) (next' answer) Q) :
    Lockstep script log (.ask op next) (.ask op next') Q :=
  ⟨(each _).journal, (each _).result⟩

theorem mono {R : α → β → Prop} {p : Program S ε α} {q : Program S ε β}
    (together : Lockstep script log p q Q) (weaker : ∀ a b, Q a b → R a b) :
    Lockstep script log p q R := by
  refine ⟨together.journal, ?_⟩
  have result := together.result
  cases first : p.resultOf script log <;> cases second : q.resultOf script log <;>
    rw [first, second] at result
  · exact result
  · exact result
  · exact result
  · exact weaker _ _ result

theorem refl {P : α → Prop} {p : Program S ε α} (returns : p.Returns P) :
    Lockstep script log p p fun a b => a = b ∧ P a := by
  refine ⟨rfl, ?_⟩
  cases result : p.resultOf script log with
  | ok value => exact ⟨rfl, returns.of_result result⟩
  | error error => rfl

end Lockstep

/-- **What asks nothing of a kind adds nothing of that kind.** -/
theorem always_journalOf {P : List (Event S) → Event S → Prop} {log : List (Event S)}
    {p : Program S ε α} (quiet : p.Asks fun op => ∀ older answer, P older ⟨op, answer⟩)
    (always : Always P log) : Always P (p.journalOf script log) := by
  induction p generalizing log with
  | done value => exact always
  | raise error => exact always
  | ask op next ih => exact ih _ (quiet.2 _) ⟨quiet.1 _ _, always⟩

end Interaction
