/-
**Talks in which questions are answered.**

* `Utterance ι` — something that asks under some identifiers, something that answers one, or
  something else.
* `WellFormed` — every identifier asked under is answered exactly once before the talk goes on, and
  every answer belongs to the closest question before it.
* `Matched` — the same for one exchange.
* **`wellFormed_exchange`** — adding an exchange keeps a talk well formed exactly when the exchange is
  matched.
-/

import Mathlib.Data.List.Count
import Mathlib.Data.List.Nodup
import Mathlib.Data.List.TakeWhile

namespace Interaction

/-- Something said. -/
inductive Utterance (ι : Type) where
  | asks (ids : List ι)
  | answers (id : ι)
  | other
  deriving DecidableEq

namespace Utterance

variable {ι : Type}

def isAnswer : Utterance ι → Bool
  | answers _ => true
  | _ => false

def asked? : Utterance ι → Option (List ι)
  | asks ids => some ids
  | _ => none

@[simp] theorem isAnswer_answers (id : ι) : (answers id).isAnswer = true := rfl

end Utterance

open Utterance

variable {ι : Type} {talk : List (Utterance ι)} {ids replies : List ι}

def lastAsked (talk : List (Utterance ι)) : Option (List ι) := (talk.filterMap asked?).getLast?

section WellFormed

variable [DecidableEq ι]

/-- **Every question is answered once, and nothing else is.** -/
structure WellFormed (talk : List (Utterance ι)) : Prop where
  answered : ∀ before ids after, talk = before ++ asks ids :: after →
    ∀ id ∈ ids, (after.takeWhile isAnswer).count (answers id) = 1
  asked : ∀ before id after, talk = before ++ answers id :: after →
    ∃ ids, lastAsked before = some ids ∧ id ∈ ids

/-- The answers of one exchange are those to its question. -/
structure Matched (ids replies : List ι) : Prop where
  answered : ∀ id ∈ ids, replies.count id = 1
  asked : ∀ id ∈ replies, id ∈ ids

theorem Matched.perm {others : List ι} (same : replies.Perm others) :
    Matched ids replies ↔ Matched ids others := by
  constructor
  · intro matched
    exact ⟨fun id member => same.count_eq id ▸ matched.answered id member,
      fun id member => matched.asked id (same.mem_iff.mpr member)⟩
  · intro matched
    exact ⟨fun id member => (same.count_eq id).symm ▸ matched.answered id member,
      fun id member => matched.asked id (same.mem_iff.mp member)⟩

theorem matched_self : Matched ids ids ↔ ids.Nodup :=
  ⟨fun matched => List.nodup_iff_count_eq_one.mpr matched.answered,
    fun distinct => ⟨List.nodup_iff_count_eq_one.mp distinct, fun _ member => member⟩⟩

end WellFormed

/-! ### Talks that go on -/

theorem split_append {first second before after : List (Utterance ι)} {here : Utterance ι}
    (split : first ++ second = before ++ here :: after) :
    (∃ middle, first = before ++ here :: middle ∧ after = middle ++ second) ∨
      ∃ front, before = first ++ front ∧ second = front ++ here :: after := by
  rcases List.append_eq_append_iff.mp split with ⟨front, whole, tail⟩ | ⟨middle, whole, tail⟩
  · exact Or.inr ⟨front, whole, tail⟩
  · cases middle with
    | nil => exact Or.inr ⟨[], by simpa using whole.symm, by simpa using tail.symm⟩
    | cons head rest =>
      rw [List.cons_append, List.cons.injEq] at tail
      obtain ⟨rfl, rfl⟩ := tail
      exact Or.inl ⟨rest, whole, rfl⟩

theorem takeWhile_stops {next : Utterance ι} (stops : next.isAnswer = false)
    (front rest : List (Utterance ι)) :
    (front ++ next :: rest).takeWhile isAnswer = front.takeWhile isAnswer := by
  induction front with
  | nil => simp [stops]
  | cons head tail ih =>
    rw [List.cons_append, List.takeWhile_cons, List.takeWhile_cons, ih]

theorem takeWhile_answers (replies : List ι) :
    (replies.map answers).takeWhile isAnswer = replies.map answers := by
  induction replies with
  | nil => rfl
  | cons id rest ih => rw [List.map_cons, List.takeWhile_cons, isAnswer_answers, if_pos rfl, ih]

theorem lastAsked_exchange (before : List (Utterance ι)) (ids replies : List ι) :
    lastAsked (before ++ asks ids :: replies.map answers) = some ids := by
  have silent : (replies.map answers).filterMap asked? = [] := by
    rw [List.filterMap_map]
    exact List.filterMap_eq_nil_iff.mpr fun _ _ => rfl
  simp [lastAsked, List.filterMap_append, asked?, silent]

variable [DecidableEq ι]

theorem count_answers (id : ι) (replies : List ι) :
    (replies.map answers).count (answers id) = replies.count id :=
  List.count_map_of_injective replies answers (fun _ _ same => by injection same) id

theorem WellFormed.of_append {next : Utterance ι} {rest : List (Utterance ι)}
    (stops : next.isAnswer = false) (whole : WellFormed (talk ++ next :: rest)) :
    WellFormed talk := by
  refine ⟨fun before ids after split id member => ?_, fun before id after split => ?_⟩
  · have counted := whole.answered before ids (after ++ next :: rest)
      (by rw [split, List.append_assoc, List.cons_append]) id member
    rwa [takeWhile_stops stops] at counted
  · exact whole.asked before id (after ++ next :: rest)
      (by rw [split, List.append_assoc, List.cons_append])

theorem wellFormed_nil : WellFormed ([] : List (Utterance ι)) :=
  ⟨fun _ _ _ split => absurd split.symm (List.append_ne_nil_of_right_ne_nil _ (by simp)),
    fun _ _ _ split => absurd split.symm (List.append_ne_nil_of_right_ne_nil _ (by simp))⟩

theorem wellFormed_other : WellFormed (talk ++ [other]) ↔ WellFormed talk := by
  refine ⟨WellFormed.of_append rfl, fun sound => ⟨?_, ?_⟩⟩
  · intro before ids after split id member
    rcases split_append split with ⟨middle, inside, rfl⟩ | ⟨front, _, last⟩
    · rw [takeWhile_stops rfl]
      exact sound.answered before ids middle inside id member
    · have question : asks ids ∈ [other] := last ▸ by simp
      cases List.mem_singleton.mp question
  · intro before id after split
    rcases split_append split with ⟨middle, inside, rfl⟩ | ⟨front, _, last⟩
    · exact sound.asked before id middle inside
    · have reply : answers id ∈ [other] := last ▸ by simp
      cases List.mem_singleton.mp reply

/-- **An exchange keeps a talk well formed exactly when it is matched.** -/
theorem wellFormed_exchange :
    WellFormed (talk ++ asks ids :: replies.map answers) ↔ WellFormed talk ∧ Matched ids replies := by
  constructor
  · intro whole
    refine ⟨whole.of_append rfl, fun id member => ?_, fun id member => ?_⟩
    · have counted := whole.answered talk ids (replies.map answers) rfl id member
      rwa [takeWhile_answers, count_answers] at counted
    · obtain ⟨front, back, rfl⟩ := List.append_of_mem member
      obtain ⟨ids', last, inside⟩ := whole.asked (talk ++ asks ids :: front.map answers) id
        (back.map answers) (by simp)
      rw [lastAsked_exchange] at last
      exact Option.some.inj last ▸ inside
  · rintro ⟨sound, matched⟩
    refine ⟨fun before ids' after split id member => ?_, fun before id after split => ?_⟩
    · rcases split_append split with ⟨middle, inside, rfl⟩ | ⟨front, _, last⟩
      · rw [takeWhile_stops rfl]
        exact sound.answered before ids' middle inside id member
      · cases front with
        | nil =>
          obtain ⟨same, rfl⟩ := List.cons.inj last
          obtain rfl := Utterance.asks.inj same
          rw [takeWhile_answers, count_answers]
          exact matched.answered id member
        | cons head rest =>
          -- no question is among the answers
          rw [List.cons_append, List.cons.injEq] at last
          have question : asks ids' ∈ replies.map answers := by simp [last.2]
          obtain ⟨_, _, impossible⟩ := List.mem_map.mp question
          cases impossible
    · rcases split_append split with ⟨middle, inside, rfl⟩ | ⟨front, rfl, last⟩
      · exact sound.asked before id middle inside
      · cases front with
        | nil => cases last
        | cons head rest =>
          rw [List.cons_append, List.cons.injEq] at last
          obtain ⟨rfl, inside⟩ := last
          obtain ⟨first, second, halves, rfl, right⟩ := List.map_eq_append_iff.mp inside
          obtain ⟨reply, others, rfl, same, _⟩ := List.map_eq_cons_iff.mp right
          obtain rfl := Utterance.answers.inj same
          exact ⟨ids, lastAsked_exchange talk ids first, matched.asked reply (by simp [halves])⟩

end Interaction
