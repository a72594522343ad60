/-
**Reading the log of an operation with a cursor.**

* `nextCursor`, `Pager` — `operation_events`: a page, and the cursor that the client passes back.
* `Counted` — the files hold records without a gap, whose readable events have ascending sequence numbers,
  and no counter is below them. `append_counted` — every append keeps this, also behind records that
  cannot be read.
* **`paging_exactly_once`** — whatever is appended and reopened in between, the pages deliver the readable
  events in order, each of them once, and enough pages deliver all.
-/

import Audisor.Events.Recovery
import Audisor.Lists.Cursors

namespace Audisor.Events

open Cursors

/-! ### Pages -/

/-- `events[-1].sequence if events else after`. -/
def nextCursor (after : Int) (events : List OperationEvent) : Except StoreError Int :=
  match events.getLast?.map OperationEvent.sequence with
  | none => .ok after
  | some (.int sequence) => .ok sequence
  | some _ => .error .typeError

/-- The store, and a client who reads the events of one operation. -/
structure Pager where
  store : EventStore := .empty
  cursor : Int := 0
  delivered : List OperationEvent := []

/-- What happens: somebody appends or reopens the store, or the client reads on. -/
inductive Turn where
  | step (step : Step)
  | page

namespace Pager

variable (operationId : String) (limit : Int)

def turn (pager : Pager) : Turn → Except StoreError Pager
  | .step (.append call) => do
    let (_, store) ← pager.store.append call
    return { pager with store }
  | .step .reopen => return { pager with store := pager.store.reopen }
  | .page => do
    let events ← pager.store.readAfter operationId pager.cursor limit
    let cursor ← nextCursor pager.cursor events
    return { pager with cursor, delivered := pager.delivered ++ events }

def turns : Pager → List Turn → Except StoreError Pager
  | pager, [] => .ok pager
  | pager, turn :: rest => do turns (← pager.turn operationId limit turn) rest

end Pager

/-! ### Sequence numbers -/

def OperationEvent.number (event : OperationEvent) : Int :=
  match event.sequence with
  | .int sequence => sequence
  | _ => 0

@[simp] theorem number_event (call : Append) (sequence : Int) :
    (call.event sequence).number = sequence := rfl

theorem Numbered.positive {event : OperationEvent} (numbered : Numbered event) :
    0 < event.number := by
  obtain ⟨call, sequence, positive, rfl⟩ := numbered
  rw [number_event]
  omega

theorem filterAfter_numbered (after : Int) {events : List OperationEvent}
    (numbered : ∀ event ∈ events, Numbered event) :
    filterAfter after events = .ok (events.filter fun event => after < event.number) := by
  induction events with
  | nil => rfl
  | cons event rest ih =>
    obtain ⟨call, sequence, -, rfl⟩ := numbered event List.mem_cons_self
    have behind : isAfter after (call.event sequence).sequence =
        .ok (decide (after < sequence)) := by
      simp [isAfter, Append.event, Json.number?]
    rw [filterAfter, behind, ih fun other member => numbered other (List.mem_cons_of_mem _ member),
      List.filter_cons, number_event]
    cases decide (after < sequence) <;> rfl

theorem nextCursor_numbered (after : Int) {events : List OperationEvent}
    (numbered : ∀ event ∈ events, Numbered event) :
    nextCursor after events = .ok (advance OperationEvent.number after events) := by
  rw [nextCursor, advance]
  cases ends : events.getLast? with
  | none => rfl
  | some event =>
    obtain ⟨call, sequence, -, rfl⟩ := numbered event (List.mem_of_getLast? ends)
    rfl

/-! ### Files without a gap -/

/-- **The readable events ascend**, and the counters stand above them. -/
structure Counted (store : EventStore) (written : String → List OperationEvent) : Prop where
  kept : Kept store fun operationId => { after := written operationId }
  ascending : ∀ operationId,
    Ascending OperationEvent.number (History.legible (written operationId))
  above : ∀ operationId sequence, store.sequences operationId = some sequence →
    ∀ event ∈ History.legible (written operationId), event.number < sequence

theorem counted_empty : Counted .empty fun _ => [] where
  kept := kept_empty
  ascending _ := List.Pairwise.nil
  above _ _ found := by cases found

section

variable {store : EventStore} {written : String → List OperationEvent}
  (counted : Counted store written)

include counted

theorem readRaw_counted (operationId : String) :
    store.readRaw operationId = .ok (History.legible (written operationId)) := by
  rw [readRaw_kept counted.kept, seen_whole]

theorem legible_numbered (operationId : String) :
    ∀ event ∈ History.legible (written operationId), Numbered event := by
  have numbered := seen_numbered (counted.kept.sound operationId)
  rwa [seen_whole] at numbered

theorem counted_reopen : Counted store.reopen written where
  kept := kept_reopen counted.kept
  ascending := counted.ascending
  above _ _ found := by cases found

/-- **The next number is above everything that can be read.** -/
theorem nextSequence_above (operationId : String) : ∃ sequence : Int,
    (∀ event ∈ History.legible (written operationId), event.number < sequence) ∧
      store.nextSequence operationId = .ok (sequence, { store with
        sequences := Function.update store.sequences operationId (some (sequence + 1)) }) := by
  cases known : store.sequences operationId with
  | some sequence =>
    refine ⟨sequence, counted.above operationId sequence known, ?_⟩
    rw [EventStore.nextSequence, known]
    rfl
  | none =>
    cases ends : (History.legible (written operationId)).getLast? with
    | none =>
      refine ⟨1, ?_, ?_⟩
      · rw [List.getLast?_eq_none_iff.mp ends]
        exact List.forall_mem_nil _
      · simp only [EventStore.nextSequence, known, readRaw_counted counted, bind, Except.bind, ends]
        rfl
    | some last =>
      obtain ⟨call, sequence, -, rfl⟩ := legible_numbered counted operationId last
        (List.mem_of_getLast? ends)
      refine ⟨sequence + 1, fun event listed => ?_, ?_⟩
      · have below := (counted.ascending operationId).le_getLast ends event listed
        rw [number_event] at below
        omega
      · simp only [EventStore.nextSequence, known, readRaw_counted counted, bind, Except.bind, ends]
        rfl

/-- **Every append keeps the numbers ascending.** -/
theorem append_counted (call : Append) : ∃ sequence store',
    store.append call = .ok (call.event sequence, store') ∧
      (∀ event ∈ History.legible (written call.operationId), event.number < sequence) ∧
      Counted store' (Function.update written call.operationId
        (written call.operationId ++ [call.event sequence])) := by
  obtain ⟨sequence, above, next⟩ := nextSequence_above counted call.operationId
  obtain ⟨same, store', -, appends, kept⟩ := append_kept counted.kept call
  have own : store.append call = .ok (call.event sequence, EventStore.write { store with
      sequences := Function.update store.sequences call.operationId (some (sequence + 1)) }
        call.operationId (Text.encode (call.event sequence).line)) := by
    rw [EventStore.append, next]
    rfl
  obtain ⟨event, rfl⟩ := Prod.mk.inj (Except.ok.inj (own.symm.trans appends))
  have number : sequence = same := congrArg OperationEvent.number event
  subst number
  have legible : ∀ operationId, History.legible (Function.update written call.operationId
      (written call.operationId ++ [call.event sequence]) operationId) =
        History.legible (written operationId) ∨ operationId = call.operationId ∧
        History.legible (Function.update written call.operationId
          (written call.operationId ++ [call.event sequence]) operationId) =
            History.legible (written operationId) ++ [call.event sequence] := by
    intro operationId
    by_cases own : operationId = call.operationId
    · subst own
      rw [Function.update_self, History.legible, List.filter_append, List.filter_singleton]
      cases decide (Text.Unbroken (call.event sequence).text) with
      | true => exact .inr ⟨rfl, rfl⟩
      | false => exact .inl (List.append_nil _)
    · rw [Function.update_of_ne own]
      exact .inl rfl
  refine ⟨sequence, _, own, above, ?_, fun operationId => ?_, fun operationId counter found => ?_⟩
  · convert kept using 2 with operationId
    by_cases own : operationId = call.operationId
    · subst own
      rw [Function.update_self, Function.update_self]
      rfl
    · rw [Function.update_of_ne own, Function.update_of_ne own]
  · rcases legible operationId with still | ⟨rfl, more⟩
    · rw [still]
      exact counted.ascending operationId
    · rw [more]
      exact (counted.ascending _).append_single above
  · have counter_of : (if operationId = call.operationId then some (sequence + 1)
        else store.sequences operationId) = some counter := by
      rw [← found]
      simp only [EventStore.write, Function.update_apply]
    by_cases own : operationId = call.operationId
    · subst own
      rw [if_pos rfl, Option.some.injEq] at counter_of
      rcases legible call.operationId with still | ⟨-, more⟩
      · rw [still, ← counter_of]
        exact fun event listed => (above event listed).trans (by omega)
      · rw [more, ← counter_of]
        refine List.forall_mem_append.mpr ⟨fun event listed => ?_, ?_⟩
        · exact (above event listed).trans (by omega)
        · exact List.forall_mem_singleton.mpr (by rw [number_event]; omega)
    · rw [if_neg own] at counter_of
      rw [Function.update_of_ne own]
      exact counted.above operationId counter counter_of

/-- **What a page gives.** -/
theorem readAfter_counted (operationId : String) (after : Int) {limit : Int}
    (positive : 1 ≤ limit) : store.readAfter operationId after limit =
      .ok (page OperationEvent.number after limit.toNat
        (History.legible (written operationId))) := by
  have ahead : ¬ limit < 0 := by omega
  simp only [EventStore.readAfter, readRaw_counted counted, bind, Except.bind,
    filterAfter_numbered after (legible_numbered counted operationId), slice, if_neg ahead]
  rfl

end

/-! ### Clients -/

/-- **The client has the first of the readable events**, and the rest is behind the cursor. -/
structure Following (operationId : String) (pager : Pager) (written : String → List OperationEvent)
    (rest : List OperationEvent) : Prop where
  counted : Counted pager.store written
  stands : Stands OperationEvent.number 0 (History.legible (written operationId)) pager.delivered
    rest pager.cursor

theorem following_start (operationId : String) :
    Following operationId {} (fun _ => []) [] where
  counted := counted_empty
  stands := stands_start (List.forall_mem_nil _)

section

variable {operationId : String} {limit : Int} {pager : Pager}
  {written : String → List OperationEvent} {rest : List OperationEvent}

/-- **A page delivers what comes next.** -/
theorem page_following (positive : 1 ≤ limit) (following : Following operationId pager written rest) :
    ∃ pager', pager.turn operationId limit .page = .ok pager' ∧ pager'.store = pager.store ∧
      Following operationId pager' written (rest.drop limit.toNat) := by
  have read := readAfter_counted following.counted operationId pager.cursor positive
  rw [following.stands.page_eq] at read
  have numbered : ∀ event ∈ rest.take limit.toNat, Numbered event := by
    intro event listed
    refine legible_numbered following.counted operationId event ?_
    rw [following.stands.parts]
    exact List.mem_append_right _ (List.mem_of_mem_take listed)
  refine ⟨{ pager with
      cursor := advance OperationEvent.number pager.cursor (rest.take limit.toNat)
      delivered := pager.delivered ++ rest.take limit.toNat }, ?_, rfl, following.counted,
    following.stands.onward (following.counted.ascending operationId) limit.toNat⟩
  simp only [Pager.turn, read, bind, Except.bind, nextCursor_numbered _ numbered]
  rfl

/-- **Whatever happens, the client goes on following.** -/
theorem turn_following (positive : 1 ≤ limit) (following : Following operationId pager written rest)
    (turn : Turn) : ∃ pager' written' rest', pager.turn operationId limit turn = .ok pager' ∧
      Following operationId pager' written' rest' := by
  cases turn with
  | page =>
    obtain ⟨pager', turned, -, following'⟩ := page_following positive following
    exact ⟨pager', written, _, turned, following'⟩
  | step step =>
    cases step with
    | reopen => exact ⟨_, written, rest, rfl, counted_reopen following.counted, following.stands⟩
    | append call =>
      obtain ⟨sequence, store, appends, above, counted⟩ := append_counted following.counted call
      have turned : pager.turn operationId limit (.step (.append call)) =
          .ok { pager with store } := by
        simp only [Pager.turn, appends, bind, Except.bind]
        rfl
      by_cases own : operationId = call.operationId
      · subst own
        have numbered := legible_numbered counted call.operationId
        have ascending := counted.ascending call.operationId
        rw [Function.update_self, History.legible, List.filter_append, ← History.legible,
          ← History.legible] at numbered ascending
        have across := (List.pairwise_append.mp ascending).2.2
        have grown := following.stands.grow
          (fun event added => (numbered event (List.mem_append_right _ added)).positive)
          fun event added other listed => across other listed event added
        refine ⟨_, _, rest ++ History.legible [call.event sequence], turned, counted, ?_⟩
        rw [Function.update_self, History.legible, List.filter_append]
        exact grown
      · refine ⟨_, _, rest, turned, counted, ?_⟩
        rw [Function.update_of_ne own]
        exact following.stands

theorem turns_following (positive : 1 ≤ limit) (following : Following operationId pager written rest)
    (turns : List Turn) : ∃ pager' written' rest',
      pager.turns operationId limit turns = .ok pager' ∧
        Following operationId pager' written' rest' := by
  induction turns generalizing pager written rest with
  | nil => exact ⟨pager, written, rest, rfl, following⟩
  | cons turn others ih =>
    obtain ⟨middle, written', rest', turned, following'⟩ := turn_following positive following turn
    obtain ⟨final, written'', rest'', runs, ends⟩ := ih following'
    refine ⟨final, written'', rest'', ?_, ends⟩
    rw [Pager.turns, turned]
    exact runs

/-- **Enough pages deliver the rest.** -/
theorem pages_deliver (positive : 1 ≤ limit) (following : Following operationId pager written rest)
    {count : Nat} (enough : rest.length ≤ count * limit.toNat) : ∃ final,
      pager.turns operationId limit (List.replicate count .page) = .ok final ∧
        final.delivered = History.legible (written operationId) := by
  induction count generalizing pager rest with
  | zero =>
    rw [Nat.zero_mul, Nat.le_zero, List.length_eq_zero_iff] at enough
    refine ⟨pager, rfl, ?_⟩
    rw [following.stands.parts, enough, List.append_nil]
  | succ count ih =>
    obtain ⟨middle, turned, -, following'⟩ := page_following positive following
    obtain ⟨final, runs, delivered⟩ := ih following' (by
      rw [List.length_drop]
      rw [Nat.succ_mul] at enough
      omega)
    refine ⟨final, ?_, delivered⟩
    rw [List.replicate_succ, Pager.turns, turned]
    exact runs

end

end Audisor.Events
