/-
**What an event file holds, over whole runs, and reading it back.**

* `Append.Plain` — no string of a call contains one of the three line boundaries that
  `ensure_ascii=False` leaves in the text. `unbroken_iff` — then, and only then, its record is one line.
* `History` — a file: records, perhaps a torn one, and the records behind it. `History.seen` — the
  events that a reader finds in it (**`readText_history`**).
* `Kept` — the store's files are the given histories. **`append_kept`** — an append does not fail, and
  puts one record behind the others; **`run_kept`** — so does a whole run.
* `readAfter_run` — after any run that starts with an empty directory, reading an operation from the
  start gives those of its events whose records are one line, as they were appended.
* **`readAfter_run_iff`** — these are all of them exactly when no string of the operation's events
  contains U+0085, U+2028 or U+2029: the writer leaves these characters in a record, and the reader
  cuts the file at them.
-/

import Audisor.Events.Pieces

namespace Audisor.Events

open Json Text

/-! ### Records of one line -/

/-- The line boundaries that `json.dumps` does not escape. -/
def rawBoundaries : List Char := ['\u0085', '\u2028', '\u2029']

/-- The strings of a call: its ids, its state and type, and those of the payload, keys included. -/
def Append.texts (call : Append) : List String :=
  [call.operationId, call.state, call.eventType] ++ call.correlationId.toList ++
    Json.texts (.obj (call.payload.getD []))

/-- **No string of the call contains a line boundary that stays in the text.** -/
def Append.Plain (call : Append) : Prop :=
  ∀ text ∈ call.texts, ∀ c ∈ text.toList, c ∉ rawBoundaries

instance (call : Append) : Decidable call.Plain :=
  have : DecidablePred fun text : String => ∀ c ∈ text.toList, c ∉ rawBoundaries :=
    fun text => List.decidableBAll _ text.toList
  List.decidableBAll _ call.texts

theorem boundary_of_raw : ∀ c ∈ rawBoundaries, isLineBoundary c = true ∧ ¬ Printable c ∧
    0x7e < c.toNat := forall_chars (by decide)

theorem raw_of_boundary {c : Char} (boundary : isLineBoundary c = true) (visible : 0x20 ≤ c.toNat) :
    c ∈ rawBoundaries := by
  simp only [isLineBoundary, List.mem_cons, List.not_mem_nil, or_false, decide_eq_true_eq]
    at boundary
  rcases boundary with rfl | rfl | rfl | rfl | rfl | rfl | rfl | rest
  all_goals first
    | simpa [rawBoundaries] using rest
    | exact absurd visible (by decide)

theorem Timestamp.plain (timestamp : Timestamp) : ∀ c ∈ timestamp.text.toList, c ∉ rawBoundaries := by
  intro c member raw
  have special := (boundary_of_raw c raw).2.1
  rcases timestamp.valid c member with digit | mark
  · exact special (isNumberChar_printable (isNumberChar_of_isDigit digit))
  · have printable : ∀ d ∈ ['-', ':', '.', '+', 'T'], Printable d :=
      forall_chars (by decide)
    exact special (printable c mark)

theorem unbroken_text_iff (event : OperationEvent) :
    Unbroken event.text ↔
      ∀ text ∈ Json.texts (.obj event.asDict), ∀ c ∈ text.toList, c ∉ rawBoundaries := by
  constructor
  · intro unbroken text member c inside raw
    obtain ⟨boundary, special, high⟩ := boundary_of_raw c raw
    have stays : c ∈ event.text := (mem_render rfl special _).mpr ⟨high, text, member, inside⟩
    rw [unbroken c stays] at boundary
    cases boundary
  · intro plain c member
    rw [Bool.eq_false_iff]
    intro boundary
    have raw := raw_of_boundary boundary (event.text_visible member)
    obtain ⟨_, special, _⟩ := boundary_of_raw c raw
    obtain ⟨_, text, listed, inside⟩ := (mem_render rfl special _).mp member
    exact plain text listed c inside raw

theorem mem_texts_event (call : Append) (sequence : Int) (text : String) :
    text ∈ Json.texts (.obj (call.event sequence).asDict) ↔
      text ∈ OperationEvent.fieldNames ∨ text = call.timestamp.text ∨ text ∈ call.texts := by
  cases correlated : call.correlationId <;>
    simp only [Append.texts, Append.event, OperationEvent.asDict, OperationEvent.fieldNames,
      Json.texts, textsFields, List.mem_cons, List.mem_append, List.not_mem_nil, Option.elim,
      correlated, Option.toList] <;>
    grind

/-- **The record of a call is one line exactly when the call is plain.** -/
theorem unbroken_iff (call : Append) (sequence : Int) :
    Unbroken (call.event sequence).text ↔ call.Plain := by
  have names : ∀ name ∈ OperationEvent.fieldNames, ∀ c ∈ name.toList, c ∉ rawBoundaries := by
    simp only [OperationEvent.fieldNames, List.forall_mem_cons, List.not_mem_nil, false_implies,
      implies_true, and_true]
    refine ⟨?_, ?_, ?_, ?_, ?_, ?_, ?_⟩ <;> exact forall_chars (by decide)
  rw [unbroken_text_iff, Append.Plain]
  constructor
  · intro plain text listed
    exact plain text ((mem_texts_event call sequence text).mpr (Or.inr (Or.inr listed)))
  · intro plain text listed
    rcases (mem_texts_event call sequence text).mp listed with name | rfl | own
    · exact names text name
    · exact call.timestamp.plain
    · exact plain text own

/-! ### What a file holds -/

def Numbered (event : OperationEvent) : Prop :=
  ∃ (call : Append) (sequence : Int), 1 ≤ sequence ∧ event = call.event sequence

def lines (events : List OperationEvent) : List Char := events.flatMap OperationEvent.line

/-- **A file**: whole records, what a crash left of one, and the records behind it. -/
structure History where
  before : List OperationEvent := []
  torn : List Char := []
  after : List OperationEvent := []

namespace History

/-- Appends wrote the events, and one that did not end wrote what is torn. -/
structure Sound (history : History) : Prop where
  part : ∃ event, Numbered event ∧ history.torn <+: event.text
  numbered : ∀ event ∈ history.before ++ history.after, Numbered event

variable (history : History)

def text : List Char := lines history.before ++ (history.torn ++ lines history.after)

def legible (events : List OperationEvent) : List OperationEvent :=
  events.filter fun event => Unbroken event.text

/-- **The events that a reader finds.** -/
def seen : List OperationEvent :=
  legible history.before ++
    match history.after with
    | [] => readPieces history.torn
    | next :: rest =>
      if Blank (unfinished history.torn) then legible (next :: rest) else legible rest

def extend (more : List OperationEvent) : History :=
  { history with after := history.after ++ more }

@[simp] theorem extend_nil : history.extend [] = history := by simp [extend]

theorem extend_extend (first second : List OperationEvent) :
    (history.extend first).extend second = history.extend (first ++ second) := by simp [extend]

theorem text_extend (event : OperationEvent) :
    (history.extend [event]).text = history.text ++ event.line := by
  simp [text, extend, lines]

end History

theorem readPieces_lines (events : List OperationEvent) (rest : List Char) :
    readPieces (lines events ++ rest) = History.legible events ++ readPieces rest := by
  induction events with
  | nil => rfl
  | cons event events ih =>
    rw [lines, List.flatMap_cons, List.append_assoc, readPieces_line, ← lines, ih,
      ← List.append_assoc]
    congr 1
    simp only [History.legible, List.filter_cons]
    split <;> simp_all

@[simp] theorem readPieces_nil : readPieces [] = [] := rfl

theorem line_noReturn {event : OperationEvent} : '\r' ∉ event.line := by
  intro member
  rcases List.mem_append.mp member with inside | newline
  · exact absurd (event.text_visible inside) (by decide)
  · revert newline
    decide

theorem lines_noReturn (events : List OperationEvent) : '\r' ∉ lines events := by
  intro member
  obtain ⟨event, _, inside⟩ := List.mem_flatMap.mp member
  exact line_noReturn inside

/-- **What a reader finds in a file.** -/
theorem readText_history {history : History} (sound : history.Sound) :
    readText history.text = history.seen := by
  obtain ⟨event, _, part⟩ := sound.part
  have noReturn : '\r' ∉ history.text := by
    simp only [History.text, List.mem_append, not_or]
    exact ⟨lines_noReturn _, fun member => line_noReturn
      (List.mem_append_left _ (part.subset member)), lines_noReturn _⟩
  rw [readText_eq noReturn, History.text, readPieces_lines, History.seen]
  congr 1
  cases after : history.after with
  | nil => rw [lines, List.flatMap_nil, List.append_nil]
  | cons next rest =>
    have others : readPieces (lines rest) = History.legible rest := by
      simpa using readPieces_lines rest []
    rw [lines, List.flatMap_cons, ← lines, readPieces_onto part, others]
    by_cases blank : Blank (unfinished history.torn)
    · simp only [blank, and_true, if_true, History.legible, List.filter_cons]
      split <;> simp_all
    · simp [blank]

theorem seen_numbered {history : History} (sound : history.Sound) :
    ∀ event ∈ history.seen, Numbered event := by
  intro event member
  obtain ⟨last, numbered, part⟩ := sound.part
  have listed : event ∈ history.before ++ history.after ∨ event = last := by
    rcases List.mem_append.mp member with early | late
    · exact Or.inl (List.mem_append_left _ (List.mem_of_mem_filter early))
    · cases after : history.after with
      | nil =>
        rw [after] at late
        simp only [readPieces_torn part] at late
        split at late
        · exact Or.inr (List.mem_singleton.mp late)
        · cases late
      | cons next rest =>
        rw [after] at late
        simp only at late
        refine Or.inl (List.mem_append_right _ ?_)
        split at late
        · exact List.mem_of_mem_filter late
        · exact List.mem_cons_of_mem _ (List.mem_of_mem_filter late)
  rcases listed with listed | rfl
  · exact sound.numbered event listed
  · exact numbered

/-! ### Runs -/

/-- **The files are these histories**, and no counter is below one. -/
structure Kept (store : EventStore) (histories : String → History) : Prop where
  files : ∀ operationId,
    (store.files operationId).getD ByteArray.empty = encode (histories operationId).text
  sound : ∀ operationId, (histories operationId).Sound
  counters : ∀ operationId sequence, store.sequences operationId = some sequence → 1 ≤ sequence

theorem sound_empty : History.Sound {} := by
  refine ⟨⟨_, ⟨⟨"", "", "", none, none, ⟨"", by simp⟩⟩, 1, Int.le_refl 1, rfl⟩,
    List.nil_prefix⟩, by simp⟩

theorem kept_empty : Kept .empty fun _ => {} where
  files operationId := by simp [EventStore.empty, History.text, lines]
  sound operationId := sound_empty
  counters operationId sequence found := by cases found

section

variable {store : EventStore} {histories : String → History} (kept : Kept store histories)

include kept

theorem readRaw_kept (operationId : String) :
    store.readRaw operationId = .ok (histories operationId).seen := by
  have file := kept.files operationId
  rw [← readText_history (kept.sound operationId), EventStore.readRaw]
  cases found : store.files operationId with
  | none =>
    rw [found] at file
    have empty : decode (encode (histories operationId).text) = some [] := by
      rw [← file]
      simpa using decode_encode []
    rw [decode_encode, Option.some.injEq] at empty
    rw [empty]
    rfl
  | some bytes =>
    rw [found, Option.getD_some] at file
    simp [file]

theorem kept_reopen : Kept store.reopen histories where
  files := kept.files
  sound := kept.sound
  counters operationId sequence found := by cases found

theorem nextSequence_kept (operationId : String) :
    ∃ sequence counters, 1 ≤ sequence ∧ Kept { store with sequences := counters } histories ∧
      store.nextSequence operationId = .ok (sequence, { store with sequences := counters }) := by
  have counted : ∀ sequence : Int, 1 ≤ sequence →
      Kept { store with
        sequences := Function.update store.sequences operationId (some (sequence + 1)) }
        histories := by
    intro sequence positive
    refine ⟨kept.files, kept.sound, fun other found same => ?_⟩
    by_cases own : other = operationId
    · subst own
      simp only [Function.update_self, Option.some.injEq] at same
      omega
    · simp only [Function.update_of_ne own] at same
      exact kept.counters other found same
  cases known : store.sequences operationId with
  | some sequence =>
    have positive := kept.counters operationId sequence known
    refine ⟨sequence, _, positive, counted sequence positive, ?_⟩
    simp only [EventStore.nextSequence, known]
    rfl
  | none =>
    cases last : (histories operationId).seen.getLast? with
    | none =>
      refine ⟨1, _, Int.le_refl 1, counted 1 (Int.le_refl 1), ?_⟩
      simp only [EventStore.nextSequence, known, readRaw_kept kept, Except.bind, bind, last]
      rfl
    | some event =>
      obtain ⟨call, sequence, positive, rfl⟩ :=
        seen_numbered (kept.sound operationId) event (List.mem_of_getLast? last)
      refine ⟨sequence + 1, _, by omega, counted (sequence + 1) (by omega), ?_⟩
      simp only [EventStore.nextSequence, known, readRaw_kept kept, Except.bind, bind, last]
      rfl

theorem kept_write {operationId : String} {history : History} {text : List Char}
    (sound : history.Sound) (longer : history.text = (histories operationId).text ++ text) :
    Kept (store.write operationId (encode text)) (Function.update histories operationId history) where
  files other := by
    by_cases own : other = operationId
    · subst own
      simp [EventStore.write, kept.files other, longer]
    · simp [EventStore.write, Function.update_of_ne own, kept.files other]
  sound other := by
    by_cases own : other = operationId
    · subst own
      rwa [Function.update_self]
    · rw [Function.update_of_ne own]
      exact kept.sound other
  counters := kept.counters

/-- **An append does not fail**, and puts one record behind the others. -/
theorem append_kept (call : Append) :
    ∃ sequence store', 1 ≤ sequence ∧ store.append call = .ok (call.event sequence, store') ∧
      Kept store' (Function.update histories call.operationId
        ((histories call.operationId).extend [call.event sequence])) := by
  obtain ⟨sequence, counters, positive, counted, next⟩ := nextSequence_kept kept call.operationId
  refine ⟨sequence, _, positive, by rw [EventStore.append, next]; rfl, ?_⟩
  refine kept_write counted ?_ (History.text_extend _ _)
  have sound := kept.sound call.operationId
  refine ⟨sound.part, fun event member => ?_⟩
  rw [History.extend, ← List.append_assoc] at member
  rcases List.mem_append.mp member with old | new
  · exact sound.numbered event old
  · exact ⟨call, sequence, positive, List.mem_singleton.mp new⟩

theorem readAfter_kept (operationId : String) (limit : Int)
    (enough : ((histories operationId).seen.length : Int) ≤ limit) :
    store.readAfter operationId 0 limit = .ok (histories operationId).seen := by
  have sequenced : ∀ events : List OperationEvent, (∀ event ∈ events, Numbered event) →
      filterAfter 0 events = .ok events := by
    intro events numbered
    induction events with
    | nil => rfl
    | cons event rest ih =>
      obtain ⟨call, sequence, positive, rfl⟩ := numbered event List.mem_cons_self
      have behind : isAfter 0 (call.event sequence).sequence = .ok true := by
        simp only [isAfter, Append.event, number?, Except.ok.injEq, decide_eq_true_eq]
        simp
        omega
      rw [filterAfter, behind, ih fun event member => numbered event (List.mem_cons_of_mem _ member)]
      rfl
  have room : slice (histories operationId).seen limit = (histories operationId).seen := by
    rw [slice, if_neg (by omega), List.take_of_length_le (by omega)]
  simp only [EventStore.readAfter, readRaw_kept kept, Except.bind, bind,
    sequenced _ (seen_numbered (kept.sound operationId)), room]
  rfl

end

/-- The calls of `append` in a run. -/
def appendsOf (steps : List Step) : List Append :=
  steps.filterMap fun step =>
    match step with
    | .append call => some call
    | .reopen => none

def Persisted (call : Append) (event : OperationEvent) : Prop :=
  ∃ sequence : Int, 1 ≤ sequence ∧ event = call.event sequence

theorem eventsOf_cons (operationId : String) (call : Append) (sequence : Int)
    (events : List OperationEvent) :
    eventsOf operationId (call.event sequence :: events) =
      if call.operationId = operationId then call.event sequence :: eventsOf operationId events
      else eventsOf operationId events := by
  simp only [eventsOf, List.filter_cons, Append.event, decide_eq_true_eq, Json.str.injEq]

/-- **A run does not fail**, and every file has the events of its operation behind what it had. -/
theorem run_kept {store : EventStore} {histories : String → History} (kept : Kept store histories)
    (steps : List Step) :
    ∃ events store', run store steps = .ok (events, store') ∧
      List.Forall₂ Persisted (appendsOf steps) events ∧
      Kept store' fun operationId =>
        (histories operationId).extend (eventsOf operationId events) := by
  induction steps generalizing store histories with
  | nil => exact ⟨[], store, rfl, .nil, by simpa [eventsOf] using kept⟩
  | cons step rest ih =>
    cases step with
    | reopen => exact ih (kept_reopen kept)
    | append call =>
      obtain ⟨sequence, middle, positive, appends, between⟩ := append_kept kept call
      obtain ⟨events, final, runs, persisted, after⟩ := ih between
      refine ⟨call.event sequence :: events, final, ?_, .cons ⟨sequence, positive, rfl⟩ persisted, ?_⟩
      · simp only [run, appends, bind, Except.bind, runs]
        rfl
      · convert after using 2 with operationId
        rw [eventsOf_cons]
        by_cases own : call.operationId = operationId
        · subst own
          rw [if_pos rfl, Function.update_self, History.extend_extend]
          rfl
        · rw [if_neg own, Function.update_of_ne (Ne.symm own)]

theorem seen_whole (events : List OperationEvent) :
    History.seen { after := events } = History.legible events := by
  cases events with
  | nil => rfl
  | cons next rest =>
    have blank : Blank (unfinished []) := by decide
    simp only [History.seen, blank, if_true]
    rfl

theorem persisted_eventsOf {calls : List Append} {events : List OperationEvent}
    (persisted : List.Forall₂ Persisted calls events) (operationId : String) :
    (eventsOf operationId events).length =
        (calls.filter fun call => call.operationId = operationId).length ∧
      ((∀ event ∈ eventsOf operationId events, Unbroken event.text) ↔
        ∀ call ∈ calls, call.operationId = operationId → call.Plain) := by
  induction persisted with
  | nil => simp [eventsOf]
  | @cons call event calls events first _ ih =>
    obtain ⟨sequence, _, rfl⟩ := first
    rw [eventsOf_cons, List.filter_cons]
    by_cases own : call.operationId = operationId
    · simp only [own, if_true, decide_true, List.length_cons, List.forall_mem_cons, ih.1, ih.2,
        unbroken_iff, true_implies, and_self]
    · simp only [own, if_false, decide_false, Bool.false_eq_true, List.forall_mem_cons, ih.1, ih.2,
        false_implies, true_and, and_self]

/-- **After any run, a reader finds the events whose records are one line.** -/
theorem readAfter_run (steps : List Step) (operationId : String) (limit : Int)
    (enough : (((appendsOf steps).filter fun call => call.operationId = operationId).length : Int)
      ≤ limit) :
    ∃ events store, run .empty steps = .ok (events, store) ∧
      List.Forall₂ Persisted (appendsOf steps) events ∧
      store.readAfter operationId 0 limit = .ok (History.legible (eventsOf operationId events)) := by
  obtain ⟨events, store, runs, persisted, kept⟩ := run_kept kept_empty steps
  refine ⟨events, store, runs, persisted, ?_⟩
  have whole := seen_whole (eventsOf operationId events)
  have shorter : (History.legible (eventsOf operationId events)).length ≤
      (eventsOf operationId events).length := List.length_filter_le _ _
  have counted := (persisted_eventsOf persisted operationId).1
  have read := readAfter_kept kept operationId limit (by
    show ((History.seen { after := [] ++ eventsOf operationId events }).length : Int) ≤ limit
    rw [List.nil_append, whole]
    omega)
  rw [read]
  exact congrArg Except.ok whole

/-- **Reading from the start gives exactly the appended events, in order and field for field, if and
only if no string of the operation's events contains U+0085, U+2028 or U+2029.** -/
theorem readAfter_run_iff (steps : List Step) (operationId : String) (limit : Int)
    (enough : (((appendsOf steps).filter fun call => call.operationId = operationId).length : Int)
      ≤ limit) :
    ∃ events store, run .empty steps = .ok (events, store) ∧
      List.Forall₂ Persisted (appendsOf steps) events ∧
      (store.readAfter operationId 0 limit = .ok (eventsOf operationId events) ↔
        ∀ call ∈ appendsOf steps, call.operationId = operationId → call.Plain) := by
  obtain ⟨events, store, runs, persisted, read⟩ := readAfter_run steps operationId limit enough
  refine ⟨events, store, runs, persisted, ?_⟩
  rw [read, ← (persisted_eventsOf persisted operationId).2, Except.ok.injEq, History.legible,
    List.filter_eq_self]
  simp only [decide_eq_true_eq]

def separated : Append where
  operationId := "op_1"
  state := "planning"
  eventType := "chat"
  payload := some [("message", .str "a\u2028b")]
  timestamp := ⟨"2025-01-01T00:00:00+00:00", forall_chars (by decide)⟩

theorem one_separated_enough : ∃ events store, run .empty [.append separated] = .ok (events, store) ∧
    List.Forall₂ Persisted [separated] events ∧
    (store.readAfter "op_1" 0 50 = .ok (eventsOf "op_1" events) ↔
      ∀ call ∈ [separated], call.operationId = "op_1" → call.Plain) :=
  readAfter_run_iff [.append separated] "op_1" 50 (by decide)

/-- **One event is appended, and none is read.** -/
theorem separated_lost : ∃ event store, run .empty [.append separated] = .ok ([event], store) ∧
    store.readAfter "op_1" 0 50 = .ok [] := by
  obtain ⟨events, store, runs, persisted, read⟩ :=
    readAfter_run [.append separated] "op_1" 50 (by decide)
  obtain ⟨event, rest, ⟨sequence, _, rfl⟩, none, rfl⟩ := List.forall₂_cons_left_iff.mp persisted
  cases none
  refine ⟨_, store, runs, ?_⟩
  have broken : ¬ Unbroken (separated.event sequence).text := by
    rw [unbroken_iff]
    decide
  rw [read, eventsOf_cons, if_pos (show separated.operationId = "op_1" from rfl)]
  simp [History.legible, eventsOf, broken]

end Audisor.Events
