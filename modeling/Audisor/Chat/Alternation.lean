/-
**When the thread of a chat alternates.**

* `Alternating`, `InTurn` — the messages of a thread in strict alternation, and a state that agrees with it.
* `Timely` — a call that comes in its turn: an event that ends a task or reports on one, while the agent
  has the turn.
* `step_inTurn_iff` — **one call keeps a state in turn exactly if it is timely**.
* `run_inTurn_iff` — so does a run, in all of its states, exactly if all of its calls are timely.
-/

import Audisor.Chat.TaskStore

namespace Audisor.Chat

open Json

/-! ### Threads -/

/-- Whose message stands at a place of a thread in alternation. -/
def roleAt (index : Nat) : Role := if index % 2 = 0 then .user else .agent

/-- **Strict alternation**, beginning with the user. -/
def Alternating (roles : List Role) : Prop :=
  ∀ index role, roles[index]? = some role → role = roleAt index

theorem alternating_nil : Alternating [] := by
  intro index role found
  cases found

theorem alternating_append {roles : List Role} {role : Role} :
    Alternating (roles ++ [role]) ↔ Alternating roles ∧ role = roleAt roles.length := by
  constructor
  · intro alternating
    refine ⟨fun index other found => alternating index other ?_, alternating roles.length role ?_⟩
    · rw [List.getElem?_append_left (List.getElem?_eq_some_iff.mp found).1, found]
    · rw [List.getElem?_concat_length]
  · rintro ⟨alternating, rfl⟩ index other found
    by_cases within : index < roles.length
    · rw [List.getElem?_append_left within] at found
      exact alternating index other found
    · rw [List.getElem?_append_right (not_lt.mp within), List.getElem?_singleton] at found
      split at found
      · rename_i last
        cases found
        congr 1
        omega
      · cases found

theorem roleAt_succ (index : Nat) : roleAt (index + 1) = .user ↔ roleAt index = .agent := by
  unfold roleAt
  by_cases even : index % 2 = 0
  · have odd : ¬ (index + 1) % 2 = 0 := by omega
    rw [if_pos even, if_neg odd]
    decide
  · have odd : (index + 1) % 2 = 0 := by omega
    rw [if_neg even, if_pos odd]
    decide

theorem getLast?_alternating {roles : List Role} (alternating : Alternating roles) :
    roles.getLast? = some .user ↔ roleAt roles.length = .agent := by
  rcases List.eq_nil_or_concat' roles with rfl | ⟨front, last, rfl⟩
  · decide
  · obtain ⟨_, rfl⟩ := alternating_append.mp alternating
    rw [List.getLast?_concat, List.length_append, List.length_singleton, Option.some.injEq]
    have next := roleAt_succ front.length
    cases own : roleAt front.length with
    | user =>
      have other : roleAt (front.length + 1) ≠ .user := fun same => by
        rw [next, own] at same
        cases same
      cases behind : roleAt (front.length + 1) with
      | user => exact absurd behind other
      | agent => exact iff_of_true rfl rfl
    | agent =>
      rw [next.mpr own]
      decide

/-! ### States -/

def roles (s : AppState) : List Role := s.messages.map ChatMessage.role

/-- **A state in turn**: no task is loading in the turn of the user, the messages alternate, and the last
one is of the user exactly in the turn of the agent. -/
def InTurn (s : AppState) : Prop :=
  (s.turn = .user → s.loading = false) ∧ Alternating (roles s) ∧
    ((roles s).getLast? = some .user ↔ s.turn = .agent)

theorem inTurn_iff {s : AppState} : InTurn s ↔
    (s.turn = .user → s.loading = false) ∧ Alternating (roles s) ∧ s.turn = roleAt (roles s).length := by
  refine and_congr_right fun _ => and_congr_right fun alternating => ?_
  rw [getLast?_alternating alternating]
  cases s.turn <;> cases roleAt (roles s).length <;> decide

/-! ### Events in their turn -/

/-- An event that changes neither the thread nor the turn, and loads nothing. -/
def Quiet (event : AgentEvent) : Prop :=
  event.eventType = .participantActivityUpdate ∨ event.eventType = .participantOutcomeRecorded

/-- **An event in its turn**: a quiet one, or one in the turn of the agent. -/
def EventTimely (turn : Role) (event : AgentEvent) : Prop := Quiet event ∨ turn = .agent

/-- Events that each come in their turn, which a terminal one ends. -/
def EventsTimely (turn : Role) : List (Clock × AgentEvent) → Prop
  | [] => True
  | given :: rest => EventTimely turn given.2 ∧
      EventsTimely (if given.2.isTerminal then .user else turn) rest

variable {display : Json → String} {clock : Clock} {event : AgentEvent} {s : AppState}

theorem tracked_eq : (tracked event s).turn = s.turn ∧ (tracked event s).loading = s.loading ∧
    roles (tracked event s) = roles s := by
  unfold tracked
  split
  · split
    · exact ⟨rfl, rfl, rfl⟩
    · exact ⟨rfl, rfl, rfl⟩
  · exact ⟨rfl, rfl, rfl⟩

theorem quiet_not_terminal (quiet : Quiet event) : event.isTerminal = false := by
  rcases quiet with type | type <;> rw [AgentEvent.isTerminal, type] <;> decide

theorem handleEvent_quiet (quiet : Quiet event) :
    (handleEvent display clock event s).turn = s.turn ∧
      (handleEvent display clock event s).loading = s.loading ∧
      roles (handleEvent display clock event s) = roles s := by
  obtain ⟨turn, loading, thread⟩ := @tracked_eq event s
  rcases quiet with type | type
  · have read : handleEvent display clock event s = activityUpdated event (tracked event s) := by
      rw [handleEvent, type]
    rw [read, activityUpdated]
    split
    · exact ⟨turn, loading, thread⟩
    · exact ⟨turn, loading, thread⟩
  · have read : handleEvent display clock event s = outcomeRecorded display event (tracked event s) := by
      rw [handleEvent, type]
    rw [read, outcomeRecorded]
    split
    · exact ⟨turn, loading, thread⟩
    · exact ⟨turn, loading, thread⟩

theorem handleEvent_loud (loud : ¬ Quiet event) :
    (handleEvent display clock event s).turn = (if event.isTerminal then .user else s.turn) ∧
      (handleEvent display clock event s).loading = !event.isTerminal ∧
      roles (handleEvent display clock event s) =
        (if event.isTerminal then roles s ++ [.agent] else roles s) := by
  obtain ⟨turn, loading, thread⟩ := @tracked_eq event s
  by_cases type : event.eventType = .participantActivated
  · have ordinary : event.isTerminal = false := by
      rw [AgentEvent.isTerminal, type]
      decide
    have read : handleEvent display clock event s = activated clock event (tracked event s) := by
      rw [handleEvent, type]
    rw [read, ordinary]
    exact ⟨turn, rfl, thread⟩
  · have read : handleEvent display clock event s = generalEvent clock event (tracked event s) := by
      rw [handleEvent]
      split
      · rename_i own
        exact absurd own type
      · rename_i own
        exact absurd (Or.inl own) loud
      · rename_i own
        exact absurd (Or.inr own) loud
      · rfl
    rw [read, generalEvent]
    refine ⟨by rw [← turn], rfl, ?_⟩
    cases event.isTerminal with
    | true =>
      rw [roles, if_pos rfl, List.map_append, if_pos rfl, ← thread]
      rfl
    | false =>
      rw [roles, if_neg Bool.false_ne_true, if_neg Bool.false_ne_true]
      exact thread

theorem handleEvent_turn :
    (handleEvent display clock event s).turn = if event.isTerminal then .user else s.turn := by
  by_cases quiet : Quiet event
  · rw [(handleEvent_quiet quiet).1, quiet_not_terminal quiet]
    rfl
  · exact (handleEvent_loud quiet).1

theorem handleEvent_roles : roles (handleEvent display clock event s) =
    roles s ++ if event.isTerminal then [.agent] else [] := by
  by_cases quiet : Quiet event
  · rw [(handleEvent_quiet quiet).2.2, quiet_not_terminal quiet, if_neg Bool.false_ne_true,
      List.append_nil]
  · rw [(handleEvent_loud quiet).2.2]
    cases event.isTerminal with
    | true => rfl
    | false => exact (List.append_nil _).symm

/-- **An event keeps a state in turn** exactly if it comes in its turn. -/
theorem event_inTurn_iff (inTurn : InTurn s) :
    InTurn (handleEvent display clock event s) ↔ EventTimely s.turn event := by
  obtain ⟨idle, alternating, turn⟩ := inTurn_iff.mp inTurn
  rw [inTurn_iff]
  by_cases quiet : Quiet event
  · obtain ⟨turn', loading, thread⟩ := @handleEvent_quiet display clock event s quiet
    rw [turn', loading, thread]
    exact iff_of_true ⟨idle, alternating, turn⟩ (Or.inl quiet)
  · obtain ⟨turn', loading, thread⟩ := @handleEvent_loud display clock event s quiet
    rw [turn', loading, thread, EventTimely, or_iff_right quiet]
    cases event.isTerminal with
    | true =>
      rw [if_pos rfl, if_pos rfl, alternating_append, List.length_append, List.length_singleton]
      constructor
      · rintro ⟨_, ⟨_, answered⟩, _⟩
        exact turn.trans answered.symm
      · intro agent
        rw [agent] at turn
        exact ⟨fun _ => rfl, ⟨alternating, turn⟩, ((roleAt_succ _).mpr turn.symm).symm⟩
    | false =>
      rw [if_neg Bool.false_ne_true, if_neg Bool.false_ne_true]
      constructor
      · rintro ⟨free, _⟩
        cases own : s.turn with
        | user => exact absurd (free own) (by decide)
        | agent => rfl
      · intro agent
        refine ⟨fun user => ?_, alternating, turn⟩
        cases agent.symm.trans user

/-- **A state that no event sets right**: the thread does not alternate, or a task is loading in the turn
of the user. -/
def Broken (s : AppState) : Prop :=
  ¬ Alternating (roles s) ∨ s.turn = .user ∧ roleAt (roles s).length = .user ∧ s.loading = true

theorem not_inTurn_of_broken (broken : Broken s) : ¬ InTurn s := by
  intro inTurn
  rcases broken with other | ⟨turn, _, loading⟩
  · exact other inTurn.2.1
  · cases loading.symm.trans (inTurn.1 turn)

theorem not_alternating_of_terminal (turn : roleAt (roles s).length = .user)
    (terminal : event.isTerminal = true) :
    ¬ Alternating (roles (handleEvent display clock event s)) := by
  rw [handleEvent_roles, if_pos terminal, alternating_append]
  rintro ⟨_, answered⟩
  cases answered.trans turn

theorem broken_loud (loud : ¬ Quiet event) (own : s.turn = .user)
    (turn : roleAt (roles s).length = .user) : Broken (handleEvent display clock event s) := by
  obtain ⟨turn', loading, thread⟩ := @handleEvent_loud display clock event s loud
  by_cases terminal : event.isTerminal = true
  · exact Or.inl (not_alternating_of_terminal turn terminal)
  · rw [if_neg terminal] at turn' thread
    rw [Bool.eq_false_iff.mpr terminal] at loading
    exact Or.inr ⟨turn'.trans own, by rw [thread, turn], loading⟩

theorem broken_of_untimely (inTurn : InTurn s) (untimely : ¬ EventTimely s.turn event) :
    Broken (handleEvent display clock event s) := by
  obtain ⟨_, _, turn⟩ := inTurn_iff.mp inTurn
  rw [EventTimely, not_or] at untimely
  have own : s.turn = .user := by
    cases role : s.turn with
    | user => rfl
    | agent => exact absurd role untimely.2
  exact broken_loud untimely.1 own (turn.symm.trans own)

theorem broken_event (broken : Broken s) : Broken (handleEvent display clock event s) := by
  rcases broken with other | ⟨own, turn, loading⟩
  · refine Or.inl fun alternating => other ?_
    rw [handleEvent_roles] at alternating
    split at alternating
    · exact (alternating_append.mp alternating).1
    · rwa [List.append_nil] at alternating
  · by_cases quiet : Quiet event
    · obtain ⟨turn', loading', thread⟩ := @handleEvent_quiet display clock event s quiet
      exact Or.inr ⟨turn'.trans own, by rw [thread, turn], loading'.trans loading⟩
    · exact broken_loud quiet own turn

theorem broken_events (events : List (Clock × AgentEvent)) (broken : Broken s) :
    Broken (handleEvents display events s) := by
  induction events generalizing s with
  | nil => exact broken
  | cons given rest ih => exact ih (broken_event broken)

/-- **Events keep a state in turn** exactly if each comes in its turn. -/
theorem events_inTurn_iff (events : List (Clock × AgentEvent)) (inTurn : InTurn s) :
    InTurn (handleEvents display events s) ↔ EventsTimely s.turn events := by
  induction events generalizing s with
  | nil => exact iff_of_true inTurn trivial
  | cons given rest ih =>
    have first := @event_inTurn_iff display given.1 given.2 s inTurn
    by_cases timely : EventTimely s.turn given.2
    · have next := ih (first.mpr timely)
      rw [handleEvent_turn] at next
      exact next.trans (and_iff_right timely).symm
    · refine iff_of_false (not_inTurn_of_broken (broken_events rest ?_)) fun both => timely both.1
      exact broken_of_untimely inTurn timely

theorem handleEvents_roles (events : List (Clock × AgentEvent)) (s : AppState) :
    roles (handleEvents display events s) =
      roles s ++ (events.filter fun given => given.2.isTerminal).map fun _ => .agent := by
  induction events generalizing s with
  | nil => exact (List.append_nil _).symm
  | cons given rest ih =>
    refine (ih _).trans ?_
    rw [handleEvent_roles, List.append_assoc, List.filter_cons]
    split
    · rfl
    · rw [List.nil_append]

/-! ### Calls in their turn -/

/-- **A call in its turn**: while a message is sent no task ends, and every event that is handled, or that a
cancellation hands over, comes in its turn. -/
def Timely (s : AppState) : Action → Prop
  | .sendMessage text _ _ emitted =>
    accepts s text = true → ∀ given ∈ emitted, given.2.isTerminal = false
  | .handleEvent _ event => EventTimely s.turn event
  | .cancelTask emitted => s.eventSource = true → EventsTimely s.turn emitted
  | .reset => True
  | .bindEventSource => True
  | .estimated _ => True

theorem sendMessage_inTurn_iff (text : String) (clock : Clock) (taskId : String)
    (emitted : List (Clock × AgentEvent)) (inTurn : InTurn s) (accepted : accepts s text = true) :
    InTurn (sendMessage display text clock taskId emitted s) ↔
      ∀ given ∈ emitted, given.2.isTerminal = false := by
  obtain ⟨_, alternating, turn⟩ := inTurn_iff.mp inTurn
  have own : s.turn = .user := by
    simp only [accepts, Bool.and_eq_true, decide_eq_true_eq] at accepted
    exact accepted.1.1.2
  have next : roleAt (roles s).length = .user := turn.symm.trans own
  have thread : roles (sendMessage display text clock taskId emitted s) =
      roles s ++ ((emitted.filter fun given => given.2.isTerminal).map fun _ => .agent) ++ [.user] := by
    rw [← handleEvents_roles, sendMessage, if_pos accepted]
    exact List.map_append
  have turn' : (sendMessage display text clock taskId emitted s).turn = .agent := by
    rw [sendMessage, if_pos accepted]
  rw [inTurn_iff, thread, turn']
  cases answers : emitted.filter fun given => given.2.isTerminal with
  | nil =>
    rw [List.map_nil, List.append_nil, alternating_append, List.length_append, List.length_singleton]
    refine iff_of_true ⟨fun user => absurd user (by decide), ⟨alternating, next.symm⟩, ?_⟩ ?_
    · cases after : roleAt ((roles s).length + 1) with
      | agent => rfl
      | user =>
        rw [roleAt_succ, next] at after
        cases after
    · intro given member
      exact Bool.eq_false_iff.mpr (List.filter_eq_nil_iff.mp answers given member)
  | cons given rest =>
    refine iff_of_false ?_ fun silent => ?_
    · rintro ⟨_, alternating', _⟩
      rw [List.map_cons, List.append_assoc, List.cons_append, ← List.singleton_append,
        ← List.append_assoc] at alternating'
      have answered := alternating' (roles s).length .agent (by simp)
      cases answered.trans next
    · have member : given ∈ emitted.filter fun given => given.2.isTerminal := by
        rw [answers]
        exact List.mem_cons_self
      obtain ⟨among, terminal⟩ := List.mem_filter.mp member
      cases (silent given among).symm.trans terminal

/-- **One call keeps a state in turn** exactly if it comes in its turn. -/
theorem step_inTurn_iff (inTurn : InTurn s) (action : Action) :
    InTurn (step display s action) ↔ Timely s action := by
  cases action with
  | sendMessage text clock taskId emitted =>
    by_cases accepted : accepts s text = true
    · rw [Timely, imp_iff_right accepted]
      exact sendMessage_inTurn_iff text clock taskId emitted inTurn accepted
    · have same : step display s (.sendMessage text clock taskId emitted) = s := if_neg accepted
      rw [same]
      exact iff_of_true inTurn fun sent => absurd sent accepted
  | handleEvent clock event => exact event_inTurn_iff inTurn
  | cancelTask emitted =>
    by_cases bound : s.eventSource = true
    · have same : step display s (.cancelTask emitted) = handleEvents display emitted s := if_pos bound
      rw [same, Timely, imp_iff_right bound]
      exact events_inTurn_iff emitted inTurn
    · have same : step display s (.cancelTask emitted) = s := if_neg bound
      rw [same]
      exact iff_of_true inTurn fun bound' => absurd bound' bound
  | reset => exact iff_of_true (inTurn_iff.mpr ⟨fun _ => rfl, alternating_nil, rfl⟩) trivial
  | bindEventSource => exact iff_of_true inTurn trivial
  | estimated overLimit => exact iff_of_true inTurn trivial

/-! ### Runs -/

variable (display)

def states (s : AppState) : List Action → List AppState
  | [] => [s]
  | action :: rest => s :: states (step display s action) rest

/-- **A run in which every call comes in its turn.** -/
def TimelyRun (s : AppState) : List Action → Prop
  | [] => True
  | action :: rest => Timely s action ∧ TimelyRun (step display s action) rest

theorem head_mem_states (s : AppState) (actions : List Action) : s ∈ states display s actions := by
  cases actions with
  | nil => exact List.mem_singleton_self s
  | cons action rest => exact List.mem_cons_self

theorem run_inTurn_iff (s : AppState) (inTurn : InTurn s) (actions : List Action) :
    (∀ state ∈ states display s actions, InTurn state) ↔ TimelyRun display s actions := by
  induction actions generalizing s with
  | nil => exact iff_of_true (List.forall_mem_singleton.mpr inTurn) trivial
  | cons action rest ih =>
    have current : InTurn (step display s action) ↔ Timely s action := step_inTurn_iff inTurn action
    rw [states, List.forall_mem_cons, and_iff_right inTurn, TimelyRun, ← current]
    constructor
    · intro each
      have next := each _ (head_mem_states display _ rest)
      exact ⟨next, (ih _ next).mp each⟩
    · rintro ⟨next, timely⟩
      exact (ih _ next).mpr timely

/-- **The thread of a chat alternates** in all states of a run exactly if every call of it comes in its
turn. -/
theorem thread_alternates_iff (actions : List Action) :
    (∀ state ∈ states display initialState actions, InTurn state) ↔
      TimelyRun display initialState actions :=
  run_inTurn_iff display initialState (inTurn_iff.mpr ⟨fun _ => rfl, alternating_nil, rfl⟩) actions

/-- A chat whose task is over, and a chunk of its output that comes late. -/
def lateChunk : List Action :=
  let clock : Clock := ⟨0, 0, "2026-01-01T00:00:00Z"⟩
  let event (eventType : EventType) (stage : Stage) : AgentEvent :=
    { eventId := "evt-0", sequence := 0, taskId := "task-0", eventType, stage, message := "done"
      timestamp := none }
  [.bindEventSource, .sendMessage "hello" clock "task-0" [],
    .handleEvent clock (event .taskCompleted .completed),
    .handleEvent clock (event .toolOutputStream .editing)]

/-- Behind a late chunk of output the composer is locked in the turn of the user. -/
theorem late_chunk_locks : ¬ ∀ actions, ∀ state ∈ states (fun _ => "") initialState actions,
    InTurn state := by
  intro always
  have last := always lateChunk
    (lateChunk.foldl (step fun _ => "") initialState) (by simp [states, lateChunk])
  have turn : (lateChunk.foldl (step fun _ => "") initialState).turn = .user := by decide +kernel
  have loading : (lateChunk.foldl (step fun _ => "") initialState).loading = true := by decide +kernel
  cases loading.symm.trans (last.1 turn)

end Audisor.Chat
