/-
**What the state of the chat always satisfies.**

* `StoreCall` — all calls that the application makes of the store.
* `Consistent` — one workspace at most is active; the participants are those that are listed; the record holds
  valid entries only; no file is listed twice; an activity is there with both of its ids, or not at all.
* **`calls_consistent`** — every state of every run of calls is consistent.
-/

import Audisor.Chat.Alternation

namespace Audisor.Chat

open Json

variable (display : Json → String)

/-! ### Calls -/

/-- A call of the store, in the order of the source. -/
inductive StoreCall where
  | setDraft (text : String)
  | setSelectedModel (model : Option String)
  | action (action : Action)
  | toggleDrawer
  | openDrawerForWorkspace (workspaceId : String)
  /-- The event source can reattach, and hands over some events. -/
  | reattachOperation (operationId : String) (emitted : List (Clock × AgentEvent))

/-- `openDrawerForWorkspace(workspaceId)`. -/
def openDrawerForWorkspace (workspaceId : String) (s : AppState) : AppState :=
  match s.workspaces.find? fun ws => ws.id = workspaceId with
  | some ws => { s with drawerOpen := true, task := { s.task with currentWorkspace := ws.name } }
  | none => s

/-- `reattachOperation(operationId)`. -/
def reattachOperation (operationId : String) (emitted : List (Clock × AgentEvent)) (s : AppState) :
    AppState :=
  if s.eventSource then
    { handleEvents display emitted s with
      currentOperationId := some (.str operationId)
      loading := true
      turn := .agent
      task := { initialTask with
        taskId := some ("task-" ++ operationId)
        status := .running
        objective := "Reattaching to operation..." } }
  else s

def call (s : AppState) : StoreCall → AppState
  | .setDraft text => { s with draft := text }
  | .setSelectedModel model => { s with selectedModel := model }
  | .action action => step display s action
  | .toggleDrawer => { s with drawerOpen := !s.drawerOpen }
  | .openDrawerForWorkspace workspaceId => openDrawerForWorkspace workspaceId s
  | .reattachOperation operationId emitted => reattachOperation display operationId emitted s

/-! ### The invariant -/

/-- The workspaces have names of their own, and one at most is active. -/
structure Tidy (workspaces : List Workspace) : Prop where
  named : "" ∉ workspaces.map Workspace.id
  distinct : (workspaces.map Workspace.id).Nodup
  alone : ∀ ws ∈ workspaces, ∀ other ∈ workspaces, ws.isActive → other.isActive → ws.id = other.id

/-- The activity of a task and its two ids belong together; a file is named once. -/
structure TaskState.Sound (task : TaskState) : Prop where
  activity : task.activeActivityId = task.activeActivity.map TaskActivity.activityId ∧
    task.activeParticipantId = task.activeActivity.map TaskActivity.participantId
  files : task.filesTouched.Nodup ∧ "" ∉ task.filesTouched
  entries : ∀ entry ∈ task.taskRecord, validateRecordEntry display (some entry) = .ok entry

/-- **A consistent state.** -/
structure Consistent (s : AppState) : Prop where
  tidy : Tidy s.workspaces
  participants : ∀ ws ∈ s.workspaces, ws.taskParticipant = s.participatingWorkspaceIds.contains ws.id
  task : s.task.Sound display

variable {display} {s : AppState} {event : AgentEvent} {clock : Clock} {workspaces : List Workspace}

theorem initialTask_files : initialTask.filesTouched.Nodup ∧ "" ∉ initialTask.filesTouched :=
  ⟨List.nodup_nil, List.not_mem_nil⟩

theorem initialTask_sound : initialTask.Sound display :=
  ⟨⟨rfl, rfl⟩, initialTask_files, List.forall_mem_nil _⟩

theorem initialState_consistent : Consistent display initialState where
  tidy := ⟨by decide, by decide, by decide⟩
  participants := by decide
  task := initialTask_sound

/-! ### Events -/

theorem touched_id (ws : Workspace) : (touched event ws).id = ws.id := by
  unfold touched
  repeat' split
  all_goals rfl

theorem touched_taskParticipant (ws : Workspace) :
    (touched event ws).taskParticipant = ws.taskParticipant := by
  unfold touched
  repeat' split
  all_goals rfl

theorem map_ids {change : Workspace → Workspace} (same : ∀ ws, (change ws).id = ws.id) :
    (workspaces.map change).map Workspace.id = workspaces.map Workspace.id := by
  rw [List.map_map]
  exact List.map_congr_left fun ws _ => same ws

theorem Tidy.idle (tidy : Tidy workspaces) {change : Workspace → Workspace}
    (same : ∀ ws, (change ws).id = ws.id) (idle : ∀ ws, (change ws).isActive = false) :
    Tidy (workspaces.map change) where
  named := by rw [map_ids same]; exact tidy.named
  distinct := by rw [map_ids same]; exact tidy.distinct
  alone _ listed _ _ active _ := by
    obtain ⟨ws, _, rfl⟩ := List.mem_map.mp listed
    rw [idle] at active
    cases active

/-- After an event a workspace is active if the event is about it, or if it was and the event is about none. -/
theorem touched_isActive {ws : Workspace} (active : (touched event ws).isActive = true) :
    some ws.id = event.workspaceId ∨ (event.workspaceId.getD "" = "" ∧ ws.isActive = true) := by
  unfold touched at active
  split at active
  · exact .inl ‹_›
  · split at active
    · cases active
    · split at active
      · cases active
      · rename_i elsewhere _
        refine .inr ⟨?_, active⟩
        simpa [active] using elsewhere

theorem Tidy.touched (tidy : Tidy workspaces) : Tidy (workspaces.map (touched event)) where
  named := by rw [map_ids touched_id]; exact tidy.named
  distinct := by rw [map_ids touched_id]; exact tidy.distinct
  alone := by
    have unnamed : ∀ ws ∈ workspaces, some ws.id = event.workspaceId → event.workspaceId.getD "" ≠ "" := by
      intro ws own about blank
      rw [← about] at blank
      exact tidy.named (List.mem_map.mpr ⟨ws, own, blank⟩)
    intro _ listed _ listed' active active'
    obtain ⟨ws, own, rfl⟩ := List.mem_map.mp listed
    obtain ⟨other, own', rfl⟩ := List.mem_map.mp listed'
    rw [touched_id, touched_id]
    rcases touched_isActive active with about | ⟨blank, held⟩ <;>
      rcases touched_isActive active' with about' | ⟨blank', held'⟩
    · exact Option.some.inj (about.trans about'.symm)
    · exact absurd blank' (unnamed ws own about)
    · exact absurd blank (unnamed other own' about')
    · exact tidy.alone ws own other own' held held'

theorem newlyTouched_files {files : List String} (sound : files.Nodup ∧ "" ∉ files) :
    (newlyTouched event files).Nodup ∧ "" ∉ newlyTouched event files := by
  unfold newlyTouched
  split
  · rename_i path _
    split
    · rename_i fresh
      obtain ⟨some, new⟩ : path ≠ "" ∧ path ∉ files := by simpa using fresh
      refine ⟨List.nodup_append.mpr ⟨sound.1, List.nodup_singleton _, ?_⟩, ?_⟩
      · rintro file own _ last rfl
        exact new (List.mem_singleton.mp last ▸ own)
      · rw [List.mem_append, List.mem_singleton]
        exact fun blank => blank.elim sound.2 fun same => some same.symm
    · exact sound
  · exact sound

theorem TaskState.Sound.after (sound : s.task.Sound display) :
    (taskAfter event workspaces s.task).Sound display := by
  unfold taskAfter
  dsimp only
  split
  · exact ⟨⟨rfl, rfl⟩, newlyTouched_files sound.files, sound.entries⟩
  · exact ⟨sound.activity, newlyTouched_files sound.files, sound.entries⟩

theorem validateRecordEntry_eq {payload : Option Json} {entry : Json}
    (valid : validateRecordEntry display payload = .ok entry) :
    validateRecordEntry display (some entry) = .ok entry := by
  cases payload with
  | some value =>
    have same : value = entry := by
      unfold validateRecordEntry at valid
      dsimp only at valid
      split at valid
      · cases valid
      · exact Except.ok.inj valid
    exact same ▸ same ▸ valid
  | none => cases valid

/-- **One event** keeps a state consistent. -/
theorem Consistent.handle (consistent : Consistent display s) :
    Consistent display (handleEvent display clock event s) := by
  obtain ⟨tidy, participants, sound⟩ : Consistent display (tracked event s) := by
    unfold tracked
    repeat' split
    all_goals exact ⟨consistent.tidy, consistent.participants, consistent.task⟩
  unfold handleEvent
  generalize tracked event s = s at tidy participants sound
  split
  · exact ⟨tidy, participants, ⟨rfl, rfl⟩, sound.files, sound.entries⟩
  · unfold activityUpdated
    split
    · exact ⟨tidy, participants, sound⟩
    · rename_i activity working
      have ids := sound.activity
      rw [working] at ids
      exact ⟨tidy, participants, ids, sound.files, sound.entries⟩
  · unfold outcomeRecorded
    split
    · exact ⟨tidy, participants, sound⟩
    · rename_i entry valid
      refine ⟨tidy, participants, ⟨rfl, rfl⟩, sound.files, fun recorded listed => ?_⟩
      rcases List.mem_append.mp listed with earlier | last
      · exact sound.entries recorded earlier
      · rw [List.mem_singleton.mp last]
        exact validateRecordEntry_eq valid
  · refine ⟨tidy.touched, fun ws listed => ?_, sound.after⟩
    obtain ⟨earlier, own, rfl⟩ := List.mem_map.mp listed
    rw [touched_taskParticipant, touched_id]
    exact participants earlier own

theorem Consistent.handleAll (consistent : Consistent display s)
    (events : List (Clock × AgentEvent)) : Consistent display (handleEvents display events s) := by
  induction events generalizing s with
  | nil => exact consistent
  | cons first rest ih => exact ih consistent.handle

/-! ### Calls of the user -/

theorem Consistent.sendMessage (consistent : Consistent display s) (text : String) (taskId : String)
    (emitted : List (Clock × AgentEvent)) :
    Consistent display (sendMessage display text clock taskId emitted s) := by
  unfold Chat.sendMessage
  split
  · have after := consistent.handleAll emitted
    refine ⟨after.tidy.idle (fun _ => rfl) fun _ => rfl, ?_, ⟨rfl, rfl⟩, initialTask_files,
      List.forall_mem_nil _⟩
    intro _ listed
    obtain ⟨ws, _, rfl⟩ := List.mem_map.mp listed
    show (decide (ws.id = _) || List.contains _ ws.id) = List.contains (_ :: _) ws.id
    rw [List.contains_cons]
    rfl
  · exact consistent

/-- **One call** keeps a state consistent. -/
theorem Consistent.call (consistent : Consistent display s) (given : StoreCall) :
    Consistent display (call display s given) := by
  have same : ∀ next : AppState, next.workspaces = s.workspaces →
      next.participatingWorkspaceIds = s.participatingWorkspaceIds →
      next.task.Sound display → Consistent display next := by
    intro next workspaces participants sound
    refine ⟨workspaces ▸ consistent.tidy, ?_, sound⟩
    rw [workspaces, participants]
    exact consistent.participants
  cases given with
  | setDraft | setSelectedModel | toggleDrawer => exact same _ rfl rfl consistent.task
  | action action =>
    cases action with
    | sendMessage text clock taskId emitted => exact consistent.sendMessage text taskId emitted
    | handleEvent clock event => exact consistent.handle
    | cancelTask emitted =>
      show Consistent display (cancelTask display emitted s)
      unfold cancelTask
      split
      · exact consistent.handleAll emitted
      · exact consistent
    | reset =>
      have start := @initialState_consistent display
      exact ⟨start.tidy, start.participants, start.task⟩
    | bindEventSource | estimated => exact same _ rfl rfl consistent.task
  | openDrawerForWorkspace workspaceId =>
    show Consistent display (openDrawerForWorkspace workspaceId s)
    unfold openDrawerForWorkspace
    split
    · exact same _ rfl rfl ⟨consistent.task.activity, consistent.task.files, consistent.task.entries⟩
    · exact consistent
  | reattachOperation operationId emitted =>
    show Consistent display (reattachOperation display operationId emitted s)
    unfold reattachOperation
    split
    · have after := consistent.handleAll emitted
      exact ⟨after.tidy, after.participants, ⟨rfl, rfl⟩, initialTask_files, List.forall_mem_nil _⟩
    · exact consistent

/-- **Every state of every run is consistent**: after any calls of the user and any events, in any order. -/
theorem calls_consistent (calls : List StoreCall) :
    Consistent display (calls.foldl (call display) initialState) := by
  have run : ∀ s, Consistent display s → Consistent display (calls.foldl (call display) s) := by
    induction calls with
    | nil => exact fun _ consistent => consistent
    | cons first rest ih => exact fun s consistent => ih _ (consistent.call first)
  exact run _ initialState_consistent

end Audisor.Chat
