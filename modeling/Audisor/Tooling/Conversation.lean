/-
**What the provider is told.**

* `utterance` — a message as something that asks or answers.
* `Answerable` — the calls of a response leave no question open: none needs approval; when some are left
  to the frontend, the response's identifiers are those of the frontend's calls, each once; else the
  identifiers of the executed calls are distinct.
* **`conversation_wellFormed_iff`** — every message list sent is well formed exactly when the first one
  is and every response that is followed by another call is answerable.
-/

import Audisor.Tooling.Driving
import Audisor.Interaction.Exchanges

namespace Audisor.Tooling

open Interaction Json Controller

variable {loop : ToolLoop}

/-! ### Messages as utterances -/

/-- The identifier of an entry of `tool_calls`. -/
def entryId : Json → Json
  | .obj fields => Json.getD fields "id" .null
  | _ => .null

def utterance (message : Dict) : Utterance Json :=
  if Json.get? message "role" = some (.str "tool") then
    .answers (Json.getD message "tool_call_id" .null)
  else if Json.get? message "role" = some (.str "assistant") then
    match Json.get? message "tool_calls" with
    | some (.arr entries) => .asks (entries.map entryId)
    | _ => .other
  else .other

def talkOf (messages : List Dict) : List (Utterance Json) := messages.map utterance

@[simp] theorem utterance_toolCallsMessage (entries : List Dict) :
    utterance (toolCallsMessage entries) = .asks (entries.map fun entry => entryId (.obj entry)) := by
  simp [utterance, toolCallsMessage, Function.comp_def]

@[simp] theorem utterance_toolMessage (callId content : Json) :
    utterance (toolMessage callId content) = .answers callId := by
  simp [utterance, toolMessage, getD]

@[simp] theorem utterance_blockedMessage : utterance blockedMessage = .other := by
  simp [utterance, blockedMessage]

@[simp] theorem entryId_toolCallEntry (callId name arguments : Json) :
    entryId (.obj (toolCallEntry callId name arguments)) = callId := by
  simp [entryId, toolCallEntry, getD]

@[simp] theorem talkOf_say (state : LoopState) (message : Dict) :
    talkOf (state.say message).messages = talkOf state.messages ++ [utterance message] := by
  simp [talkOf, LoopState.say]

@[simp] theorem trace_messages (state : LoopState) (entry : ToolTraceEntry) :
    (state.trace entry).messages = state.messages := rfl

/-! ### The condition -/

/-- The calls of a response, sorted with the identifiers that are drawn for them. -/
def sortedWith (loop : ToolLoop) : List Dict → List String → SortedCalls →
    Except PyError SortedCalls
  | tc :: rest, token :: tokens, sorted => do
    let call ← readCall tc token
    let destination ← loop.destination call.name
    sortedWith loop rest tokens (sorted.add call destination)
  | _, _, sorted => .ok sorted

/-- The identifiers of a response's calls, as a continuation keeps them. -/
def ProviderResponse.rawIds (response : ProviderResponse) : List Json :=
  response.toolCalls.map fun tc => Json.getD tc "id" (.str "")

/-- The sorted calls of a response leave no question open. -/
def SortedCalls.Answerable (sorted : SortedCalls) (rawIds : List Json) : Prop :=
  sorted.approval = [] ∧
    if sorted.frontend = [] then (sorted.backend.map ReadCall.callId).Nodup
    else Matched rawIds (sorted.frontend.map PendingToolCall.callId)

/-- **The calls of a response leave no question open.** -/
def Answerable (loop : ToolLoop) (response : ProviderResponse) (tokens : List String) : Prop :=
  ∀ sorted, sortedWith loop response.toolCalls tokens {} = .ok sorted →
    sorted.Answerable response.rawIds

/-- The next message list will be well formed: the first one is, or the last response is answerable. -/
def Ready (loop : ToolLoop) (initial : List Dict) : LastResponse → Prop
  | none => WellFormed (talkOf initial)
  | some (response, tokens) => Answerable loop response tokens

def LoopOp.WellFormed : LoopOp → Prop
  | .call messages _ _ _ _ => Interaction.WellFormed (talkOf messages)
  | _ => True

/-! ### The machine of a conversation -/

/-- How a conversation went: whether every response before a call was answerable and every frontend
honest, and the last response. -/
structure Course where
  good : Prop
  last : LastResponse

def Course.after (loop : ToolLoop) (initial : List Dict) (k : Course) (op : LoopOp)
    (answer : op.Answer) : Course where
  good :=
    match op, answer with
    | .call _ _ _ _ _, _ => k.good ∧ Ready loop initial k.last
    | .frontend pendingCalls, toolResults => k.good ∧ Answers pendingCalls toolResults
    | _, _ => k.good
  last := advance k.last op answer

theorem Course.after_last (k : Course) {initial : List Dict} {op : LoopOp} (answer : op.Answer) :
    (k.after loop initial op answer).last = advance k.last op answer := rfl

/-- While all went well, a call is well formed exactly when it should be. -/
def courseOf (loop : ToolLoop) (initial : List Dict) : Protocol loopSignature Course where
  Move := fun k op answer k' => k' = k.after loop initial op answer ∧
    (op.isCall = true → k.good → (op.WellFormed ↔ Ready loop initial k.last))
  Rest := fun _ => True

section Follows

variable {α β : Type} {Q : Course → α → Prop} {initial : List Dict} {k : Course}

theorem follows_question {op : LoopOp} {rest : op.Answer → Loop α}
    (other : op.isCall = false)
    (each : ∀ answer, Follows (courseOf loop initial) (k.after loop initial op answer)
      (rest answer) Q) :
    Follows (courseOf loop initial) k (ask op >>= rest) Q := by
  intro answer
  refine ⟨_, ⟨rfl, fun call => ?_⟩, each answer⟩
  rw [other] at call
  cases call

theorem follows_value {result : Except PyError β} {rest : β → Loop α}
    (each : ∀ value, result = .ok value → Follows (courseOf loop initial) k (rest value) Q) :
    Follows (courseOf loop initial) k (Program.ofExcept result >>= rest) Q := by
  cases result with
  | ok value => exact each value rfl
  | error error => trivial

theorem follows_tool {name arguments : Json} {rest : ToolExecutionResult → Loop α}
    (each : ∀ result, Follows (courseOf loop initial) k (rest result) Q) :
    Follows (courseOf loop initial) k (executeTool name arguments >>= rest) Q := by
  intro answer
  refine ⟨k, ⟨rfl, fun call => nomatch call⟩, ?_⟩
  cases answer with
  | ok result => exact each result
  | error error => trivial

theorem sortCalls_course (calls : List Dict) (sorted : SortedCalls) {response : ProviderResponse}
    {tokens : List String} (last : k.last = some (response, tokens)) :
    Follows (courseOf loop initial) k (sortCalls loop calls sorted) fun k' sorted' =>
      ∃ drawn, k' = ⟨k.good, some (response, tokens ++ drawn)⟩ ∧
        sortedWith loop calls drawn sorted = .ok sorted' := by
  induction calls generalizing k sorted tokens with
  | nil =>
    refine ⟨[], ?_, rfl⟩
    rw [List.append_nil, ← last]
  | cons tc rest ih =>
    refine follows_question rfl fun token => ?_
    refine follows_value fun call read => follows_value fun destination sent => ?_
    have drawnLast : (k.after loop initial .uuid4Hex token).last =
        some (response, tokens ++ [token]) := by
      simp [Course.after, advance, last]
    refine (ih _ drawnLast).mono ?_
    rintro k' sorted' ⟨drawn, rfl, done⟩
    refine ⟨token :: drawn, by simp [Course.after], ?_⟩
    rw [sortedWith, read]
    simp only [bind, Except.bind]
    rw [sent]
    exact done

theorem executeBackendBatch_course (calls : List ReadCall) (state : LoopState)
    (results : List Dict) :
    Follows (courseOf loop initial) k (executeBackendBatch loop calls state results) fun k' done =>
      k' = k ∧ done.2.messages = state.messages := by
  induction calls generalizing state results with
  | nil => exact ⟨rfl, rfl⟩
  | cons call rest ih =>
    unfold executeBackendBatch
    split
    · refine follows_tool fun result => follows_question rfl fun duration => ?_
      exact ih _ _
    · exact ih _ _

theorem executeInline_course (calls : List ReadCall) (state : LoopState) :
    Follows (courseOf loop initial) k (executeInline loop calls state) fun k' state' =>
      k' = k ∧ talkOf state'.messages =
        talkOf state.messages ++ (calls.map ReadCall.callId).map .answers := by
  induction calls generalizing state with
  | nil => exact ⟨rfl, by simp⟩
  | cons call rest ih =>
    unfold executeInline
    split
    · refine follows_tool fun result => follows_question rfl fun duration => ?_
      refine (ih _).mono fun k' state' after => ⟨after.1, ?_⟩
      rw [after.2, talkOf_say, trace_messages, utterance_toolMessage]
      simp
    · refine (ih _).mono fun k' state' after => ⟨after.1, ?_⟩
      rw [after.2, talkOf_say, trace_messages, utterance_toolMessage]
      simp

theorem answerable_iff {response : ProviderResponse} {drawn : List String} {sorted : SortedCalls}
    (done : sortedWith loop response.toolCalls drawn {} = .ok sorted) :
    Answerable loop response drawn ↔ sorted.Answerable response.rawIds := by
  constructor
  · exact fun every => every sorted done
  · intro answerable other same
    rw [done] at same
    exact Except.ok.inj same ▸ answerable

theorem rawCalls_ids : ∀ {calls raws : List Dict}, calls.mapM rawCall = .ok raws →
    (raws.map fun entry => entryId (.obj entry)) = calls.map fun tc => Json.getD tc "id" (.str "") := by
  intro calls
  induction calls with
  | nil =>
    intro raws done
    cases done
    rfl
  | cons tc rest ih =>
    intro raws done
    rw [List.mapM_cons] at done
    cases read : calledFunction tc with
    | error error =>
      simp [rawCall, read, bind, Except.bind] at done
    | ok function =>
      cases more : rest.mapM rawCall with
      | error error => simp [rawCall, read, more, bind, Except.bind, pure, Except.pure] at done
      | ok others =>
        simp only [rawCall, read, more, bind, Except.bind, pure, Except.pure, Except.ok.injEq] at done
        subst done
        rw [List.map_cons, List.map_cons, entryId_toolCallEntry, ih more]

/-- The next call is well formed exactly when it should be. -/
def Poised (loop : ToolLoop) (initial : List Dict) (k : Course) (messages : List Dict) : Prop :=
  k.good → (Interaction.WellFormed (talkOf messages) ↔ Ready loop initial k.last)

def Stands (loop : ToolLoop) (initial : List Dict) (k : Course) : ToolLoopOutcome → Prop
  | .suspendedForTool pendingCalls continuation _ _ _ =>
    (k.good → Interaction.WellFormed (talkOf continuation.messages)) ∧
      continuation.pendingRawCalls ≠ [] ∧
      (Ready loop initial k.last ↔
        Matched (continuation.pendingRawCalls.map fun entry => entryId (.obj entry))
          (pendingCalls.map PendingToolCall.callId))
  | .suspendedForApproval _ _ _ continuation _ _ =>
    (k.good → Interaction.WellFormed (talkOf continuation.messages)) ∧ ¬Ready loop initial k.last
  | _ => True

/-- **One response**: what the loop goes on with, or what a suspension keeps. -/
theorem handleToolCalls_course (state : LoopState) {response : ProviderResponse}
    (usage : List UsageRecord) (last : k.last = some (response, []))
    (some_calls : response.toolCalls ≠ [])
    (sound : k.good → Interaction.WellFormed (talkOf state.messages)) :
    Follows (courseOf loop initial) k (handleToolCalls loop state response usage)
      fun k' handled =>
        match handled with
        | .inl outcome => Stands loop initial k' outcome
        | .inr state' => Poised loop initial k' state'.messages := by
  refine Follows.bind ((sortCalls_course response.toolCalls {} last).mono ?_)
  rintro k' sorted ⟨drawn, rfl, done⟩
  rw [List.nil_append]
  have ready : Ready loop initial (some (response, drawn)) ↔ sorted.Answerable response.rawIds :=
    answerable_iff done
  have kept : ∀ {raws : List Dict}, response.toolCalls.mapM rawCall = .ok raws →
      (raws.map fun entry => entryId (.obj entry)) = response.rawIds ∧ raws ≠ [] := by
    intro raws built
    refine ⟨rawCalls_ids built, ?_⟩
    rintro rfl
    have none : response.toolCalls.map (fun tc => Json.getD tc "id" (.str "")) = [] :=
      (rawCalls_ids built).symm
    exact some_calls (List.map_eq_nil_iff.mp none)
  cases toApprove : sorted.approval with
  | cons call others =>
    refine follows_value fun continuation built => ?_
    unfold buildContinuation at built
    cases raws : response.toolCalls.mapM rawCall with
    | error error => simp [raws, bind, Except.bind] at built
    | ok raw =>
      simp only [raws, bind, Except.bind, pure, Except.pure, Except.ok.injEq] at built
      subst built
      refine ⟨sound, fun answerable => ?_⟩
      have none := (ready.mp answerable).1
      rw [toApprove] at none
      cases none
  | nil =>
    dsimp only
    split
    · rename_i some_frontend
      refine Follows.bind ((executeBackendBatch_course _ _ _).mono ?_)
      rintro k' results ⟨rfl, messages⟩
      refine follows_value fun continuation built => ?_
      unfold buildContinuation at built
      cases raws : response.toolCalls.mapM rawCall with
      | error error => simp [raws, bind, Except.bind] at built
      | ok raw =>
        simp only [raws, bind, Except.bind, pure, Except.pure, Except.ok.injEq] at built
        subst built
        refine ⟨?_, (kept raws).2, ?_⟩
        · dsimp only
          rw [messages]
          exact sound
        · rw [(kept raws).1]
          simp only [ready, SortedCalls.Answerable, toApprove, some_frontend, if_false, true_and]
    · rename_i no_frontend
      rw [not_not] at no_frontend
      split
      · refine Follows.bind ((executeInline_course _ _).mono ?_)
        rintro k' state' ⟨rfl, talk⟩ good
        rw [talk, talkOf_say, utterance_toolCallsMessage, List.map_map, List.append_assoc,
          List.singleton_append]
        have ids : (fun entry => entryId (.obj entry)) ∘
            (fun call : ReadCall => toolCallEntry call.callId call.name call.rawArgs) =
            ReadCall.callId := by
          funext call
          exact entryId_toolCallEntry _ _ _
        rw [ids, wellFormed_exchange, matched_self, ready]
        simp only [SortedCalls.Answerable, toApprove, no_frontend, if_true, true_and]
        exact ⟨fun both => both.2, fun distinct => ⟨sound good, distinct⟩⟩
      · rename_i no_backend
        rw [not_not] at no_backend
        intro good
        rw [talkOf_say, utterance_blockedMessage, wellFormed_other, ready]
        simp only [SortedCalls.Answerable, toApprove, no_frontend, no_backend, if_true, true_and,
          List.map_nil, List.nodup_nil, iff_true]
        exact sound good

theorem recordUsage_course (state : LoopState) (response : ProviderResponse)
    (usage : List UsageRecord) :
    Follows (courseOf loop initial) k (recordUsage loop state response usage) fun k' recorded =>
      k' = k ∧ recorded.1.messages = state.messages := by
  unfold recordUsage
  split
  · exact ⟨rfl, rfl⟩
  · exact follows_question rfl fun timestamp => ⟨rfl, rfl⟩

theorem follows_call {messages tools : List Dict} {model : Option String} {maxTokens : Int}
    {timeout : Rat} {rest : Except String ProviderResponse → Loop α}
    (poised : Poised loop initial k messages)
    (each : ∀ answer, Follows (courseOf loop initial)
      (k.after loop initial (.call messages tools model maxTokens timeout) answer)
      (rest answer) Q) :
    Follows (courseOf loop initial) k (ask (.call messages tools model maxTokens timeout) >>= rest)
      Q :=
  fun answer => ⟨_, ⟨rfl, fun _ => poised⟩, each answer⟩

/-- **The loop**, on any number of iterations. -/
theorem executeLoop_course (maxTokens : Int) (left : Nat) (state : LoopState)
    (usage : List UsageRecord) (poised : Poised loop initial k state.messages) :
    Follows (courseOf loop initial) k (executeLoop loop maxTokens left state usage)
      (Stands loop initial) := by
  induction left generalizing k state usage with
  | zero => trivial
  | succ left ih =>
    refine follows_question rfl fun aborted => ?_
    split
    · trivial
    refine follows_question rfl fun elapsed => ?_
    split
    · trivial
    refine follows_call poised fun answer => ?_
    cases answer with
    | error exc => trivial
    | ok response =>
      refine Follows.bind ((recordUsage_course _ response usage).mono ?_)
      rintro k' ⟨recorded, usage'⟩ ⟨rfl, messages⟩
      dsimp only at messages ⊢
      split
      · trivial
      rename_i some_calls
      have sound : k.good ∧ Ready loop initial k.last →
          Interaction.WellFormed (talkOf recorded.messages) := by
        rintro ⟨good, ready⟩
        rw [messages]
        exact (poised good).mpr ready
      refine Follows.bind ((handleToolCalls_course recorded usage' rfl some_calls
        sound).mono fun k' handled after => ?_)
      cases handled with
      | inl outcome => exact after
      | inr next => exact ih next usage' after

/-! ### Resuming -/

theorem appendResults_talk (toolResults : List Dict) {state state' : LoopState}
    (done : toolResults.foldlM appendResult state = .ok state') :
    ∃ ids : List Json, toolResults.map (fun result => Json.get? result "call_id") = ids.map some ∧
      talkOf state'.messages = talkOf state.messages ++ ids.map .answers := by
  induction toolResults generalizing state with
  | nil =>
    cases done
    exact ⟨[], rfl, by simp⟩
  | cons result rest ih =>
    rw [List.foldlM_cons] at done
    cases joined : appendResult state result with
    | error error =>
      rw [joined] at done
      cases done
    | ok next =>
      rw [joined] at done
      obtain ⟨ids, named, talk⟩ := ih done
      cases found : Json.get? result "call_id" with
      | none => simp [appendResult, found, bind, Except.bind, throw, throwThe, MonadExceptOf.throw] at joined
      | some callId =>
        cases clipped : clipValue (if (Json.getD result "output" .null).truthy then
            Json.getD result "output" .null else .str "") with
        | error error =>
          simp [appendResult, found, clipped, bind, Except.bind, pure, Except.pure] at joined
        | ok shownOutput =>
          simp only [appendResult, found, clipped, bind, Except.bind, pure, Except.pure,
            Except.ok.injEq] at joined
          subst joined
          refine ⟨callId :: ids, by rw [List.map_cons, List.map_cons, found, named], ?_⟩
          rw [talk, trace_messages, talkOf_say, utterance_toolMessage]
          simp

theorem resumedState_talk {continuation : LoopContinuation} {toolResults : List Dict}
    {state : LoopState} (resumed : resumedState continuation toolResults = .ok state) :
    ∃ ids : List Json, toolResults.map (fun result => Json.get? result "call_id") = ids.map some ∧
      talkOf state.messages = talkOf continuation.messages ++
        (if continuation.pendingRawCalls = [] then []
          else [.asks (continuation.pendingRawCalls.map fun entry => entryId (.obj entry))]) ++
        ids.map .answers := by
  unfold resumedState at resumed
  cases traced : continuation.toolTrace.mapM ToolTraceEntry.ofDict with
  | error error =>
    rw [traced] at resumed
    cases resumed
  | ok toolTrace =>
    rw [traced] at resumed
    obtain ⟨ids, named, talk⟩ := appendResults_talk toolResults resumed
    refine ⟨ids, named, ?_⟩
    rw [talk]
    split
    · simp
    · rw [talkOf_say, utterance_toolCallsMessage]

theorem resume_course (continuation : LoopContinuation) (toolResults : List Dict)
    (maxTokens : Int)
    (poised : ∀ state, resumedState continuation toolResults = .ok state →
      Poised loop initial k state.messages) :
    Follows (courseOf loop initial) k (loop.resume continuation toolResults maxTokens)
      (Stands loop initial) :=
  follows_value fun state resumed => executeLoop_course maxTokens _ _ _ (poised state resumed)

/-- **The conversation**: each answer to a suspension leaves the loop poised. -/
theorem converse_course (maxTokens : Int) (left : Nat) (outcome : ToolLoopOutcome)
    (stands : Stands loop initial k outcome) :
    Follows (courseOf loop initial) k (converse loop maxTokens left outcome) fun _ _ => True := by
  rw [converse_eq]
  induction left generalizing k outcome with
  | zero => cases outcome <;> trivial
  | succ left ih =>
    cases outcome with
    | completed reply usage toolTrace finishReason => trivial
    | failed error usage toolTrace => trivial
    | suspendedForTool pendingCalls continuation usage toolTrace results =>
      obtain ⟨sound, some_calls, ready⟩ := stands
      refine follows_question rfl fun toolResults => ?_
      refine Follows.bind ((resume_course continuation toolResults maxTokens ?_).mono
        fun k' outcome stands => ih outcome stands)
      intro state resumed ⟨good, honest⟩
      obtain ⟨ids, named, talk⟩ := resumedState_talk resumed
      have answered : ids.Perm (pendingCalls.map PendingToolCall.callId) := by
        rw [Answers, named] at honest
        exact (List.map_perm_map_iff (Option.some_injective _)).mp honest
      rw [talk, if_neg some_calls, List.append_assoc, List.singleton_append, wellFormed_exchange]
      refine (and_iff_right (sound good)).trans ((Matched.perm answered).trans ?_)
      exact ready.symm
    | suspendedForApproval toolCall reason riskLevel continuation usage toolTrace =>
      obtain ⟨sound, unready⟩ := stands
      refine follows_question rfl fun granted => ?_
      split
      · refine follows_question rfl fun toolResults => ?_
        refine Follows.bind ((resume_course _ toolResults maxTokens ?_).mono
          fun k' outcome stands => ih outcome stands)
        intro state resumed ⟨good, honest⟩
        obtain ⟨ids, given, talk⟩ := resumedState_talk resumed
        have answered : ids.Perm [toolCall.callId] := by
          rw [Answers, given] at honest
          exact (List.map_perm_map_iff (Option.some_injective _)).mp honest
        have twice : talkOf state.messages = talkOf continuation.messages ++
            .asks [toolCall.callId] :: [toolCall.callId, toolCall.callId].map .answers := by
          rw [talk, List.perm_singleton.mp answered]
          simp [talkOf, LoopContinuation.withApproval, approvedMessages]
        rw [twice, wellFormed_exchange]
        refine iff_of_false (fun both => ?_) unready
        -- the call is answered by the approval, and again by the frontend
        have once := both.2.answered toolCall.callId List.mem_cons_self
        simp at once
      · trivial

theorem conversation_course (messages tools : List Dict) (maxTokens : Int) (left : Nat) :
    Follows (courseOf loop messages) ⟨True, none⟩ (conversation loop messages tools maxTokens left)
      fun _ _ => True :=
  Follows.bind ((executeLoop_course maxTokens _ _ _ fun _ => Iff.rfl).mono
    fun _ outcome stands => converse_course maxTokens left outcome stands)

end Follows

/-! ### Runs of a conversation -/

/-- The course agrees with the journal: so far all calls were well formed, and all were ready. -/
structure Agrees (loop : ToolLoop) (initial : List Dict) (log : List (Event loopSignature))
    (k : Course) : Prop where
  last : k.last = lastResponse log
  formed : (∀ event ∈ log, event.op.WellFormed) ↔ k.good
  ready : k.good ↔ Always (fun older event => event.op.isCall = true →
    Ready loop initial (lastResponse older)) log

theorem Agrees.step {initial : List Dict} {log : List (Event loopSignature)} {k k' : Course}
    {op : LoopOp} {answer : op.Answer} (agrees : Agrees loop initial log k)
    (answered : answering log op answer) (move : (courseOf loop initial).Move k op answer k') :
    Agrees loop initial (⟨op, answer⟩ :: log) k' := by
  obtain ⟨rfl, judged⟩ := move
  obtain ⟨last, formed, ready⟩ := agrees
  have advanced : (k.after loop initial op answer).last = lastResponse (⟨op, answer⟩ :: log) := by
    rw [k.after_last, last, lastResponse]
  cases op with
  | call messages tools model maxTokens timeout =>
    refine ⟨advanced, ?_, ?_⟩
    · rw [List.forall_mem_cons, formed]
      exact ⟨fun both => ⟨both.2, (judged rfl both.2).mp both.1⟩,
        fun both => ⟨(judged rfl both.1).mpr both.2, both.1⟩⟩
    · refine (and_congr ready Iff.rfl).trans ?_
      rw [last]
      exact ⟨fun both => ⟨fun _ => both.2, both.1⟩, fun both => ⟨both.2, both.1 rfl⟩⟩
  | frontend pendingCalls =>
    refine ⟨advanced, ?_, ?_⟩
    · rw [List.forall_mem_cons, formed]
      exact ⟨fun both => ⟨both.2, answered⟩, fun both => ⟨trivial, both.1⟩⟩
    · refine (and_iff_left answered).trans (ready.trans ?_)
      exact ⟨fun always => ⟨fun call => (nomatch call), always⟩, fun both => both.2⟩
  | _ =>
    refine ⟨advanced, ?_, ?_⟩
    · rw [List.forall_mem_cons, formed]
      exact ⟨fun both => both.2, fun good => ⟨trivial, good⟩⟩
    · exact ready.trans ⟨fun always => ⟨fun call => (nomatch call), always⟩, fun both => both.2⟩

/-- **The provider's messages are well formed exactly when the responses are answerable**: at each
call, the first message list is well formed, or the last response is answerable. -/
theorem conversation_wellFormed_iff {messages tools : List Dict} {maxTokens : Int} {left : Nat}
    {log : List (Event loopSignature)} {rest : Loop ToolLoopOutcome}
    (run : Exec (journal answering) [] (conversation loop messages tools maxTokens left) log rest) :
    (∀ event ∈ log, event.op.WellFormed) ↔
      Always (fun older event => event.op.isCall = true →
        Ready loop messages (lastResponse older)) log := by
  obtain ⟨k, _, agrees⟩ := Follows.exec_invariant (Agrees loop messages)
    (fun _ _ _ _ _ agrees answered move => agrees.step answered move) run
    (conversation_course messages tools maxTokens left) ⟨rfl, by simp, by simp [Always]⟩
  exact agrees.formed.trans agrees.ready

/-! ### A mixed batch -/

theorem scripted_answering (responses : List ProviderResponse) (log : List (Event loopSignature))
    (op : LoopOp) : answering log op (scripted responses log op) := by
  cases op with
  | frontend pendingCalls =>
    have named : (scripted responses log (.frontend pendingCalls)).map
        (fun result => Json.get? result "call_id") =
        (pendingCalls.map PendingToolCall.callId).map some := by
      simp [scripted]
    rw [answering, Answers, named]
  | _ => trivial

/-- The execution adapter's loop, from one message of the user. -/
def userConversation : Loop ToolLoopOutcome :=
  conversation executionLoop [[("role", .str "user"), ("content", .str "go")]] [] 2048 2

def mixedScript : Script loopSignature :=
  scripted [{ toolCalls := [pathCall "c1" "audisor_scan", pathCall "c2" "file_read"] }]

/-- What the provider is told next: the scan stays unanswered. -/
def mixedCall : LoopOp :=
  .call [[("role", .str "user"), ("content", .str "go")],
    toolCallsMessage [pathCall "c1" "audisor_scan", pathCall "c2" "file_read"],
    toolMessage (.str "c2") (.str "file text")] [] none 2048 300

theorem mixedCall_mem :
    (⟨mixedCall, .ok {}⟩ : Event loopSignature) ∈ userConversation.journalOf mixedScript [] := by
  simp only [userConversation, conversation, converse_eq]
  decide +kernel

theorem mixedCall_not_wellFormed : ¬mixedCall.WellFormed := by
  intro sound
  have unanswered := sound.answered [.other] [.str "c1", .str "c2"] [.answers (.str "c2")] rfl
    (.str "c1") List.mem_cons_self
  revert unanswered
  decide

/-- The response of the mixed batch leaves a question open. -/
theorem mixed_not_ready :
    ¬Always (fun older event => event.op.isCall = true →
      Ready executionLoop [[("role", .str "user"), ("content", .str "go")]] (lastResponse older))
      (userConversation.journalOf mixedScript []) := fun always =>
  mixedCall_not_wellFormed ((conversation_wellFormed_iff
    (exec_journalOf (scripted_answering _) userConversation [])).mpr always _ mixedCall_mem)

/-- **Not every conversation is well formed**, even from a well-formed start. -/
theorem conversation_not_wellFormed :
    ¬∀ (loop : ToolLoop) (messages tools : List Dict) (maxTokens : Int) (left : Nat)
      (log : List (Event loopSignature)) (rest : Loop ToolLoopOutcome),
      WellFormed (talkOf messages) →
      Exec (journal answering) [] (conversation loop messages tools maxTokens left) log rest →
      ∀ event ∈ log, event.op.WellFormed := by
  intro claim
  have start : WellFormed (talkOf [[("role", .str "user"), ("content", .str "go")]]) := by
    have other : utterance [("role", .str "user"), ("content", .str "go")] = .other := by
      simp [utterance]
    rw [talkOf, List.map_singleton, other]
    exact wellFormed_other.mpr wellFormed_nil
  exact mixedCall_not_wellFormed (claim executionLoop _ [] 2048 2 _ _ start
    (exec_journalOf (scripted_answering _) userConversation []) _ mixedCall_mem)

end Audisor.Tooling
