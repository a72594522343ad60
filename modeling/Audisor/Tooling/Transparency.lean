/-
**When suspending is transparent to the model.**

* `suspending` — a run whose tool suspensions are answered through the text of the continuation and
  resumed. `inline` — the loop that calls the frontend where it stands: one assistant message with
  every call that is executed, the results of the backend, the results of the frontend.
* `Script` — any world that knows its answers: a provider, an executor, a frontend, a clock.
* `SuspendsWell` — the calls of a response all go to the frontend, each with an identifier, and the
  provider was given no tool schemas.
* **`transparent_iff`** — both make the same provider calls and come to the same end exactly when every
  response with a frontend call that is followed by another provider call suspends well.
-/

import Audisor.Tooling.Driving

namespace Audisor.Tooling

open Interaction Json Controller

variable {loop : ToolLoop}

/-! ### Suspending and resuming -/

/-- Answer every tool suspension through the text of its continuation. -/
def resumeAll (loop : ToolLoop) (maxTokens : Int) : Nat → ToolLoopOutcome → Loop ToolLoopOutcome
  | left + 1, .suspendedForTool pendingCalls continuation _ _ _ => do
    let toolResults ← ask (.frontend pendingCalls)
    let continuation ← Program.ofExcept (LoopContinuation.deserialize continuation.serialize)
    let outcome ← loop.resume continuation toolResults maxTokens
    resumeAll loop maxTokens left outcome
  | _, outcome => return outcome

/-- A run, and the answers to its tool suspensions: each takes an iteration of the loop. -/
def suspending (loop : ToolLoop) (messages tools : List Dict) (maxTokens : Int) :
    Loop ToolLoopOutcome := do
  let outcome ← loop.run messages tools maxTokens
  resumeAll loop maxTokens loop.config.maxIterations outcome

/-! ### The inline loop -/

def readAll (loop : ToolLoop) : List Dict → Loop (List (ReadCall × Destination))
  | [] => return []
  | tc :: rest => do
    let token ← ask .uuid4Hex
    let call ← Program.ofExcept (readCall tc token)
    let destination ← Program.ofExcept (loop.destination call.name)
    let others ← readAll loop rest
    return (call, destination) :: others

def sortAll (all : List (ReadCall × Destination)) (sorted : SortedCalls) : SortedCalls :=
  all.foldl (fun sorted read => sorted.add read.1 read.2) sorted

/-- The entries of the calls that are executed, here or by the frontend. -/
def executedEntries (all : List (ReadCall × Destination)) : List Dict :=
  (all.filter fun read => read.2 = .backend ∨ read.2 = .frontend).map fun read =>
    toolCallEntry read.1.callId read.1.name read.1.rawArgs

/-- One response, with the frontend's calls executed in place. -/
def handleInline (loop : ToolLoop) (state : LoopState) (response : ProviderResponse)
    (usage : List UsageRecord) : Loop (ToolLoopOutcome ⊕ LoopState) := do
  let all ← readAll loop response.toolCalls
  let sorted := sortAll all {}
  let state := { state with toolTrace := state.toolTrace ++ sorted.blocked }
  match sorted.approval with
  | call :: _ => do
    let continuation ← Program.ofExcept (buildContinuation loop state response)
    return .inl (.suspendedForApproval call
      ("Tool '" ++ shown call.toolName ++ "' requires operator approval.")
      (if loop.config.mutationAllowed then "medium" else "low") continuation usage state.toolTrace)
  | [] =>
    if sorted.frontend ≠ [] then do
      let state ← executeInline loop sorted.backend
        (state.say (toolCallsMessage (executedEntries all)))
      let toolResults ← ask (.frontend sorted.frontend)
      let state ← Program.ofExcept (toolResults.foldlM appendResult state)
      return .inr state
    else if sorted.backend ≠ [] then do
      let state ← executeBackendBatchInline loop sorted.backend state
      return .inr state
    else return .inr (state.say blockedMessage)

def inlineLoop (loop : ToolLoop) (maxTokens : Int) : Nat → LoopState → List UsageRecord →
    Loop ToolLoopOutcome
  | 0, state, usage => return .failed "loop_limit_exceeded" usage state.toolTrace
  | left + 1, state, usage => do
    if ← ask .abortIsSet then return .failed "cancelled" usage state.toolTrace
    let elapsed ← ask .elapsed
    if loop.config.timeout < elapsed then return .failed "timeout" usage state.toolTrace
    let state := { state with loopIteration := state.loopIteration + 1 }
    match ← ask (.call state.messages state.tools loop.config.providerModel maxTokens
      (loop.config.timeout - elapsed)) with
    | .error exc => return .failed ("provider_error: " ++ exc) usage state.toolTrace
    | .ok response =>
      let (state, usage) ← recordUsage loop state response usage
      if response.toolCalls = [] then
        return .completed response.text usage state.toolTrace response.finishReason
      match ← handleInline loop state response usage with
      | .inl outcome => return outcome
      | .inr state => inlineLoop loop maxTokens left state usage

def inline (loop : ToolLoop) (messages tools : List Dict) (maxTokens : Int) :
    Loop ToolLoopOutcome :=
  inlineLoop loop maxTokens loop.config.maxIterations { messages, tools } []

/-! ### What can be seen of a run -/

/-- Messages, tools and model of the provider calls of a journal, the last one first. -/
def callsOf : List (Event loopSignature) → List (List Dict × List Dict × Option String)
  | [] => []
  | ⟨.call messages tools model _ _, _⟩ :: older => (messages, tools, model) :: callsOf older
  | _ :: older => callsOf older

/-- How a loop ended. -/
inductive Ending where
  | completed (reply finishReason : String)
  | failed (error : String)
  | waitsForTool (pendingCalls : List PendingToolCall)
  | waitsForApproval (toolCall : PendingToolCall)
  | raised (error : PyError)
  deriving DecidableEq

def ToolLoopOutcome.ending : ToolLoopOutcome → Ending
  | .completed reply _ _ finishReason => .completed reply finishReason
  | .failed error _ _ => .failed error
  | .suspendedForTool pendingCalls _ _ _ _ => .waitsForTool pendingCalls
  | .suspendedForApproval toolCall _ _ _ _ _ => .waitsForApproval toolCall

def endingOf : Except PyError ToolLoopOutcome → Ending
  | .ok outcome => outcome.ending
  | .error error => .raised error

/-- Both programs make the same provider calls and come to the same end. -/
def SameRun (script : Script loopSignature) (log : List (Event loopSignature))
    (p q : Loop ToolLoopOutcome) : Prop :=
  callsOf (p.journalOf script log) = callsOf (q.journalOf script log) ∧
    endingOf (p.resultOf script log) = endingOf (q.resultOf script log)

/-! ### The condition -/

def goesTo (loop : ToolLoop) (tc : Dict) : Except PyError Destination := do
  let (name, _) ← calledFunction tc
  loop.destination name

def HasFrontendCall (loop : ToolLoop) (response : ProviderResponse) : Prop :=
  ∃ tc ∈ response.toolCalls, goesTo loop tc = .ok .frontend

/-- Every call goes to the frontend and has an identifier, and there are no tool schemas to lose. -/
def SuspendsWell (loop : ToolLoop) (tools : List Dict) (response : ProviderResponse) : Prop :=
  tools = [] ∧ ∀ tc ∈ response.toolCalls, goesTo loop tc = .ok .frontend ∧ hasKey tc "id" = true

instance (loop : ToolLoop) (response : ProviderResponse) :
    Decidable (HasFrontendCall loop response) :=
  inferInstanceAs (Decidable (∃ tc ∈ response.toolCalls, goesTo loop tc = .ok .frontend))

instance (loop : ToolLoop) (tools : List Dict) (response : ProviderResponse) :
    Decidable (SuspendsWell loop tools response) :=
  inferInstanceAs (Decidable (tools = [] ∧ ∀ tc ∈ response.toolCalls,
    goesTo loop tc = .ok .frontend ∧ hasKey tc "id" = true))

/-- The response before a provider call has no frontend call, or suspends well. -/
def Careful (loop : ToolLoop) (tools : List Dict) (older : List (Event loopSignature))
    (event : Event loopSignature) : Prop :=
  event.op.isCall = true → ∀ response ∈ (lastResponse older).map Prod.fst,
    HasFrontendCall loop response → SuspendsWell loop tools response

instance (loop : ToolLoop) (tools : List Dict) (older : List (Event loopSignature))
    (event : Event loopSignature) : Decidable (Careful loop tools older event) :=
  inferInstanceAs (Decidable (event.op.isCall = true →
    ∀ response ∈ (lastResponse older).map Prod.fst,
      HasFrontendCall loop response → SuspendsWell loop tools response))

/-! ### Reading the calls of a response -/

theorem sortCalls_eq (calls : List Dict) (sorted : SortedCalls) :
    sortCalls loop calls sorted = readAll loop calls >>= fun all => pure (sortAll all sorted) := by
  induction calls generalizing sorted with
  | nil => rfl
  | cons tc rest ih =>
    simp only [sortCalls, readAll, bind_assoc, ih, pure_bind]
    rfl

def Reads (loop : ToolLoop) (tc : Dict) (read : ReadCall × Destination) : Prop :=
  ∃ token, readCall tc token = .ok read.1 ∧ loop.destination read.1.name = .ok read.2

theorem returns_ofExcept {α β : Type} {P : β → Prop} {result : Except PyError α} {rest : α → Loop β}
    (each : ∀ value, result = .ok value → (rest value).Returns P) :
    (Program.ofExcept result >>= rest).Returns P := by
  cases result with
  | ok value => exact each value rfl
  | error error => trivial

theorem readAll_reads (calls : List Dict) :
    (readAll loop calls).Returns (List.Forall₂ (Reads loop) calls) := by
  induction calls with
  | nil => exact .nil
  | cons tc rest ih =>
    intro token
    refine returns_ofExcept fun call read => returns_ofExcept fun destination sent => ?_
    refine Program.Returns.bind (ih.mono fun all reads => ?_)
    exact .cons ⟨token, read, sent⟩ reads

theorem Reads.goesTo {tc : Dict} {read : ReadCall × Destination} (reads : Reads loop tc read) :
    goesTo loop tc = .ok read.2 := by
  obtain ⟨call, destination⟩ := read
  obtain ⟨token, called, sent⟩ := reads
  unfold Tooling.goesTo
  unfold readCall at called
  cases function : calledFunction tc with
  | error error =>
    rw [function] at called
    cases called
  | ok function' =>
    rw [function] at called
    cases called
    exact sent

theorem Reads.rawCall {tc : Dict} {read : ReadCall × Destination} (reads : Reads loop tc read) :
    ∃ raw, rawCall tc = .ok raw ∧
      (raw = toolCallEntry read.1.callId read.1.name read.1.rawArgs ↔ hasKey tc "id" = true) := by
  obtain ⟨call, destination⟩ := read
  obtain ⟨token, called, _⟩ := reads
  unfold readCall at called
  cases function : calledFunction tc with
  | error error =>
    rw [function] at called
    cases called
  | ok function' =>
    rw [function] at called
    cases called
    refine ⟨toolCallEntry (Json.getD tc "id" (.str "")) function'.1 function'.2, ?_, ?_⟩
    · unfold Tooling.rawCall
      rw [function]
      rfl
    · cases found : Json.get? tc "id" with
      | none => simp [toolCallEntry, Json.getD, hasKey, found, String.ext_iff]
      | some callId => simp [Json.getD, hasKey, found]

theorem goesTo_of_reads {calls : List Dict} {all : List (ReadCall × Destination)}
    (reads : List.Forall₂ (Reads loop) calls all) :
    calls.map (goesTo loop) = all.map fun read => .ok read.2 := by
  induction reads with
  | nil => rfl
  | cons here _ ih => rw [List.map_cons, List.map_cons, here.goesTo, ih]

theorem sortAll_frontend (all : List (ReadCall × Destination)) (sorted : SortedCalls) :
    (sortAll all sorted).frontend = sorted.frontend ++
      (all.filter fun read => read.2 = .frontend).map fun read => read.1.pending := by
  induction all generalizing sorted with
  | nil => simp [sortAll]
  | cons read rest ih =>
    obtain ⟨call, destination⟩ := read
    have next := ih (sorted.add call destination)
    cases destination <;> simpa [sortAll, SortedCalls.add] using next

theorem sortAll_backend (all : List (ReadCall × Destination)) (sorted : SortedCalls) :
    (sortAll all sorted).backend = sorted.backend ++
      (all.filter fun read => read.2 = .backend).map Prod.fst := by
  induction all generalizing sorted with
  | nil => simp [sortAll]
  | cons read rest ih =>
    obtain ⟨call, destination⟩ := read
    have next := ih (sorted.add call destination)
    cases destination <;> simpa [sortAll, SortedCalls.add] using next

theorem hasFrontendCall_iff {response : ProviderResponse} {all : List (ReadCall × Destination)}
    (reads : List.Forall₂ (Reads loop) response.toolCalls all) :
    HasFrontendCall loop response ↔ (sortAll all {}).frontend ≠ [] := by
  have sent : HasFrontendCall loop response ↔
      (.ok .frontend : Except PyError Destination) ∈ response.toolCalls.map (goesTo loop) := by
    simp [HasFrontendCall]
  rw [sent, goesTo_of_reads reads, sortAll_frontend]
  simp [List.filter_eq_nil_iff]

theorem executedEntries_length_le (all : List (ReadCall × Destination)) :
    (executedEntries all).length ≤ all.length := by
  rw [executedEntries, List.length_map]
  exact List.length_filter_le _ _

/-- **The raw calls are what is executed, and nothing is executed here**, exactly when every call goes
to the frontend with an identifier. -/
theorem rawCalls_eq_iff {calls : List Dict} {all : List (ReadCall × Destination)}
    (reads : List.Forall₂ (Reads loop) calls all) :
    ∃ raws, calls.mapM rawCall = .ok raws ∧ raws.length = all.length ∧
      ((raws = executedEntries all ∧ (all.filter fun read => read.2 = .backend) = []) ↔
        ∀ tc ∈ calls, goesTo loop tc = .ok .frontend ∧ hasKey tc "id" = true) := by
  induction reads with
  | nil => exact ⟨[], rfl, rfl, by simp [executedEntries]⟩
  | @cons tc read calls all here _ ih =>
    obtain ⟨raws, built, size, iff⟩ := ih
    obtain ⟨raw, kept, named⟩ := here.rawCall
    refine ⟨raw :: raws, ?_, by simp [size], ?_⟩
    · rw [List.mapM_cons, kept, built]
      rfl
    rw [List.forall_mem_cons, ← iff, here.goesTo]
    obtain ⟨call, destination⟩ := read
    have short := executedEntries_length_le all
    cases destination with
    | frontend =>
      rw [← named]
      simp only [executedEntries, List.filter_cons, reduceCtorEq, decide_true, decide_false, or_true,
        if_true, List.map_cons, List.cons.injEq, Bool.false_eq_true, if_false, true_and]
      tauto
    | backend =>
      simp
    | blocked =>
      have skipped : executedEntries ((call, Destination.blocked) :: all) = executedEntries all := by
        simp [executedEntries]
      rw [skipped]
      refine iff_of_false (fun both => ?_) (by simp)
      have more := congrArg List.length both.1
      rw [List.length_cons, size] at more
      omega
    | approval =>
      have skipped : executedEntries ((call, Destination.approval) :: all) = executedEntries all := by
        simp [executedEntries]
      rw [skipped]
      refine iff_of_false (fun both => ?_) (by simp)
      have more := congrArg List.length both.1
      rw [List.length_cons, size] at more
      omega

/-! ### Executing and answering -/

/-- What an executed batch leaves alone. -/
structure Untouched (before after : LoopState) : Prop where
  tools : after.tools = before.tools
  loopIteration : after.loopIteration = before.loopIteration

theorem Untouched.trans {first second third : LoopState} (one : Untouched first second)
    (two : Untouched second third) : Untouched first third :=
  ⟨two.tools.trans one.tools, two.loopIteration.trans one.loopIteration⟩

/-- **A backend batch asks the same questions beside the frontend and inline**; only the inline one
puts its results into the messages. -/
theorem executeBatch_lockstep {script : Script loopSignature} (calls : List ReadCall)
    (log : List (Event loopSignature)) (s i : LoopState) (results : List Dict) :
    Lockstep script log (executeBackendBatch loop calls s results) (executeInline loop calls i)
      fun done i' => done.2.messages = s.messages ∧ Untouched s done.2 ∧ Untouched i i' ∧
        ∃ added, i'.messages = i.messages ++ added ∧ added.length = calls.length := by
  induction calls generalizing log s i results with
  | nil => exact .done ⟨rfl, ⟨rfl, rfl⟩, ⟨rfl, rfl⟩, [], by simp, rfl⟩
  | cons call rest ih =>
    unfold executeBackendBatch executeInline
    split
    · refine .ask fun answer => ?_
      cases answer with
      | error error => exact .raise error
      | ok result =>
        refine .ask fun duration => (ih _ _ _ _).mono ?_
        rintro done i' ⟨messages, kept, kept', added, talk, size⟩
        refine ⟨messages, ⟨kept.tools, kept.loopIteration⟩, ⟨kept'.tools, kept'.loopIteration⟩, _,
          by rw [talk, LoopState.say, List.append_assoc]; rfl, by simp [size]⟩
    · refine (ih _ _ _ _).mono ?_
      rintro done i' ⟨messages, kept, kept', added, talk, size⟩
      refine ⟨messages, ⟨kept.tools, kept.loopIteration⟩, ⟨kept'.tools, kept'.loopIteration⟩, _,
        by rw [talk, LoopState.say, List.append_assoc]; rfl, by simp [size]⟩

/-- **Tool results join every state alike**: they raise the same error, or add the same messages. -/
theorem appendResults_alike (toolResults : List Dict) :
    (∃ error, ∀ state, toolResults.foldlM appendResult state = .error error) ∨
      ∃ added, ∀ state, ∃ state', toolResults.foldlM appendResult state = .ok state' ∧
        state'.messages = state.messages ++ added ∧ Untouched state state' := by
  induction toolResults with
  | nil => exact Or.inr ⟨[], fun state => ⟨state, rfl, by simp, rfl, rfl⟩⟩
  | cons result rest ih =>
    have first : (∃ error, ∀ state, appendResult state result = .error error) ∨
        ∃ message, ∀ state, ∃ state', appendResult state result = .ok state' ∧
          state'.messages = state.messages ++ [message] ∧ Untouched state state' := by
      cases found : Json.get? result "call_id" with
      | none => exact Or.inl ⟨.keyError, fun state => by
          simp [appendResult, found, bind, Except.bind, throw, throwThe, MonadExceptOf.throw]⟩
      | some callId =>
        cases clipped : clipValue (if (Json.getD result "output" .null).truthy then
            Json.getD result "output" .null else .str "") with
        | error error => exact Or.inl ⟨error, fun state => by
            simp [appendResult, found, clipped, bind, Except.bind, pure, Except.pure]⟩
        | ok shownOutput =>
          refine Or.inr ⟨toolMessage callId (resultContent result), fun state => ?_⟩
          simp only [appendResult, found, clipped, bind, Except.bind, pure, Except.pure]
          exact ⟨_, rfl, rfl, rfl, rfl⟩
    rcases first with ⟨error, raised⟩ | ⟨message, joined⟩
    · exact Or.inl ⟨error, fun state => by rw [List.foldlM_cons, raised]; rfl⟩
    rcases ih with ⟨error, raised⟩ | ⟨added, joins⟩
    · refine Or.inl ⟨error, fun state => ?_⟩
      obtain ⟨next, here, _⟩ := joined state
      rw [List.foldlM_cons, here]
      exact raised next
    · refine Or.inr ⟨message :: added, fun state => ?_⟩
      obtain ⟨next, here, talk, kept⟩ := joined state
      obtain ⟨state', later, talk', kept'⟩ := joins next
      refine ⟨state', by rw [List.foldlM_cons, here]; exact later, ?_, kept.trans kept'⟩
      rw [talk', talk, List.append_assoc, List.singleton_append]

theorem mapM_ofDict_asDict (entries : List ToolTraceEntry) :
    (entries.map ToolTraceEntry.asDict).mapM ToolTraceEntry.ofDict = .ok entries := by
  induction entries with
  | nil => rfl
  | cons entry rest ih =>
    rw [List.map_cons, List.mapM_cons, ToolTraceEntry.ofDict_asDict, ih]
    rfl

/-! ### Two runs against one world -/

section Agree

variable {script : Script loopSignature} {tools : List Dict} {log : List (Event loopSignature)}

/-- The runs of both programs are the same exactly when the second one is careful. -/
def Agree (loop : ToolLoop) (tools : List Dict) (script : Script loopSignature)
    (log : List (Event loopSignature)) (p q : Loop ToolLoopOutcome) : Prop :=
  Always (Careful loop tools) log →
    (SameRun script log p q ↔ Always (Careful loop tools) (q.journalOf script log))

theorem agree_done {first second : ToolLoopOutcome} (same : first.ending = second.ending) :
    Agree loop tools script log (.done first) (.done second) :=
  fun careful => iff_of_true ⟨rfl, same⟩ careful

theorem agree_raise (error : PyError) :
    Agree loop tools script log (.raise error) (.raise error) :=
  fun careful => iff_of_true ⟨rfl, rfl⟩ careful

theorem careful_of_other {op : LoopOp} (other : op.isCall = false)
    (older : List (Event loopSignature)) (answer : op.Answer) :
    Careful loop tools older ⟨op, answer⟩ := by
  intro call
  rw [show (Event.mk op answer : Event loopSignature).op.isCall = false from other] at call
  cases call

theorem agree_ask {op : LoopOp} {rest rest' : op.Answer → Loop ToolLoopOutcome}
    (other : op.isCall = false)
    (each : ∀ answer, Agree loop tools script (⟨op, answer⟩ :: log) (rest answer) (rest' answer)) :
    Agree loop tools script log (ask op >>= rest) (ask op >>= rest') :=
  fun careful => each _ ⟨careful_of_other other _ _, careful⟩

theorem lastResponse_journalOf {α : Type} {p : Loop α}
    (quiet : p.Asks fun op : LoopOp => op.isCall = false) (log : List (Event loopSignature)) :
    (lastResponse (p.journalOf script log)).map Prod.fst = (lastResponse log).map Prod.fst := by
  induction p generalizing log with
  | done value => rfl
  | raise error => rfl
  | ask op next ih =>
    refine (ih _ (quiet.2 _) _).trans ?_
    have other := quiet.1
    cases op with
    | call => cases other
    | uuid4Hex => cases found : lastResponse log <;> simp [lastResponse, advance, found]
    | _ => rfl

theorem agree_bind {α β : Type} {p : Loop α} {q : Loop β} {Q : α → β → Prop}
    {rest : α → Loop ToolLoopOutcome} {rest' : β → Loop ToolLoopOutcome}
    (together : Lockstep script log p q Q) (quiet : q.Asks fun op : LoopOp => op.isCall = false)
    (each : ∀ log' a b, (lastResponse log').map Prod.fst = (lastResponse log).map Prod.fst →
      Q a b → Agree loop tools script log' (rest a) (rest' b)) :
    Agree loop tools script log (p >>= rest) (q >>= rest') := by
  intro careful
  obtain ⟨journal, result⟩ := together
  have still : Always (Careful loop tools) (q.journalOf script log) := always_journalOf
    (quiet.mono fun op other older answer => careful_of_other other older answer) careful
  unfold SameRun
  simp only [journalOf_bind, resultOf_bind]
  rw [journal]
  cases first : p.resultOf script log with
  | error error =>
    cases second : q.resultOf script log with
    | error error' =>
      rw [first, second] at result
      rw [show error = error' from result]
      exact iff_of_true ⟨rfl, rfl⟩ still
    | ok b =>
      rw [first, second] at result
      cases result
  | ok a =>
    cases second : q.resultOf script log with
    | error error' =>
      rw [first, second] at result
      cases result
    | ok b =>
      rw [first, second] at result
      exact each _ a b (lastResponse_journalOf quiet log) result still

theorem callsOf_suffix {older newer : List (Event loopSignature)} (part : older <:+ newer) :
    callsOf older <:+ callsOf newer := by
  obtain ⟨front, rfl⟩ := part
  induction front with
  | nil => exact List.suffix_refl _
  | cons event rest ih =>
    obtain ⟨op, answer⟩ := event
    cases op with
    | call => exact ih.trans (List.suffix_cons _ _)
    | _ => exact ih

/-- **A provider call**: the arguments agree exactly when the last response was handled well. -/
theorem agree_call {messages messages' tools₁ tools₂ : List Dict} {model : Option String}
    {maxTokens : Int} {timeout : Rat}
    {rest rest' : Except String ProviderResponse → Loop ToolLoopOutcome}
    (judged : (∀ response ∈ (lastResponse log).map Prod.fst,
        HasFrontendCall loop response → SuspendsWell loop tools response) ↔
      messages = messages' ∧ tools₁ = tools₂)
    (each : messages = messages' → tools₁ = tools₂ → ∀ answer,
      Agree loop tools script (⟨.call messages' tools₂ model maxTokens timeout, answer⟩ :: log)
        (rest answer) (rest' answer)) :
    Agree loop tools script log (ask (.call messages tools₁ model maxTokens timeout) >>= rest)
      (ask (.call messages' tools₂ model maxTokens timeout) >>= rest') := by
  intro careful
  by_cases same : messages = messages' ∧ tools₁ = tools₂
  · obtain ⟨rfl, rfl⟩ := same
    exact each rfl rfl _ ⟨fun _ => judged.mpr ⟨rfl, rfl⟩, careful⟩
  · refine iff_of_false (fun both => same ?_) (fun always => same ?_)
    · -- both lists of calls end in these two calls, on the same older ones
      have first := callsOf_suffix (suffix_journalOf script
        (rest (script log (.call messages tools₁ model maxTokens timeout)))
        (⟨.call messages tools₁ model maxTokens timeout, script log _⟩ :: log))
      have second := callsOf_suffix (suffix_journalOf script
        (rest' (script log (.call messages' tools₂ model maxTokens timeout)))
        (⟨.call messages' tools₂ model maxTokens timeout, script log _⟩ :: log))
      have calls : callsOf ((rest (script log (.call messages tools₁ model maxTokens timeout))).journalOf
          script (⟨.call messages tools₁ model maxTokens timeout, script log _⟩ :: log)) =
          callsOf ((rest' (script log (.call messages' tools₂ model maxTokens timeout))).journalOf
            script (⟨.call messages' tools₂ model maxTokens timeout, script log _⟩ :: log)) := both.1
      rw [calls] at first
      have equal := (List.suffix_of_suffix_length_le first second (by simp [callsOf])).eq_of_length
        (by simp [callsOf])
      simp only [callsOf, List.cons.injEq, Prod.mk.injEq] at equal
      exact ⟨equal.1.1, equal.1.2.1⟩
    · have here := always.suffix (suffix_journalOf script
        (rest' (script log (.call messages' tools₂ model maxTokens timeout)))
        (⟨.call messages' tools₂ model maxTokens timeout, script log _⟩ :: log))
      exact judged.mp (here.1 rfl)

/-! ### No provider call in between -/

theorem asks_ofExcept {α β : Type} {allowed : LoopOp → Prop} {result : Except PyError α}
    {rest : α → Loop β} (each : ∀ value, (rest value).Asks allowed) :
    (Program.ofExcept result >>= rest).Asks allowed := by
  cases result with
  | ok value => exact each value
  | error error => trivial

theorem readAll_quiet (calls : List Dict) :
    (readAll loop calls).Asks fun op : LoopOp => op.isCall = false := by
  induction calls with
  | nil => trivial
  | cons tc rest ih =>
    refine ⟨rfl, fun token => ?_⟩
    refine asks_ofExcept fun call => asks_ofExcept fun destination => ?_
    exact Program.Asks.bind ih fun all => trivial

theorem executeInline_quiet (calls : List ReadCall) (state : LoopState) :
    (executeInline loop calls state).Asks fun op : LoopOp => op.isCall = false := by
  induction calls generalizing state with
  | nil => trivial
  | cons call rest ih =>
    unfold executeInline
    split
    · refine ⟨rfl, fun answer => ?_⟩
      cases answer with
      | error error => trivial
      | ok result => exact ⟨rfl, fun duration => ih _⟩
    · exact ih _

theorem recordUsage_quiet (state : LoopState) (response : ProviderResponse)
    (usage : List UsageRecord) :
    (recordUsage loop state response usage).Asks fun op : LoopOp => op.isCall = false := by
  unfold recordUsage
  split
  · trivial
  · exact ⟨rfl, fun timestamp => trivial⟩

theorem recordUsage_lockstep (s i : LoopState) (response : ProviderResponse)
    (us ui : List UsageRecord) :
    Lockstep script log (recordUsage loop s response us) (recordUsage loop i response ui)
      fun a b => (a.1.messages = s.messages ∧ Untouched s a.1) ∧
        b.1.messages = i.messages ∧ Untouched i b.1 := by
  unfold recordUsage
  split
  · exact .done ⟨⟨rfl, rfl, rfl⟩, rfl, rfl, rfl⟩
  · exact .ask fun timestamp => .done ⟨⟨rfl, rfl, rfl⟩, rfl, rfl, rfl⟩

theorem executeInline_lockstep (calls : List ReadCall) (s i : LoopState) :
    Lockstep script log (executeInline loop calls s) (executeInline loop calls i)
      fun s' i' => Untouched s s' ∧ Untouched i i' ∧
        (s.messages = i.messages → s'.messages = i'.messages) := by
  induction calls generalizing log s i with
  | nil => exact .done ⟨⟨rfl, rfl⟩, ⟨rfl, rfl⟩, id⟩
  | cons call rest ih =>
    unfold executeInline
    split
    · refine .ask fun answer => ?_
      cases answer with
      | error error => exact .raise error
      | ok result =>
        refine .ask fun duration => (ih _ _).mono ?_
        rintro s' i' ⟨kept, kept', same⟩
        refine ⟨⟨kept.tools, kept.loopIteration⟩, ⟨kept'.tools, kept'.loopIteration⟩, fun equal => ?_⟩
        exact same (by simp only [LoopState.say, LoopState.trace, equal])
    · refine (ih _ _).mono ?_
      rintro s' i' ⟨kept, kept', same⟩
      refine ⟨⟨kept.tools, kept.loopIteration⟩, ⟨kept'.tools, kept'.loopIteration⟩, fun equal => ?_⟩
      exact same (by simp only [LoopState.say, LoopState.trace, equal])

/-! ### The simulation -/

/-- The suspending and the inline loop before an iteration: they send the same next exactly when the last
response was handled well. -/
structure Abreast (loop : ToolLoop) (tools : List Dict) (log : List (Event loopSignature))
    (s i : LoopState) : Prop where
  inlineTools : i.tools = tools
  judged : (∀ response ∈ (lastResponse log).map Prod.fst,
      HasFrontendCall loop response → SuspendsWell loop tools response) ↔
    s.messages = i.messages ∧ s.tools = i.tools

/-- The two loops agree from states abreast, with some iterations left. -/
def AgreesFor (loop : ToolLoop) (tools : List Dict) (script : Script loopSignature)
    (maxTokens : Int) (left : Nat) : Prop :=
  ∀ (n : Nat) (log : List (Event loopSignature)) (s i : LoopState) (us ui : List UsageRecord),
    left ≤ n → loop.config.maxIterations - s.loopIteration = left → Abreast loop tools log s i →
      Agree loop tools script log
        (executeLoop loop maxTokens left s us >>= resumeAll loop maxTokens n)
        (inlineLoop loop maxTokens left i ui)

@[simp] theorem resumeAll_failed (maxTokens : Int) (n : Nat) (error : String)
    (usage : List UsageRecord) (toolTrace : List ToolTraceEntry) :
    resumeAll loop maxTokens n (.failed error usage toolTrace) =
      .done (.failed error usage toolTrace) := by
  cases n <;> rfl

@[simp] theorem resumeAll_completed (maxTokens : Int) (n : Nat) (reply finishReason : String)
    (usage : List UsageRecord) (toolTrace : List ToolTraceEntry) :
    resumeAll loop maxTokens n (.completed reply usage toolTrace finishReason) =
      .done (.completed reply usage toolTrace finishReason) := by
  cases n <;> rfl

@[simp] theorem resumeAll_suspendedForApproval (maxTokens : Int) (n : Nat) (toolCall : PendingToolCall)
    (reason riskLevel : String) (continuation : LoopContinuation) (usage : List UsageRecord)
    (toolTrace : List ToolTraceEntry) :
    resumeAll loop maxTokens n
        (.suspendedForApproval toolCall reason riskLevel continuation usage toolTrace) =
      .done (.suspendedForApproval toolCall reason riskLevel continuation usage toolTrace) := by
  cases n <;> rfl

theorem resumedState_eq (s : LoopState) {raws : List Dict} (some_calls : raws ≠ [])
    (snapshot : Dict) (toolResults : List Dict) :
    resumedState
        { messages := s.messages
          pendingRawCalls := raws
          loopIteration := s.loopIteration
          usageTotals := s.usageTotals
          toolTrace := s.toolTrace.map ToolTraceEntry.asDict
          configSnapshot := snapshot } toolResults =
      toolResults.foldlM appendResult
        (LoopState.say { s with tools := [] } (toolCallsMessage raws)) := by
  unfold resumedState
  rw [mapM_ofDict_asDict]
  simp only [bind, Except.bind, some_calls, if_false]

theorem toolCallsMessage_injective {first second : List Dict}
    (same : toolCallsMessage first = toolCallsMessage second) : first = second := by
  simp only [toolCallsMessage, List.cons.injEq, Prod.mk.injEq, true_and, Json.arr.injEq,
    and_true] at same
  exact List.map_injective_iff.mpr (fun _ _ equal => Json.obj.inj equal) same

theorem messages_eq_iff {before raws executed added results : List Dict} :
    before ++ [toolCallsMessage raws] ++ results =
        before ++ [toolCallsMessage executed] ++ added ++ results ↔
      raws = executed ∧ added = [] := by
  constructor
  · intro same
    have cut := List.append_cancel_right same
    rw [List.append_assoc, List.append_cancel_left_eq, List.singleton_append, List.cons.injEq] at cut
    exact ⟨toolCallsMessage_injective cut.1, cut.2.symm⟩
  · rintro ⟨rfl, rfl⟩
    rw [List.append_nil]

theorem buildContinuation_eq {response : ProviderResponse} {raws : List Dict}
    (built : response.toolCalls.mapM rawCall = .ok raws) (state : LoopState) :
    buildContinuation loop state response = .ok
      { messages := state.messages
        pendingRawCalls := raws
        loopIteration := state.loopIteration
        usageTotals := state.usageTotals
        toolTrace := state.toolTrace.map ToolTraceEntry.asDict
        configSnapshot := loop.config.snapshot } := by
  simp only [buildContinuation, built, bind, Except.bind, pure, Except.pure]

/-- **One response** keeps the loops in agreement: what is sent next is the same exactly when the
response has no frontend call or suspends well. -/
theorem agree_handle {maxTokens : Int} {left n : Nat} {s i : LoopState} {us ui : List UsageRecord}
    {response : ProviderResponse} (some_calls : response.toolCalls ≠ [])
    (last : (lastResponse log).map Prod.fst = some response)
    (messages : s.messages = i.messages) (sameTools : s.tools = i.tools)
    (inlineTools : i.tools = tools) (iterations : loop.config.maxIterations - s.loopIteration = left)
    (enough : left < n) (later : AgreesFor loop tools script maxTokens left) :
    Agree loop tools script log
      ((handleToolCalls loop s response us >>= fun handled =>
        match handled with
        | .inl outcome => pure outcome
        | .inr state => executeLoop loop maxTokens left state us) >>= resumeAll loop maxTokens n)
      (handleInline loop i response ui >>= fun handled =>
        match handled with
        | .inl outcome => pure outcome
        | .inr state => inlineLoop loop maxTokens left state ui) := by
  unfold handleToolCalls handleInline
  rw [sortCalls_eq]
  simp only [bind_assoc, pure_bind]
  refine agree_bind (Lockstep.refl (readAll_reads response.toolCalls)) (readAll_quiet _) ?_
  rintro log₁ all _ last₁ ⟨rfl, reads⟩
  rw [last] at last₁
  obtain ⟨raws, built, size, plain⟩ := rawCalls_eq_iff reads
  have frontend := hasFrontendCall_iff reads
  have backend := sortAll_backend all {}
  generalize sortAll all {} = sorted at frontend backend ⊢
  have some_raws : raws ≠ [] := by
    rintro rfl
    have none : all = [] := List.length_eq_zero_iff.mp size.symm
    rw [none, List.forall₂_nil_right_iff] at reads
    exact some_calls reads
  cases toApprove : sorted.approval with
  | cons call others =>
    simp only [buildContinuation_eq built, Program.ofExcept_ok, Program.done_bind, pure_bind,
      resumeAll_suspendedForApproval]
    exact agree_done rfl
  | nil =>
    by_cases some_frontend : sorted.frontend ≠ []
    · simp only [some_frontend, ne_eq, not_false_eq_true, if_true, bind_assoc, pure_bind,
        buildContinuation_eq built, Program.ofExcept_ok, Program.done_bind]
      refine agree_bind (executeBatch_lockstep _ _ _ _ _) (executeInline_quiet _ _) ?_
      rintro log₂ ⟨results, s₂⟩ i₂ last₂ ⟨messages₂, kept, kept', added, talk, count⟩
      obtain ⟨n, rfl⟩ : ∃ m, n = m + 1 := ⟨n - 1, by omega⟩
      simp only [resumeAll, LoopContinuation.deserialize_serialize, Program.ofExcept_ok,
        Program.done_bind, ToolLoop.resume, resumedState_eq s₂ some_raws, bind_assoc]
      refine agree_ask rfl fun toolResults => ?_
      rcases appendResults_alike toolResults with ⟨error, raised⟩ | ⟨joined, joins⟩
      · simp only [raised, Program.ofExcept_error, Program.raise_bind]
        exact agree_raise error
      obtain ⟨s₃, resumed, talk_s, kept_s⟩ :=
        joins (LoopState.say { s₂ with tools := [] } (toolCallsMessage raws))
      obtain ⟨i₃, appended, talk_i, kept_i⟩ := joins i₂
      simp only [resumed, appended, Program.ofExcept_ok, Program.done_bind, execute]
      have iterations₃ : loop.config.maxIterations - s₃.loopIteration = left := by
        rw [kept_s.loopIteration]
        exact (congrArg _ kept.loopIteration).trans iterations
      rw [iterations₃]
      refine later n _ s₃ i₃ [] ui (by omega) iterations₃
        ⟨kept_i.tools.trans (kept'.tools.trans inlineTools), ?_⟩
      have response₃ : (lastResponse (⟨.frontend sorted.frontend, toolResults⟩ :: log₂)).map Prod.fst =
          some response := last₂.trans last₁
      have asked : s₃.messages = i₃.messages ↔ raws = executedEntries all ∧ added = [] := by
        rw [talk_s, talk_i, talk, LoopState.say, LoopState.say, messages₂]
        dsimp only
        rw [messages]
        exact messages_eq_iff
      have nothing : added = [] ↔ (all.filter fun read => read.2 = .backend) = [] := by
        rw [← List.length_eq_zero_iff, count, List.length_eq_zero_iff, backend, List.nil_append,
          List.map_eq_nil_iff]
      have schemas : s₃.tools = i₃.tools ↔ tools = [] := by
        rw [kept_s.tools, kept_i.tools, kept'.tools]
        exact eq_comm.trans (by rw [← inlineTools]; rfl)
      simp only [response₃, Option.mem_def, Option.some.injEq, forall_eq', frontend, some_frontend,
        ne_eq, not_false_eq_true, true_imp_iff, SuspendsWell, asked, nothing, schemas, plain]
      exact and_comm
    · have no_frontend := not_not.mp some_frontend
      have quiet_response : ∀ log', (lastResponse log').map Prod.fst = some response →
          ∀ other ∈ (lastResponse log').map Prod.fst,
            HasFrontendCall loop other → SuspendsWell loop tools other := by
        intro log' last' other member calls
        rw [last'] at member
        cases member
        exact absurd (frontend.mp calls) some_frontend
      simp only [no_frontend, ne_eq, not_true_eq_false, if_false]
      by_cases some_backend : sorted.backend ≠ []
      · simp only [some_backend, not_false_eq_true, if_true, bind_assoc, pure_bind,
          executeBackendBatchInline]
        refine agree_bind (executeInline_lockstep _ _ _) (executeInline_quiet _ _) ?_
        rintro log₂ s₂ i₂ last₂ ⟨kept, kept', same⟩
        refine later n _ s₂ i₂ us ui (by omega)
          ((congrArg _ kept.loopIteration).trans iterations)
          ⟨kept'.tools.trans inlineTools, iff_of_true ?_ ⟨same ?_, ?_⟩⟩
        · exact quiet_response log₂ (last₂.trans last₁)
        · simp only [LoopState.say, messages]
        · exact kept.tools.trans (sameTools.trans kept'.tools.symm)
      · have no_backend := not_not.mp some_backend
        simp only [no_backend, not_true_eq_false, if_false, pure_bind]
        refine later n _ _ _ us ui (by omega) iterations
          ⟨inlineTools, iff_of_true (quiet_response log₁ last₁) ⟨?_, sameTools⟩⟩
        simp only [LoopState.say, messages]

/-- **The loops agree**, whatever the number of iterations. -/
theorem agreesFor (maxTokens : Int) (left : Nat) : AgreesFor loop tools script maxTokens left := by
  induction left with
  | zero =>
    intro n log s i us ui _ _ _
    simp only [executeLoop, inlineLoop, pure_bind, resumeAll_failed]
    exact agree_done rfl
  | succ left ih =>
    intro n log s i us ui enough iterations abreast
    simp only [executeLoop, inlineLoop, bind_assoc]
    refine agree_ask rfl fun aborted => ?_
    by_cases stop : aborted = true
    · simp only [if_pos stop, pure_bind, resumeAll_failed]
      exact agree_done rfl
    simp only [if_neg stop, bind_assoc]
    refine agree_ask rfl fun elapsed => ?_
    by_cases late : loop.config.timeout < elapsed
    · simp only [if_pos late, pure_bind, resumeAll_failed]
      exact agree_done rfl
    simp only [if_neg late, bind_assoc]
    refine agree_call abreast.judged fun messages sameTools answer => ?_
    cases answer with
    | error exc =>
      simp only [pure_bind, resumeAll_failed]
      exact agree_done rfl
    | ok response =>
      simp only [bind_assoc]
      refine agree_bind (recordUsage_lockstep _ _ response us ui) (recordUsage_quiet _ _ _) ?_
      rintro log₁ ⟨s₁, us₁⟩ ⟨i₁, ui₁⟩ last₁ ⟨⟨talk, kept⟩, talk', kept'⟩
      by_cases no_calls : response.toolCalls = []
      · simp only [if_pos no_calls, pure_bind, resumeAll_completed]
        exact agree_done rfl
      simp only [if_neg no_calls]
      refine agree_handle no_calls last₁ ?_ ?_ ?_ ?_ (by omega) ih
      · exact talk.trans (messages.trans talk'.symm)
      · exact kept.tools.trans (sameTools.trans kept'.tools.symm)
      · exact kept'.tools.trans abreast.inlineTools
      · rw [kept.loopIteration]
        dsimp only
        omega

/-- **Suspending is transparent** exactly when every response with a frontend call that is followed by
another provider call suspends well. -/
theorem transparent_iff (loop : ToolLoop) (messages tools : List Dict) (maxTokens : Int)
    (script : Script loopSignature) :
    SameRun script [] (suspending loop messages tools maxTokens)
        (inline loop messages tools maxTokens) ↔
      Always (Careful loop tools) ((inline loop messages tools maxTokens).journalOf script []) :=
  agreesFor maxTokens loop.config.maxIterations loop.config.maxIterations [] { messages, tools }
    { messages, tools } [] [] le_rfl rfl ⟨rfl, by simp [lastResponse]⟩ trivial

end Agree

def fileReadSchema : Dict :=
  [("type", .str "function"), ("function", .obj [("name", .str "file_read"),
    ("description", .str "Read a file"), ("parameters", .obj [])])]

def fileScript : Script loopSignature :=
  scripted [{ toolCalls := [pathCall "c1" "file_read"] }, { text := "done" }]

theorem file_not_careful :
    ¬Always (Careful executionLoop [fileReadSchema])
      ((inline executionLoop [[("role", .str "user"), ("content", .str "go")]] [fileReadSchema]
        2048).journalOf fileScript []) := by
  decide +kernel

/-- **Suspending is not transparent**: a resumed loop has lost the tool schemas. -/
theorem suspending_not_transparent :
    ¬∀ (loop : ToolLoop) (messages tools : List Dict) (maxTokens : Int)
      (script : Script loopSignature),
      SameRun script [] (suspending loop messages tools maxTokens)
        (inline loop messages tools maxTokens) := by
  intro claim
  have same := claim executionLoop [[("role", .str "user"), ("content", .str "go")]]
    [fileReadSchema] 2048 fileScript
  exact file_not_careful ((agreesFor 2048 15 15 [] _ _ [] [] le_rfl rfl
    ⟨rfl, by simp [lastResponse]⟩ trivial).mp same)

end Audisor.Tooling
