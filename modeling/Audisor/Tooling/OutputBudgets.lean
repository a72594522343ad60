/-
**What tools may put into the messages.**

* `iteration` — one round of the loop; **`executeLoop_succ`** — the loop is its rounds, one after
  another.
* `ToolInput` — what reaches the messages from outside: the result of a tool executed here, a tool
  result that a resumption brings, an operator's approval. `ToolInput.content` — the content it
  becomes.
* `Reached` — the states of a loop over its rounds, suspensions and resumptions, with the inputs so
  far.
* `WithinBudgets` — each content has `max_output_bytes` bytes at most, all of them
  `max_aggregate_bytes`.
* **`within_budgets_iff`** — the contents keep the budgets exactly when the inputs do by themselves:
  the first `max_output_bytes` characters of each output, every error text and every tool result.
-/

import Audisor.Tooling.Policy
import Audisor.Tooling.UsageAccounts

namespace Audisor.Tooling

open Interaction Json Controller

variable {loop : ToolLoop}

/-! ### The rounds of the loop -/

/-- One round of the loop: its outcome, or the state and the usage that the loop goes on with. -/
def iteration (loop : ToolLoop) (maxTokens : Int) (state : LoopState) (usage : List UsageRecord) :
    Loop (ToolLoopOutcome ⊕ LoopState × List UsageRecord) := do
  if ← ask .abortIsSet then return .inl (.failed "cancelled" usage state.toolTrace)
  let elapsed ← ask .elapsed
  if loop.config.timeout < elapsed then return .inl (.failed "timeout" usage state.toolTrace)
  let state := { state with loopIteration := state.loopIteration + 1 }
  match ← ask (.call state.messages state.tools loop.config.providerModel maxTokens
    (loop.config.timeout - elapsed)) with
  | .error exc => return .inl (.failed ("provider_error: " ++ exc) usage state.toolTrace)
  | .ok response =>
    let (state, usage) ← recordUsage loop state response usage
    if response.toolCalls = [] then
      return .inl (.completed response.text usage state.toolTrace response.finishReason)
    match ← handleToolCalls loop state response usage with
    | .inl outcome => return .inl outcome
    | .inr state => return .inr (state, usage)

/-! ### Contents and inputs -/

/-- The size of a content in UTF-8; a content that is no text is sent as JSON. -/
def contentBytes : Json → Nat
  | .str text => text.utf8ByteSize
  | value => (value.dumps { ensureAscii := false }).utf8ByteSize

def toolContents (messages : List Dict) : List Json :=
  messages.filterMap fun message =>
    if Json.get? message "role" = some (.str "tool") then some (Json.getD message "content" .null)
    else none

def totalBytes (sizes : List Nat) : Nat := sizes.foldr (· + ·) 0

def WithinBudgets (config : ToolLoopConfig) (contents : List Json) : Prop :=
  (∀ content ∈ contents, contentBytes content ≤ config.maxOutputBytes) ∧
    totalBytes (contents.map contentBytes) ≤ config.maxAggregateBytes

/-- What reaches the messages from outside the loop. -/
inductive ToolInput where
  | executed (result : ToolExecutionResult)
  | returned (toolResult : Dict)
  | approved

def ToolInput.content (config : ToolLoopConfig) : ToolInput → Json
  | .executed result =>
    .str (if result.succeeded then clip config.maxOutputBytes result.output
      else failureText result.error)
  | .returned toolResult => resultContent toolResult
  | .approved => .str "approved"

/-- **The bytes of an input**: of the first characters of an output, of a whole error text, of a
whole tool result. -/
def ToolInput.bytes (config : ToolLoopConfig) : ToolInput → Nat
  | .executed ⟨output, none⟩ => (clip config.maxOutputBytes output).utf8ByteSize
  | .executed ⟨_, some error⟩ => (failureText (some error)).utf8ByteSize
  | .returned toolResult => contentBytes (resultContent toolResult)
  | .approved => 8

theorem ToolInput.contentBytes_content (config : ToolLoopConfig) (input : ToolInput) :
    contentBytes (input.content config) = input.bytes config := by
  cases input with
  | executed result =>
    obtain ⟨output, error⟩ := result
    cases error <;> rfl
  | returned toolResult => rfl
  | approved => rfl

@[simp] theorem toolContents_append (first second : List Dict) :
    toolContents (first ++ second) = toolContents first ++ toolContents second :=
  List.filterMap_append

@[simp] theorem toolContents_toolMessage (callId content : Json) :
    toolContents [toolMessage callId content] = [content] := by
  simp [toolContents, toolMessage, getD]

@[simp] theorem toolContents_toolCallsMessage (entries : List Dict) :
    toolContents [toolCallsMessage entries] = [] := by
  simp [toolContents, toolCallsMessage]

@[simp] theorem toolContents_blockedMessage : toolContents [blockedMessage] = [] := by
  simp [toolContents, blockedMessage]

/-! ### What a round adds -/

def executing (k : List ToolExecutionResult) :
    (op : LoopOp) → op.Answer → List ToolExecutionResult
  | .execute _ _, .ok result => k ++ [result]
  | _, _ => k

def executedIn (log : List (Event loopSignature)) : List ToolInput :=
  (tally executing [] log).map .executed

def executedContents (config : ToolLoopConfig) (results : List ToolExecutionResult) : List Json :=
  results.map fun result => (ToolInput.executed result).content config

/-- The messages that a state has in addition, with the contents of their tool messages. -/
def Adds (before after : LoopState) (contents : List Json) : Prop :=
  ∃ added, after.messages = before.messages ++ added ∧ toolContents added = contents

theorem Adds.refl (state : LoopState) : Adds state state [] := ⟨[], by simp, rfl⟩

theorem Adds.trans {first second third : LoopState} {contents contents' : List Json}
    (one : Adds first second contents) (two : Adds second third contents') :
    Adds first third (contents ++ contents') := by
  obtain ⟨added, messages, rfl⟩ := one
  obtain ⟨added', messages', rfl⟩ := two
  refine ⟨added ++ added', ?_, toolContents_append _ _⟩
  rw [messages', messages, List.append_assoc]

theorem Adds.say (state : LoopState) (message : Dict) :
    Adds state (state.say message) (toolContents [message]) := ⟨[message], rfl, rfl⟩

section Round

variable {α : Type} {k : List ToolExecutionResult} {Q : List ToolExecutionResult → α → Prop}

theorem executing_idle {op : LoopOp} (other : ∀ name arguments, op ≠ .execute name arguments) :
    Idle (S := loopSignature) executing op := by
  intro k answer
  cases op with
  | execute name arguments => exact absurd rfl (other name arguments)
  | _ => rfl

theorem executing_ask {op : LoopOp} (other : ∀ name arguments, op ≠ .execute name arguments)
    {rest : op.Answer → Loop α}
    (further : ∀ answer, Follows (tallying (S := loopSignature) executing) k (rest answer) Q) :
    Follows (tallying (S := loopSignature) executing) k (ask op >>= rest) Q :=
  fun answer => ⟨k, (executing_idle other k answer).symm, further answer⟩

/-- **A batch that is executed inline puts the content of each result into the messages.** -/
theorem executeInline_adds (executor : loop.hasExecutor = true) (calls : List ReadCall)
    (state : LoopState) :
    Follows (tallying (S := loopSignature) executing) k (executeInline loop calls state)
      fun k' after => ∃ results, k' = k ++ results ∧
        Adds state after (executedContents loop.config results) := by
  induction calls generalizing k state with
  | nil => exact ⟨[], by simp, .refl state⟩
  | cons call rest ih =>
    unfold executeInline
    rw [if_pos executor]
    intro answer
    refine ⟨_, rfl, ?_⟩
    cases answer with
    | error error => trivial
    | ok result =>
      refine executing_ask (fun _ _ same => LoopOp.noConfusion same) fun duration => ?_
      refine (ih _).mono ?_
      rintro k' after ⟨results, rfl, adds⟩
      refine ⟨result :: results, by simp [executing], ?_⟩
      refine Adds.trans ⟨[toolMessage call.callId _], ?_, toolContents_toolMessage _ _⟩ adds
      rfl

theorem sortCalls_executor (calls : List Dict) (sorted : SortedCalls)
    (before : sorted.backend ≠ [] → loop.hasExecutor = true) :
    (sortCalls loop calls sorted).Returns fun after =>
      after.backend ≠ [] → loop.hasExecutor = true := by
  induction calls generalizing sorted with
  | nil => exact before
  | cons tc rest ih =>
    intro token
    refine returns_ofExcept fun call _ => returns_ofExcept fun destination sent => ih _ ?_
    cases destination with
    | backend => exact fun _ => (destination_spec sent).1
    | blocked => exact before
    | approval => exact before
    | frontend => exact before

/-- What a handled response puts into the messages: nothing where the loop suspends. -/
def Puts (config : ToolLoopConfig) (state : LoopState) (results : List ToolExecutionResult) :
    ToolLoopOutcome ⊕ LoopState → Prop
  | .inl outcome => ∀ continuation, outcome.continuation? = some continuation →
      continuation.messages = state.messages
  | .inr next => Adds state next (executedContents config results)

theorem handleToolCalls_puts (state : LoopState) (response : ProviderResponse)
    (usage : List UsageRecord) :
    Follows (tallying (S := loopSignature) executing) [] (handleToolCalls loop state response usage)
      fun k' handled => Puts loop.config state k' handled := by
  have idle : ∀ op : LoopOp, op = .uuid4Hex → Idle (S := loopSignature) executing op :=
    fun op drawn => executing_idle fun _ _ same => LoopOp.noConfusion (drawn.symm.trans same)
  refine ((sortCalls_draws response.toolCalls {}).mono idle).then_adds
    (sortCalls_executor response.toolCalls {} fun some => absurd rfl some) fun sorted executor => ?_
  dsimp only
  split
  · refine follows_tallied_ofExcept fun continuation built other same => ?_
    cases same
    exact (buildContinuation_keeps built).2.2
  · split
    · refine Follows.bind ((executeBackendBatch_keeps sorted.backend _ []).adds.mono ?_)
      rintro k' ⟨results, after⟩ same
      refine follows_tallied_ofExcept fun continuation built other suspended => ?_
      cases suspended
      exact (buildContinuation_keeps built).2.2.trans same.2
    · split
      · rename_i none some
        refine Follows.bind ((executeInline_adds (executor some) _ _).mono ?_)
        rintro k' after ⟨results, rfl, adds⟩
        have asked := Adds.say { state with toolTrace := state.toolTrace ++ sorted.blocked }
          (toolCallsMessage (sorted.backend.map fun call =>
            toolCallEntry call.callId call.name call.rawArgs))
        rw [toolContents_toolCallsMessage] at asked
        exact asked.trans adds
      · exact ⟨[blockedMessage], rfl, toolContents_blockedMessage⟩

theorem recordUsage_messages (state : LoopState) (response : ProviderResponse)
    (usage : List UsageRecord) :
    (recordUsage loop state response usage).Asks (Idle (S := loopSignature) executing) ∧
      (recordUsage loop state response usage).Returns fun recorded =>
        recorded.1.messages = state.messages := by
  unfold recordUsage
  split
  · exact ⟨trivial, rfl⟩
  · have idle : Idle (S := loopSignature) executing .strftime :=
      executing_idle fun _ _ same => LoopOp.noConfusion same
    exact ⟨⟨idle, fun timestamp => trivial⟩, fun timestamp => rfl⟩

def RoundPuts (config : ToolLoopConfig) (state : LoopState) (results : List ToolExecutionResult) :
    ToolLoopOutcome ⊕ LoopState × List UsageRecord → Prop
  | .inl outcome => Puts config state results (.inl outcome)
  | .inr (next, _) => Puts config state results (.inr next)

/-- **A round puts into the messages what it executed**, and nothing where the loop suspends. -/
theorem iteration_puts (maxTokens : Int) (state : LoopState) (usage : List UsageRecord) :
    Follows (tallying (S := loopSignature) executing) [] (iteration loop maxTokens state usage)
      (RoundPuts loop.config state) := by
  refine executing_ask (fun _ _ same => LoopOp.noConfusion same) fun aborted => ?_
  split
  · exact fun continuation suspended => by cases suspended
  refine executing_ask (fun _ _ same => LoopOp.noConfusion same) fun elapsed => ?_
  split
  · exact fun continuation suspended => by cases suspended
  refine executing_ask (fun _ _ same => LoopOp.noConfusion same) fun answer => ?_
  cases answer with
  | error exc => exact fun continuation suspended => by cases suspended
  | ok response =>
    have recorded := @recordUsage_messages loop
      { state with loopIteration := state.loopIteration + 1 } response usage
    refine recorded.1.then_adds recorded.2 ?_
    rintro ⟨next, usage'⟩ (same : next.messages = state.messages)
    dsimp only
    split
    · exact fun continuation suspended => by cases suspended
    · refine Follows.bind ((handleToolCalls_puts next response usage').mono ?_)
      rintro k' handled puts
      cases handled with
      | inl outcome => exact fun continuation suspended => (puts continuation suspended).trans same
      | inr after =>
        obtain ⟨added, messages, contents⟩ := puts
        exact ⟨added, by rw [messages, same], contents⟩

end Round

/-! ### The states of a loop -/

/-- What a suspension carries on: its continuation, or what an operator's approval made of it. -/
inductive CarriesOn (continuation : LoopContinuation) : List ToolInput → LoopContinuation → Prop
  | same : CarriesOn continuation [] continuation
  | approved (toolCall : PendingToolCall) :
      CarriesOn continuation [.approved] (continuation.withApproval toolCall)

/-- **The states of a loop**: where it runs, after each round, and where it is resumed; with the
inputs that have reached it. -/
inductive Reached (loop : ToolLoop) (initial : List Dict) : List ToolInput → LoopState → Prop
  | run (tools : List Dict) : Reached loop initial [] { messages := initial, tools }
  | round {inputs : List ToolInput} {state next : LoopState} {maxTokens : Int}
      {usage usage' : List UsageRecord} {log : List (Event loopSignature)}
      (before : Reached loop initial inputs state)
      (left : state.loopIteration < loop.config.maxIterations)
      (run : Exec (journal fun _ _ _ => True) [] (iteration loop maxTokens state usage) log
        (.done (.inr (next, usage')))) :
      Reached loop initial (inputs ++ executedIn log) next
  | resume {inputs approvals : List ToolInput} {state next : LoopState} {maxTokens : Int}
      {usage : List UsageRecord} {log : List (Event loopSignature)} {outcome : ToolLoopOutcome}
      {continuation carried : LoopContinuation} {toolResults : List Dict}
      (before : Reached loop initial inputs state)
      (left : state.loopIteration < loop.config.maxIterations)
      (run : Exec (journal fun _ _ _ => True) [] (iteration loop maxTokens state usage) log
        (.done (.inl outcome)))
      (suspended : outcome.continuation? = some continuation)
      (carries : CarriesOn continuation approvals carried)
      (resumed : resumedState carried toolResults = .ok next) :
      Reached loop initial (inputs ++ approvals ++ toolResults.map .returned) next

def contentsOf (config : ToolLoopConfig) (inputs : List ToolInput) : List Json :=
  inputs.map (ToolInput.content config)

theorem appendResults_adds {toolResults : List Dict} {state next : LoopState}
    (appended : toolResults.foldlM appendResult state = .ok next) :
    Adds state next (toolResults.map resultContent) := by
  induction toolResults generalizing state with
  | nil =>
    cases appended
    exact .refl _
  | cons result rest ih =>
    rw [List.foldlM_cons] at appended
    cases first : appendResult state result with
    | error error =>
      rw [first] at appended
      cases appended
    | ok middle =>
      rw [first] at appended
      obtain ⟨_, callId, messages⟩ := appendResult_adds first
      exact Adds.trans ⟨_, messages, toolContents_toolMessage _ _⟩ (ih appended)

theorem resumedState_adds {carried : LoopContinuation} {toolResults : List Dict} {next : LoopState}
    (resumed : resumedState carried toolResults = .ok next) :
    ∃ added, next.messages = carried.messages ++ added ∧
      toolContents added = toolResults.map resultContent := by
  unfold resumedState at resumed
  cases traced : carried.toolTrace.mapM ToolTraceEntry.ofDict with
  | error error =>
    rw [traced] at resumed
    cases resumed
  | ok toolTrace =>
    rw [traced] at resumed
    obtain ⟨added, messages, contents⟩ := appendResults_adds resumed
    by_cases none : carried.pendingRawCalls = []
    · rw [if_pos none] at messages
      exact ⟨added, messages, contents⟩
    · rw [if_neg none] at messages
      refine ⟨toolCallsMessage carried.pendingRawCalls :: added, ?_, ?_⟩
      · rw [messages]
        simp [LoopState.say]
      · rw [← List.singleton_append, toolContents_append, toolContents_toolCallsMessage, contents]
        rfl

theorem CarriesOn.adds {continuation carried : LoopContinuation} {approvals : List ToolInput}
    (carries : CarriesOn continuation approvals carried) (config : ToolLoopConfig) :
    ∃ added, carried.messages = continuation.messages ++ added ∧
      toolContents added = contentsOf config approvals := by
  cases carries with
  | same => exact ⟨[], by simp, rfl⟩
  | approved toolCall =>
    refine ⟨approvedMessages toolCall, rfl, ?_⟩
    rw [approvedMessages, ← List.singleton_append, toolContents_append,
      toolContents_toolCallsMessage, toolContents_toolMessage]
    rfl

/-- **The messages of every state hold the contents of the inputs**, each once and in their order.
-/
theorem Reached.contents {initial : List Dict} {inputs : List ToolInput} {state : LoopState}
    (reached : Reached loop initial inputs state) :
    ∃ added, state.messages = initial ++ added ∧
      toolContents added = contentsOf loop.config inputs := by
  induction reached with
  | run tools => exact ⟨[], by simp, rfl⟩
  | @round inputs state next maxTokens usage usage' log before left run ih =>
    obtain ⟨added, messages, contents⟩ := ih
    have puts : RoundPuts loop.config state (tally executing [] log) (.inr (next, usage')) :=
      (iteration_puts maxTokens state usage).tallied run
    obtain ⟨more, messages', contents'⟩ := puts
    refine ⟨added ++ more, by rw [messages', messages, List.append_assoc], ?_⟩
    rw [toolContents_append, contents, contents', contentsOf, contentsOf, List.map_append,
      executedIn, List.map_map]
    rfl
  | @resume inputs approvals state next maxTokens usage log outcome continuation carried toolResults
      before left run suspended carries resumed ih =>
    obtain ⟨added, messages, contents⟩ := ih
    have puts : RoundPuts loop.config state (tally executing [] log) (.inl outcome) :=
      (iteration_puts maxTokens state usage).tallied run
    have same : continuation.messages = state.messages := puts continuation suspended
    obtain ⟨approval, messages', contents'⟩ := carries.adds loop.config
    obtain ⟨results, messages'', contents''⟩ := resumedState_adds resumed
    refine ⟨added ++ approval ++ results, ?_, ?_⟩
    · rw [messages'', messages', same, messages]
      simp only [List.append_assoc]
    · rw [toolContents_append, toolContents_append, contents, contents', contents'']
      simp only [contentsOf, List.map_append, List.map_map]
      rfl

/-- **The output budgets hold exactly when the inputs keep them by themselves**: in every state of
every loop, each content that was put into the messages has `max_output_bytes` bytes at most, and
all of them `max_aggregate_bytes`, if and only if the first `max_output_bytes` characters of each
output, each error text and each tool result have as many bytes at most, and all of them together.
-/
theorem within_budgets_iff {initial : List Dict} {inputs : List ToolInput} {state : LoopState}
    (reached : Reached loop initial inputs state) :
    WithinBudgets loop.config (toolContents (state.messages.drop initial.length)) ↔
      (∀ input ∈ inputs, input.bytes loop.config ≤ loop.config.maxOutputBytes) ∧
        totalBytes (inputs.map fun input => input.bytes loop.config) ≤
          loop.config.maxAggregateBytes := by
  obtain ⟨added, messages, contents⟩ := reached.contents
  have put : toolContents (state.messages.drop initial.length) = contentsOf loop.config inputs := by
    rw [messages, List.drop_left, contents]
  have sizes : (contentsOf loop.config inputs).map contentBytes =
      inputs.map fun input => input.bytes loop.config := by
    rw [contentsOf, List.map_map]
    exact List.map_congr_left fun input _ => input.contentBytes_content loop.config
  rw [put, WithinBudgets, sizes]
  refine and_congr_left fun _ => ?_
  simp only [contentsOf, List.forall_mem_map, ToolInput.contentBytes_content]

/-- A loop that executes scans, with an output budget of four bytes. -/
def tightLoop : ToolLoop :=
  { executionLoop with config := { executionLoop.config with maxOutputBytes := 4 } }

def scanned (result : ToolExecutionResult) : Script loopSignature := fun log op =>
  match op with
  | .execute _ _ => .ok result
  | op => scripted [{ toolCalls := [pathCall "c1" "audisor_scan"] }] log op

def scanRound (loop : ToolLoop) : Loop (ToolLoopOutcome ⊕ LoopState × List UsageRecord) :=
  iteration loop 2048 { messages := [], tools := [] } []

theorem scan_reached (loop : ToolLoop) (result : ToolExecutionResult)
    (onward : ((scanRound loop).resultOf (scanned result) []).toOption.any Sum.isRight = true)
    (left : 0 < loop.config.maxIterations) :
    ∃ state,
      Reached loop [] (executedIn ((scanRound loop).journalOf (scanned result) [])) state := by
  cases ended : (scanRound loop).resultOf (scanned result) [] with
  | error error =>
    rw [ended] at onward
    cases onward
  | ok round =>
    cases round with
    | inl outcome =>
      rw [ended] at onward
      cases onward
    | inr after =>
      obtain ⟨state, usage⟩ := after
      exact ⟨state, .round (.run []) left (exec_resultOf ended)⟩

/-- **Four characters are eight bytes**: an output is cut to four characters, and its message is
over the budget of four bytes. -/
theorem budget_exceeded : ∃ inputs state, Reached tightLoop [] inputs state ∧
    ¬ WithinBudgets tightLoop.config (toolContents (state.messages.drop 0)) := by
  obtain ⟨state, reached⟩ := scan_reached tightLoop { output := "éééé" } (by decide +kernel)
    (by decide)
  refine ⟨_, state, reached, fun within => ?_⟩
  obtain ⟨added, messages, contents⟩ := reached.contents
  have executed : tally executing [] ((scanRound tightLoop).journalOf
      (scanned { output := "éééé" }) []) = [{ output := "éééé" }] := by
    decide +kernel
  rw [List.drop_zero, messages, List.nil_append, contents, contentsOf, executedIn,
    executed] at within
  have small := within.1 _ List.mem_cons_self
  rw [ToolInput.contentBytes_content] at small
  exact absurd small (by decide +kernel)

/-- A scan with its usual output keeps the budgets. -/
theorem scan_within : ∃ inputs state, Reached executionLoop [] inputs state ∧
    WithinBudgets executionLoop.config (toolContents (state.messages.drop 0)) := by
  obtain ⟨state, reached⟩ := scan_reached executionLoop { output := "scan result" }
    (by decide +kernel) (by decide)
  have executed : tally executing [] ((scanRound executionLoop).journalOf
      (scanned { output := "scan result" }) []) = [{ output := "scan result" }] := by
    decide +kernel
  rw [executedIn, executed] at reached
  refine ⟨_, state, reached, (within_budgets_iff reached).mpr ⟨?_, ?_⟩⟩
  · intro input listed
    rw [List.mem_singleton.mp listed]
    decide +kernel
  · decide +kernel

end Audisor.Tooling
