/-
**Where the token usage of an execution goes.**

* `AdapterChain` — an execution and its resumptions, each from a record that carries the
  continuation of the last result, also after an approval: what was asked before the last call, what
  was asked in it, and its result.
* `reported` — the usage that the provider calls of a journal report, for each counter. `usageSum` —
  what the usage list of a result sums to.
* `Accounted` — an outcome carries the usage of its own call, and its continuation the usage so far.
* **`totals_kept`** — the totals of a suspended result are those of the whole chain.
* **`usage_complete_iff`** — the usage of a completed result is that of the whole chain exactly when
  the provider calls before the last resumption report nothing in sum.
-/

import Audisor.Interaction.Tallies
import Audisor.Tooling.Budget
import Audisor.Tooling.Driving

namespace Audisor.Tooling

open Interaction Json Controller

variable {loop : ToolLoop} {adapter : LLMExecutionAdapter}

/-! ### Counters -/

def counters : List String := ["prompt_tokens", "completion_tokens", "total_tokens"]

def entryCount (counter : String) : Json → Int
  | .obj fields => ((get? fields counter).bind intOf).getD 0
  | _ => 0

def usageSum (result : Dict) (counter : String) : Int :=
  match get? result "usage" with
  | some (.arr entries) => (entries.map (entryCount counter)).sum
  | _ => 0

def recordsSum (usage : List UsageRecord) (counter : String) : Int :=
  (usage.map fun record => entryCount counter (.obj record.counters)).sum

def reports (k : String → Int) : (op : LoopOp) → op.Answer → String → Int
  | .call _ _ _ _ _, .ok response => fun counter => k counter + Counts.getD response.usage counter
  | _, _ => k

/-- The usage that the provider calls of a journal report. -/
def reported (log : List (Event loopSignature)) : String → Int := tally reports (fun _ => 0) log

theorem reports_idle {op : LoopOp} (other : op.isCall = false) :
    Idle (S := loopSignature) reports op := by
  intro k answer
  cases op with
  | call => cases other
  | _ => rfl

theorem tally_reports (start : String → Int) (log : List (Event loopSignature)) (counter : String) :
    tally reports start log counter = start counter + reported log counter := by
  induction log with
  | nil => exact (Int.add_zero _).symm
  | cons event older ih =>
    obtain ⟨op, answer⟩ := event
    unfold reported at ih ⊢
    rw [tally, tally]
    cases op with
    | call =>
      cases answer with
      | error exc => exact ih
      | ok response =>
        simp only [reports, ih]
        omega
    | _ => exact ih

theorem reported_append (newer older : List (Event loopSignature)) (counter : String) :
    reported (newer ++ older) counter = reported older counter + reported newer counter := by
  unfold reported
  rw [tally_append, tally_reports]
  rfl

/-! ### Totals -/

theorem lookup_replaced (counts : Counts) (key other : String) (value : Int) :
    (counts.map fun count => if count.1 = key then (key, value) else count).lookup other =
      if key = other then (counts.lookup key).map fun _ => value else counts.lookup other := by
  induction counts with
  | nil => by_cases same : key = other <;> simp [same]
  | cons count rest ih =>
    obtain ⟨name, n⟩ := count
    rw [List.map_cons]
    by_cases here : name = key
    · subst here
      by_cases same : name = other
      · subst same
        simp
      · have apart : (other == name) = false := by simpa using Ne.symm same
        simp only [if_true, List.lookup_cons, apart, ih, if_neg same]
    · by_cases same : key = other
      · subst same
        have apart : (key == name) = false := by simpa using Ne.symm here
        simp only [if_neg here, List.lookup_cons, apart, ih, if_true]
      · simp only [if_neg here, List.lookup_cons, ih, if_neg same]

theorem Counts.getD_set (counts : Counts) (key other : String) (value : Int) :
    Counts.getD (Counts.set counts key value) other =
      if key = other then value else Counts.getD counts other := by
  unfold Counts.getD Counts.set
  split
  · rename_i present
    rw [lookup_replaced]
    split
    · obtain ⟨n, found⟩ := Option.isSome_iff_exists.mp present
      simp [found]
    · rfl
  · rename_i absent
    rw [Option.not_isSome_iff_eq_none] at absent
    rw [List.lookup_append]
    by_cases same : key = other
    · subst same
      simp [absent]
    · have apart : (other == key) = false := by simpa using Ne.symm same
      simp [List.lookup_cons, apart, same]

theorem getD_totals (totals usage : Counts) {counter : String} (kept : counter ∈ counters) :
    Counts.getD (["prompt_tokens", "completion_tokens", "total_tokens"].foldl
      (fun totals key => Counts.set totals key (Counts.getD totals key + Counts.getD usage key))
      totals) counter = Counts.getD totals counter + Counts.getD usage counter := by
  simp only [counters, List.mem_cons, List.not_mem_nil, or_false] at kept
  rcases kept with rfl | rfl | rfl <;> simp [Counts.getD_set]

theorem recordsSum_append (usage : List UsageRecord) (record : UsageRecord) (counter : String) :
    recordsSum (usage ++ [record]) counter =
      recordsSum usage counter + entryCount counter (.obj record.counters) := by
  simp [recordsSum]

theorem entryCount_counters (provider model timestamp : String) (usage : Counts) {counter : String}
    (kept : counter ∈ counters) :
    entryCount counter (.obj (UsageRecord.counters
      { provider, model, timestamp
        promptTokens := Counts.getD usage "prompt_tokens"
        completionTokens := Counts.getD usage "completion_tokens"
        totalTokens := Counts.getD usage "total_tokens" })) = Counts.getD usage counter := by
  simp only [counters, List.mem_cons, List.not_mem_nil, or_false] at kept
  rcases kept with rfl | rfl | rfl <;> simp [entryCount, UsageRecord.counters]

/-! ### One call of the loop -/

def ToolLoopOutcome.usage : ToolLoopOutcome → List UsageRecord
  | .completed _ usage _ _ => usage
  | .failed _ usage _ => usage
  | .suspendedForTool _ _ usage _ _ => usage
  | .suspendedForApproval _ _ _ _ usage _ => usage

/-- The records carry the usage of this call, and the totals also what there was before it. -/
structure Tallied (start k : String → Int) (usageTotals : Counts) (usage : List UsageRecord) :
    Prop where
  records : ∀ counter ∈ counters, recordsSum usage counter = k counter
  totals : ∀ counter ∈ counters, Counts.getD usageTotals counter = start counter + k counter

/-- **An outcome carries the usage of its own call**, and its continuation the usage so far. -/
structure Accounted (start k : String → Int) (outcome : ToolLoopOutcome) : Prop where
  records : ∀ counter ∈ counters, recordsSum outcome.usage counter = k counter
  totals : ∀ continuation, outcome.continuation? = some continuation → ∀ counter ∈ counters,
    Counts.getD continuation.usageTotals counter = start counter + k counter

theorem Tallied.accounted {start k : String → Int} {usageTotals : Counts}
    {usage : List UsageRecord} (tallied : Tallied start k usageTotals usage)
    {outcome : ToolLoopOutcome} (own : outcome.usage = usage)
    (kept : ∀ continuation, outcome.continuation? = some continuation →
      continuation.usageTotals = usageTotals) : Accounted start k outcome := by
  refine ⟨fun counter named => ?_, fun continuation suspended counter named => ?_⟩
  · rw [own, tallied.records counter named]
  · rw [kept continuation suspended, tallied.totals counter named]

/-- **One response is recorded and added up.** -/
theorem recordUsage_tallied {start k : String → Int} {state : LoopState} {usage : List UsageRecord}
    (response : ProviderResponse) (tallied : Tallied start k state.usageTotals usage) :
    (recordUsage loop state response usage).Returns fun recorded =>
      Tallied start (fun counter => k counter + Counts.getD response.usage counter)
        recorded.1.usageTotals recorded.2 := by
  unfold recordUsage
  split
  · rename_i none
    have nothing : ∀ counter, Counts.getD response.usage counter = 0 := by
      intro counter
      rw [none]
      rfl
    refine ⟨fun counter named => ?_, fun counter named => ?_⟩
    · rw [tallied.records counter named, nothing, Int.add_zero]
    · rw [tallied.totals counter named, nothing, Int.add_zero]
  · refine fun timestamp => ⟨fun counter named => ?_, fun counter named => ?_⟩
    · rw [recordsSum_append, tallied.records counter named, entryCount_counters _ _ _ _ named]
    · rw [getD_totals _ _ named, tallied.totals counter named, Int.add_assoc]

def Settles (usageTotals : Counts) (usage : List UsageRecord) : ToolLoopOutcome ⊕ LoopState → Prop
  | .inl outcome => outcome.usage = usage ∧ ∀ continuation,
      outcome.continuation? = some continuation → continuation.usageTotals = usageTotals
  | .inr next => next.usageTotals = usageTotals

theorem sortCalls_draws (calls : List Dict) (sorted : SortedCalls) :
    (sortCalls loop calls sorted).Asks fun op : LoopOp => op = .uuid4Hex := by
  induction calls generalizing sorted with
  | nil => trivial
  | cons tc rest ih =>
    refine ⟨rfl, fun token => ?_⟩
    exact asks_ofExcept fun call => asks_ofExcept fun destination => ih _

theorem executeBackendBatch_quiet (calls : List ReadCall) (state : LoopState)
    (results : List Dict) :
    (executeBackendBatch loop calls state results).Asks fun op : LoopOp => op.isCall = false := by
  induction calls generalizing state results with
  | nil => trivial
  | cons call rest ih =>
    unfold executeBackendBatch
    split
    · refine ⟨rfl, fun answer => ?_⟩
      cases answer with
      | error error => trivial
      | ok result => exact ⟨rfl, fun duration => ih _ _⟩
    · exact ih _ _

theorem executeBackendBatch_keeps (calls : List ReadCall) (state : LoopState)
    (results : List Dict) :
    (executeBackendBatch loop calls state results).Returns fun after =>
      after.2.usageTotals = state.usageTotals ∧ after.2.messages = state.messages := by
  induction calls generalizing state results with
  | nil => exact ⟨rfl, rfl⟩
  | cons call rest ih =>
    unfold executeBackendBatch
    split
    · intro answer
      cases answer with
      | error error => trivial
      | ok result => exact fun duration => (ih _ _).mono fun after same => same
    · exact ih _ _

theorem executeInline_totals (calls : List ReadCall) (state : LoopState) :
    (executeInline loop calls state).Returns fun after =>
      after.usageTotals = state.usageTotals := by
  induction calls generalizing state with
  | nil => rfl
  | cons call rest ih =>
    unfold executeInline
    split
    · intro answer
      cases answer with
      | error error => trivial
      | ok result => exact fun duration => (ih _).mono fun after same => same
    · exact (ih _).mono fun after same => same

theorem handleToolCalls_quiet (state : LoopState) (response : ProviderResponse)
    (usage : List UsageRecord) :
    (handleToolCalls loop state response usage).Asks fun op : LoopOp => op.isCall = false := by
  have quiet : ∀ op : LoopOp, op = .uuid4Hex → op.isCall = false := fun op drawn => by rw [drawn]; rfl
  refine ((sortCalls_draws response.toolCalls {}).mono quiet).bind fun sorted => ?_
  dsimp only
  split
  · exact asks_ofExcept fun continuation => trivial
  · split
    · exact (executeBackendBatch_quiet _ _ _).bind fun after =>
        asks_ofExcept fun continuation => trivial
    · split
      · exact (executeInline_quiet _ _).bind fun after => trivial
      · trivial

theorem handleToolCalls_settles (state : LoopState) (response : ProviderResponse)
    (usage : List UsageRecord) :
    (handleToolCalls loop state response usage).Returns (Settles state.usageTotals usage) := by
  refine Program.Returns.bind ((sortCalls loop response.toolCalls {}).returns_true.mono ?_)
  intro sorted _
  dsimp only
  split
  · refine returns_ofExcept fun continuation built => ⟨rfl, fun other same => ?_⟩
    cases same
    exact (buildContinuation_keeps built).2.1
  · split
    · refine Program.Returns.bind ((executeBackendBatch_keeps sorted.backend _ []).mono ?_)
      rintro ⟨results, after⟩ same
      refine returns_ofExcept fun continuation built => ⟨rfl, fun other suspended => ?_⟩
      cases suspended
      exact (buildContinuation_keeps built).2.1.trans same.1
    · split
      · have kept := @executeInline_totals loop sorted.backend
        exact Program.Returns.bind ((kept _).mono fun after same => same)
      · exact (rfl : state.usageTotals = state.usageTotals)

section Loop

variable {α : Type} {Q : (String → Int) → α → Prop} {start k : String → Int}

theorem reports_ask {op : LoopOp} (other : op.isCall = false) {rest : op.Answer → Loop α}
    (further : ∀ answer, Follows (tallying (S := loopSignature) reports) k (rest answer) Q) :
    Follows (tallying (S := loopSignature) reports) k (ask op >>= rest) Q :=
  fun answer => ⟨k, (reports_idle other k answer).symm, further answer⟩

/-- **The loop accounts for its calls**, on any number of iterations. -/
theorem executeLoop_accounted (maxTokens : Int) (left : Nat) (state : LoopState)
    (usage : List UsageRecord) (tallied : Tallied start k state.usageTotals usage) :
    Follows (tallying (S := loopSignature) reports) k (executeLoop loop maxTokens left state usage)
      (Accounted start) := by
  induction left generalizing state usage k with
  | zero => exact tallied.accounted rfl fun _ suspended => by cases suspended
  | succ left ih =>
    refine reports_ask rfl fun aborted => ?_
    split
    · exact tallied.accounted rfl fun _ suspended => by cases suspended
    refine reports_ask rfl fun elapsed => ?_
    split
    · exact tallied.accounted rfl fun _ suspended => by cases suspended
    refine follows_tallied fun answer => ?_
    cases answer with
    | error exc => exact tallied.accounted rfl fun _ suspended => by cases suspended
    | ok response =>
      have quiet := @recordUsage_quiet loop
      refine ((quiet _ response usage).mono fun _ => reports_idle).then_adds
        (recordUsage_tallied response tallied) ?_
      rintro ⟨recorded, usage'⟩ tallied'
      dsimp only
      split
      · exact tallied'.accounted rfl fun _ suspended => by cases suspended
      · have quiet := @handleToolCalls_quiet loop recorded response usage'
        refine (quiet.mono fun _ => reports_idle).then_adds
          (handleToolCalls_settles recorded response usage') ?_
        intro handled settles
        cases handled with
        | inl outcome => exact tallied'.accounted settles.1 settles.2
        | inr next =>
          have same : next.usageTotals = recorded.usageTotals := settles
          refine ih next usage' ⟨tallied'.records, fun counter named => ?_⟩
          rw [same]
          exact tallied'.totals counter named

end Loop

/-! ### Resuming -/

theorem appendResult_adds {state next : LoopState} {result : Dict}
    (appended : appendResult state result = .ok next) :
    next.usageTotals = state.usageTotals ∧
      ∃ callId, next.messages = state.messages ++ [toolMessage callId (resultContent result)] := by
  cases found : Json.get? result "call_id" with
  | none =>
    simp [appendResult, found, bind, Except.bind, throw, throwThe, MonadExceptOf.throw] at appended
  | some callId =>
    cases clipped : clipValue (if (Json.getD result "output" .null).truthy then
        Json.getD result "output" .null else .str "") with
    | error error =>
      simp [appendResult, found, clipped, bind, Except.bind, pure, Except.pure] at appended
    | ok shownOutput =>
      simp only [appendResult, found, clipped, bind, Except.bind, pure, Except.pure] at appended
      cases appended
      exact ⟨rfl, callId, rfl⟩

theorem appendResults_totals {toolResults : List Dict} {state next : LoopState}
    (appended : toolResults.foldlM appendResult state = .ok next) :
    next.usageTotals = state.usageTotals := by
  induction toolResults generalizing state with
  | nil =>
    cases appended
    rfl
  | cons result rest ih =>
    rw [List.foldlM_cons] at appended
    cases first : appendResult state result with
    | error error =>
      rw [first] at appended
      cases appended
    | ok middle =>
      rw [first] at appended
      exact (ih appended).trans (appendResult_adds first).1

theorem resumedState_totals {continuation : LoopContinuation} {toolResults : List Dict}
    {state : LoopState} (resumed : resumedState continuation toolResults = .ok state) :
    state.usageTotals = continuation.usageTotals := by
  unfold resumedState at resumed
  cases traced : continuation.toolTrace.mapM ToolTraceEntry.ofDict with
  | error error =>
    rw [traced] at resumed
    cases resumed
  | ok toolTrace =>
    rw [traced] at resumed
    have same := appendResults_totals resumed
    rw [same]
    split <;> rfl

/-- A call of the adapter ends with the usage of that call: listed where it is complete, and in the
totals of the continuation where it is suspended. -/
structure Reports (start k : String → Int) (result : Dict) : Prop where
  completed : get? result "status" = some (.str "completed") →
    ∀ counter ∈ counters, usageSum result counter = k counter
  suspended : ∀ stored, get? result "continuation" = some stored →
    ∃ continuation : LoopContinuation, stored = .str continuation.serialize ∧
      ∀ counter ∈ counters, Counts.getD continuation.usageTotals counter = start counter + k counter

/-- **The adapter reports what its call of the loop accounts for.** -/
theorem interpretOutcome_reports {start k : String → Int} {outcome : ToolLoopOutcome}
    (accounted : Accounted start k outcome) :
    Follows (tallying (S := loopSignature) reports) k (interpretOutcome outcome)
      (Reports start) := by
  cases outcome with
  | completed reply usage toolTrace finishReason =>
    refine ⟨fun _ counter named => ?_, fun stored same => by simp at same⟩
    rw [← accounted.records counter named]
    simp [usageSum, recordsSum, ToolLoopOutcome.usage, Function.comp_def]
  | failed error usage toolTrace =>
    exact ⟨fun same => by simp at same, fun stored same => by simp at same⟩
  | suspendedForTool pendingCalls continuation usage toolTrace results =>
    refine reports_ask rfl fun token => ⟨fun same => by simp at same, fun stored same => ?_⟩
    have same : Json.str continuation.serialize = stored := by simpa using same
    exact ⟨continuation, same.symm, accounted.totals continuation rfl⟩
  | suspendedForApproval toolCall reason riskLevel continuation usage toolTrace =>
    refine reports_ask rfl fun token => ⟨fun same => by simp at same, fun stored same => ?_⟩
    have same : Json.str continuation.serialize = stored := by simpa using same
    exact ⟨continuation, same.symm, accounted.totals continuation rfl⟩

theorem execute_reports (plan : Json) :
    Follows (tallying (S := loopSignature) reports) (fun _ => 0) (adapter.execute plan)
      (Reports fun _ => 0) := by
  have begun : Tallied (fun _ => 0) (fun _ => 0) [] [] :=
    ⟨fun counter named => rfl, fun counter named => rfl⟩
  refine follows_tallied_ofExcept fun tools _ => ?_
  exact Follows.bind ((executeLoop_accounted 2048 _ _ [] begun).mono
    fun k outcome => interpretOutcome_reports)

/-- The totals of the continuation that a record carries, if it can be read. -/
def Totals (total : String → Int) (artifacts : Artifacts) : Prop :=
  ∀ text continuation, artifacts.continuation = some (.str text) →
    LoopContinuation.deserialize text = .ok continuation →
      ∀ counter ∈ counters, Counts.getD continuation.usageTotals counter = total counter

theorem resumeExecution_reports {start : String → Int} {artifacts : Artifacts}
    (totals : Totals start artifacts) (resumeInput : Dict) :
    Follows (tallying (S := loopSignature) reports) (fun _ => 0)
      (adapter.resumeExecution artifacts resumeInput) (Reports start) := by
  unfold LLMExecutionAdapter.resumeExecution
  dsimp only
  split
  · refine follows_tallied_ofExcept fun continuation read => ?_
    refine follows_tallied_ofExcept fun toolResults _ => ?_
    refine Follows.bind (follows_tallied_ofExcept fun state resumed => ?_)
    have begun : Tallied start (fun _ => 0) state.usageTotals [] := by
      refine ⟨fun counter named => rfl, fun counter named => ?_⟩
      rw [resumedState_totals resumed, Int.add_zero]
      cases carried : artifacts.continuation with
      | none =>
        rw [carried] at read
        cases read
      | some stored =>
        rw [carried] at read
        cases stored with
        | str text => exact totals text continuation carried read counter named
        | _ => cases read
    exact (executeLoop_accounted 2048 _ state [] begun).mono fun k outcome =>
      interpretOutcome_reports
  · exact ⟨fun same => by simp at same, fun stored same => by simp at same⟩

/-! ### Chains of calls -/

/-- What the record of a resumption carries: the continuation of the last result, or what the
approval of its tool call made of it. -/
def Carries (result : Dict) (artifacts : Artifacts) : Prop :=
  artifacts.continuation = get? result "continuation" ∨
    ∃ toolCall callId, get? result "tool_call" = some (.obj toolCall) ∧
      approvedContinuation { continuation := get? result "continuation" }
        (approvedCall toolCall callId) = .ok artifacts.continuation

/-- An execution and its resumptions: what was asked before the last call, what was asked in it, and
what it ended with. -/
inductive AdapterChain (adapter : LLMExecutionAdapter) :
    List (Event loopSignature) → List (Event loopSignature) → Dict → Prop
  | execute (plan : Json) {log : List (Event loopSignature)} {result : Dict}
      (run : Exec (journal fun _ _ _ => True) [] (adapter.execute plan) log (.done result)) :
      AdapterChain adapter [] log result
  | resume {before during log : List (Event loopSignature)} {result next : Dict}
      {artifacts : Artifacts} (earlier : AdapterChain adapter before during result)
      (carries : Carries result artifacts) (resumeInput : Dict)
      (run : Exec (journal fun _ _ _ => True) [] (adapter.resumeExecution artifacts resumeInput) log
        (.done next)) :
      AdapterChain adapter (during ++ before) log next

theorem LoopContinuation.ofDict_totals {raw : Dict} {continuation : LoopContinuation}
    (read : LoopContinuation.ofDict raw = some continuation) :
    (get? raw "usage_totals").bind countsOf = some continuation.usageTotals := by
  simp only [LoopContinuation.ofDict, bind, Option.bind_eq_some_iff, pure,
    Option.some.injEq] at read
  obtain ⟨_, _, _, _, _, _, _, _, usageTotals, totals, _, _, _, _, _, _, rfl⟩ := read
  obtain ⟨stored, found, counts⟩ := totals
  rw [found]
  exact counts

theorem integrateApproval_totals {continuation other : LoopContinuation} {pendingCall : Dict}
    {integrated : Json}
    (joined : integrateApproval (.obj continuation.asDict) pendingCall = .ok integrated)
    (read : LoopContinuation.deserialize (integrated.dumps {}) = .ok other) :
    other.usageTotals = continuation.usageTotals := by
  simp only [integrateApproval, LoopContinuation.get?_messages] at joined
  cases joined
  simp only [LoopContinuation.deserialize, loads_dumps] at read
  split at read
  · rename_i parsed taken
    cases read
    have totals := LoopContinuation.ofDict_totals taken
    rw [get?_set_of_ne _ _ (by decide), get?_set_of_ne _ _ (by decide)] at totals
    simpa [LoopContinuation.asDict] using totals.symm
  · cases read

/-- **An approval leaves the totals of a continuation alone.** -/
theorem Carries.totals {result : Dict} {artifacts : Artifacts} (carries : Carries result artifacts)
    {total : String → Int} (kept : ∀ stored, get? result "continuation" = some stored →
      ∃ continuation : LoopContinuation, stored = .str continuation.serialize ∧
        ∀ counter ∈ counters, Counts.getD continuation.usageTotals counter = total counter) :
    Totals total artifacts := by
  intro text continuation carried read
  rcases carries with same | ⟨toolCall, callId, _, approved⟩
  · obtain ⟨other, stored, totals⟩ := kept _ (same.symm.trans carried)
    cases stored
    rw [LoopContinuation.deserialize_serialize] at read
    cases read
    exact totals
  · cases suspended : get? result "continuation" with
    | none =>
      rw [suspended, carried] at approved
      cases approved
    | some stored =>
      obtain ⟨other, rfl, totals⟩ := kept _ suspended
      rw [suspended, carried] at approved
      simp only [approvedContinuation, other.serialize_truthy, if_true, loadsValue,
        other.loads_serialize, bind, Except.bind] at approved
      cases joined : integrateApproval (.obj other.asDict) (approvedCall toolCall callId) with
      | error error =>
        rw [joined] at approved
        cases approved
      | ok integrated =>
        rw [joined] at approved
        cases approved
        rw [integrateApproval_totals joined read]
        exact totals

/-- **A chain reports**: the last call's usage is listed, and the totals are those of the whole
chain. -/
theorem AdapterChain.reports {before during : List (Event loopSignature)} {result : Dict}
    (chain : AdapterChain adapter before during result) :
    Reports (reported before) (reported during) result := by
  induction chain with
  | execute plan run => exact (execute_reports plan).tallied run
  | @resume before during log result next artifacts earlier carries resumeInput run ih =>
    have totals : Totals (reported (during ++ before)) artifacts := by
      refine carries.totals fun stored suspended => ?_
      obtain ⟨continuation, text, kept⟩ := ih.suspended stored suspended
      refine ⟨continuation, text, fun counter named => ?_⟩
      rw [kept counter named, reported_append]
    exact (resumeExecution_reports totals resumeInput).tallied run

/-- **The usage of a completed result is that of the whole chain** exactly when the provider calls
before the last resumption report nothing in sum. -/
theorem usage_complete_iff {before during : List (Event loopSignature)} {result : Dict}
    (chain : AdapterChain adapter before during result)
    (completed : get? result "status" = some (.str "completed")) :
    (∀ counter ∈ counters, usageSum result counter = reported (during ++ before) counter) ↔
      ∀ counter ∈ counters, reported before counter = 0 := by
  have own := chain.reports.completed completed
  refine forall₂_congr fun counter named => ?_
  rw [own counter named, reported_append]
  omega

def readerAdapter : LLMExecutionAdapter where
  hasExecutor := false

def readingResponse : ProviderResponse where
  toolCalls := [pathCall "c1" "file_read"]
  usage := [("prompt_tokens", 100), ("completion_tokens", 50), ("total_tokens", 150)]

def answeringResponse : ProviderResponse where
  text := "final answer"
  usage := [("prompt_tokens", 200), ("completion_tokens", 80), ("total_tokens", 280)]

def fileInput : Dict :=
  [("tool_results", .arr [.obj [("call_id", .str "c1"), ("tool_name", .str "file_read"),
    ("output", .str "x"), ("status", .str "success")]])]

/-- The continuation of the execution that waits for the file. -/
def readingContinuation : LoopContinuation where
  messages := executionMessages (.obj [])
  pendingRawCalls := [pathCall "c1" "file_read"]
  loopIteration := 1
  usageTotals := readingResponse.usage
  toolTrace := []
  configSnapshot := executionConfig.snapshot

def readingLoop : Loop ToolLoopOutcome :=
  readerAdapter.loop.run (executionMessages (.obj [])) [] 2048

def answeringLoop : Loop Dict := do
  let toolResults ← Program.ofExcept (toolResultsOf fileInput)
  let outcome ← readerAdapter.loop.resume readingContinuation toolResults 2048
  interpretOutcome outcome

theorem readingLoop_result : readingLoop.resultOf (scripted [readingResponse]) [] =
    .ok (.suspendedForTool
      [{ callId := .str "c1", toolName := .str "file_read"
         arguments := .obj [("path", .str "/src")]
         rawArguments := "\x7b\"path\": \"/src\"\x7d" }]
      readingContinuation
      [{ provider := "openai_compatible", model := "", promptTokens := 100, completionTokens := 50
         totalTokens := 150, timestamp := "2026-01-01T00:00:00Z" }] [] []) := by
  decide +kernel

def finalResult : Dict :=
  [("status", .str "completed"), ("output", .str "final answer"),
    ("usage", .arr [.obj [("prompt_tokens", .int 200), ("completion_tokens", .int 80),
      ("total_tokens", .int 280)]])]

theorem answeringLoop_result :
    answeringLoop.resultOf (scripted [answeringResponse]) [] = .ok finalResult := by
  decide +kernel

theorem reading_chain : AdapterChain readerAdapter
    ((readerAdapter.execute (.obj [])).journalOf (scripted [readingResponse]) [] ++ [])
    (answeringLoop.journalOf (scripted [answeringResponse]) []) finalResult := by
  have whole : readerAdapter.execute (.obj []) = readingLoop >>= interpretOutcome := rfl
  have suspended : ∃ result,
      (readerAdapter.execute (.obj [])).resultOf (scripted [readingResponse]) [] = .ok result ∧
        get? result "continuation" = some (.str readingContinuation.serialize) := by
    rw [whole, resultOf_bind, readingLoop_result]
    exact ⟨_, rfl, by simp⟩
  obtain ⟨result, suspended, text⟩ := suspended
  have resumed : readerAdapter.resumeExecution
      { continuation := some (.str readingContinuation.serialize) } fileInput = answeringLoop :=
    readerAdapter.resumeExecution_serialized readingContinuation fileInput
  have carries : Carries result { continuation := some (.str readingContinuation.serialize) } :=
    Or.inl text.symm
  refine .resume (.execute (.obj []) (exec_resultOf suspended)) carries fileInput ?_
  rw [resumed]
  exact exec_resultOf answeringLoop_result

/-- **The usage before a suspension is lost**: a file is asked for on 100 prompt tokens, the answer
takes 200, and the completed result lists 200 of the 300. -/
theorem usage_lost : ∃ before during result, AdapterChain readerAdapter before during result ∧
    get? result "status" = some (.str "completed") ∧
      usageSum result "prompt_tokens" = 200 ∧
        reported (during ++ before) "prompt_tokens" = 300 := by
  refine ⟨_, _, _, reading_chain, by simp [finalResult], by decide, ?_⟩
  rw [reported_append]
  decide +kernel

def promptLoop : Loop Dict := readerAdapter.execute (.obj [])

theorem promptLoop_result :
    promptLoop.resultOf (scripted [answeringResponse]) [] = .ok finalResult := by
  decide +kernel

theorem usage_complete_at_once : usageSum finalResult "prompt_tokens" =
    reported (promptLoop.journalOf (scripted [answeringResponse]) [] ++ []) "prompt_tokens" :=
  (usage_complete_iff (.execute (.obj []) (exec_resultOf promptLoop_result))
    (by simp [finalResult])).mpr (fun _ _ => rfl) "prompt_tokens" List.mem_cons_self

end Audisor.Tooling
