/-
**What a shell command of the chat reports.**

* `JsString`, `units`, `stringify` — strings as JavaScript has them, in code units.
* `Round` — one wait of the loop: whether the signal is aborted, and which of the promises settles first.
* `readLoop`, `executeShell` — `executeShell`: the loop over the output, and the result.
* `readLoop_course` — the loop leaves with the first round that is no chunk, with all chunks before it.
* `TellsTruth` — the status, the output and the wait for the exit, as the rounds have it.
* `tellsTruth_iff` — **a command tells the truth** exactly if no wait for its output times out.

Chunks are also handed to the view of the chat, which has no part in the result.
-/

import Audisor.Chat.TaskStore
import Mathlib.Data.List.SplitOn

namespace Audisor.Chat

/-! ### Strings -/

/-- A string: its code units. -/
abbrev JsString := List UInt16

def unitsOf (c : Char) : JsString :=
  if c.toNat < 0x10000 then [c.toNat.toUInt16]
  else [(0xd800 + (c.toNat - 0x10000) / 0x400).toUInt16, (0xdc00 + (c.toNat - 0x10000) % 0x400).toUInt16]

def units (text : String) : JsString := text.toList.flatMap unitsOf

def hexUnit (digit : Nat) : UInt16 :=
  if digit < 10 then (0x30 + digit).toUInt16 else (0x61 + (digit - 10)).toUInt16

/-- `\uXXXX`. -/
def escaped (unit : UInt16) : JsString :=
  [0x5c, 0x75, hexUnit (unit.toNat / 0x1000), hexUnit (unit.toNat / 0x100 % 0x10),
    hexUnit (unit.toNat / 0x10 % 0x10), hexUnit (unit.toNat % 0x10)]

def quotedUnit (unit : UInt16) : JsString :=
  if unit = 0x22 then [0x5c, 0x22]
  else if unit = 0x5c then [0x5c, 0x5c]
  else if unit = 0x08 then [0x5c, 0x62]
  else if unit = 0x0c then [0x5c, 0x66]
  else if unit = 0x0a then [0x5c, 0x6e]
  else if unit = 0x0d then [0x5c, 0x72]
  else if unit = 0x09 then [0x5c, 0x74]
  else if unit < 0x20 then escaped unit
  else [unit]

def isHigh (unit : UInt16) : Bool := 0xd800 ≤ unit && unit < 0xdc00

def isLow (unit : UInt16) : Bool := 0xdc00 ≤ unit && unit < 0xe000

/-- The inside of a quoted string: a surrogate without its partner is escaped. -/
def quotedUnits : JsString → JsString
  | high :: low :: rest =>
    if isHigh high && isLow low then high :: low :: quotedUnits rest
    else if isHigh high || isLow high then escaped high ++ quotedUnits (low :: rest)
    else quotedUnit high ++ quotedUnits (low :: rest)
  | [unit] => if isHigh unit || isLow unit then escaped unit else quotedUnit unit
  | [] => []

/-- `JSON.stringify({ exitCode, output })`. -/
def stringify (exitCode : Int) (output : JsString) : JsString :=
  units ("\x7b\"exitCode\":" ++ toString exitCode ++ ",\"output\":\"") ++ quotedUnits output ++
    units "\"\x7d"

/-- `MAX_OUTPUT_BYTES`. -/
def maxOutputBytes : Nat := 100000

/-- `TRUNCATION_MARKER`. -/
def truncationMarker : JsString := units "\n[output truncated]"

/-- `truncate(text)`. -/
def truncate (text : JsString) : JsString :=
  if text.length ≤ maxOutputBytes then text
  else text.take (maxOutputBytes - truncationMarker.length) ++ truncationMarker

/-- **The start of a long text is truncated like the text.** -/
theorem truncate_front {text whole : JsString} (front : text <+: whole)
    (long : maxOutputBytes < text.length) : truncate text = truncate whole := by
  obtain ⟨rest, rfl⟩ := front
  have longer : maxOutputBytes < (text ++ rest).length := by
    rw [List.length_append]
    omega
  rw [truncate, truncate, if_neg (not_le.mpr long), if_neg (not_le.mpr longer),
    List.take_append_of_le_length (by omega)]

/-! ### Rounds -/

/-- Which of the two promises of a race settles first, and with what. -/
inductive Outcome where
  | chunk (text : JsString)
  | timeout
  | ended
  deriving DecidableEq

/-- One wait of the loop, and what the signal says before it. -/
structure Round where
  aborted : Bool
  outcome : Outcome
  deriving DecidableEq

/-- What a race resolves to. -/
structure RaceResult where
  done : Bool
  value : Option JsString
  timedOut : Bool

/-- `Promise.race([reader.read(), timeout(..).then(..)])`. -/
def race : Outcome → RaceResult
  | .chunk text => ⟨false, some text, false⟩
  | .timeout => ⟨true, none, true⟩
  | .ended => ⟨true, none, false⟩

/-- `value?.timedOut`: a string has no such property. -/
def timedOutOfValue (_ : Option JsString) : Bool := false

/-- How the loop over the output ends. -/
inductive LoopEnd where
  | waiting
  | cancelled (output : JsString)
  | timedOut (output : JsString)
  | left (output : JsString)

def readLoop : List Round → JsString → Bool → LoopEnd
  | [], _, _ => .waiting
  | round :: rest, output, truncated =>
    if round.aborted then .cancelled output
    else if timedOutOfValue (race round.outcome).value then .timedOut output
    else if (race round.outcome).done then .left output
    else
      let value := (race round.outcome).value.getD []
      if value ≠ [] ∧ truncated = false then
        readLoop rest (output ++ value) (decide (maxOutputBytes < (output ++ value).length))
      else readLoop rest output truncated

/-! ### The result -/

/-- A call of the shell tool. -/
structure ShellCall where
  callId : String
  toolName : String
  command : String

inductive ResultStatus where
  | success | error | timeout | cancelled
  deriving DecidableEq, Repr

structure ToolResultPayload where
  callId : String
  toolName : String
  output : JsString
  error : Option String
  status : ResultStatus

/-- What a command comes to: what is spawned, whether its exit is waited for, and what is returned. -/
structure ShellRun where
  spawned : String × List String
  awaitsExit : Bool
  returned : Option ToolResultPayload

/-- `command.split(/\s+/)`: what stands between blanks, with an empty part where the text begins or ends
with one. -/
def splitBlanks (command : String) : List String :=
  let parts := command.toList.splitOnP isBlankChar
  (parts.take 1 ++ (parts.tail.dropLast.filter fun part => part ≠ []) ++
    parts.tail.drop (parts.tail.length - 1)).map String.ofList

/-- `spawn(cmd, args)`. -/
def spawned (command : String) : String × List String :=
  let cmd := (splitBlanks command).headD ""
  (if cmd = "" then "echo" else cmd, (splitBlanks command).tail)

/-- `executeShell(call, signal)`, for the rounds of its loop, and the code with which the process exits,
once it does. -/
def executeShell (call : ShellCall) (rounds : List Round) (exit : Option Int) : ShellRun :=
  let answer (output : JsString) (error : Option String) (status : ResultStatus) : ToolResultPayload :=
    ⟨call.callId, call.toolName, output, error, status⟩
  match readLoop rounds [] false with
  | .waiting => ⟨spawned call.command, false, none⟩
  | .cancelled output => ⟨spawned call.command, false,
      some (answer (truncate output) (some "Cancelled") .cancelled)⟩
  | .timedOut output => ⟨spawned call.command, false,
      some (answer (truncate output) (some "Shell command timed out") .timeout)⟩
  | .left output => ⟨spawned call.command, true, exit.map fun exitCode =>
      answer (stringify exitCode (truncate output))
        (if exitCode ≠ 0 then some ("Process exited with code " ++ toString exitCode) else none)
        (if exitCode = 0 then .success else .error)⟩

example : spawned " ls  -a " = ("echo", ["ls", "-a", ""]) := by decide

/-! ### The course of the loop -/

/-- A round after which the loop goes on: a chunk, before any abort. -/
def Round.Passes (round : Round) : Prop := round.aborted = false ∧ ∃ text, round.outcome = .chunk text

def Outcome.text : Outcome → JsString
  | .chunk text => text
  | _ => []

/-- **All chunks of some rounds**, one after the other. -/
def received (rounds : List Round) : JsString := rounds.flatMap fun round => round.outcome.text

/-- **The round that ends the loop**, with the rounds before it. -/
def EndsWith (rounds front : List Round) (round : Round) : Prop :=
  ∃ rest, rounds = front ++ round :: rest ∧ (∀ before ∈ front, before.Passes) ∧ ¬ round.Passes

/-- What the loop has of the chunks: all of them, or a start of them that is too long. -/
def Accumulated (whole output : JsString) (truncated : Bool) : Prop :=
  truncated = false ∧ output = whole ∧ output.length ≤ maxOutputBytes ∨
    truncated = true ∧ maxOutputBytes < output.length ∧ output <+: whole

theorem truncate_accumulated {whole output : JsString} {truncated : Bool}
    (accumulated : Accumulated whole output truncated) : truncate output = truncate whole := by
  rcases accumulated with ⟨_, rfl, _⟩ | ⟨_, long, front⟩
  · rfl
  · exact truncate_front front long

theorem accumulated_chunk {whole output text : JsString} {truncated : Bool}
    (accumulated : Accumulated whole output truncated) :
    (text ≠ [] ∧ truncated = false ∧ Accumulated (whole ++ text) (output ++ text)
        (decide (maxOutputBytes < (output ++ text).length))) ∨
      ¬ (text ≠ [] ∧ truncated = false) ∧ Accumulated (whole ++ text) output truncated := by
  rcases accumulated with ⟨rfl, rfl, short⟩ | ⟨rfl, long, front⟩
  · by_cases empty : text = []
    · subst empty
      refine Or.inr ⟨fun both => both.1 rfl, Or.inl ⟨rfl, (List.append_nil _).symm, short⟩⟩
    · refine Or.inl ⟨empty, rfl, ?_⟩
      by_cases long : maxOutputBytes < (output ++ text).length
      · exact Or.inr ⟨decide_eq_true long, long, List.prefix_refl _⟩
      · exact Or.inl ⟨decide_eq_false long, rfl, not_lt.mp long⟩
  · exact Or.inr ⟨fun both => absurd both.2 (by decide),
      Or.inr ⟨rfl, long, front.trans (List.prefix_append _ _)⟩⟩

theorem readLoop_passes {round : Round} (passes : round.Passes) {whole output : JsString}
    {truncated : Bool} (accumulated : Accumulated whole output truncated) (rest : List Round) :
    ∃ output' truncated', Accumulated (whole ++ round.outcome.text) output' truncated' ∧
      readLoop (round :: rest) output truncated = readLoop rest output' truncated' := by
  obtain ⟨live, text, chunk⟩ := passes
  have going : ¬ round.aborted = true := by rw [live]; exact Bool.false_ne_true
  rw [readLoop, if_neg going, chunk]
  rcases @accumulated_chunk whole output text truncated accumulated with
    ⟨some, room, next⟩ | ⟨skipped, next⟩
  · exact ⟨_, _, next, if_pos (And.intro some room)⟩
  · exact ⟨_, _, next, if_neg skipped⟩

/-- **The loop waits** as long as every round passes. -/
theorem readLoop_waiting {rounds : List Round} (passes : ∀ round ∈ rounds, round.Passes)
    {whole output : JsString} {truncated : Bool} (accumulated : Accumulated whole output truncated) :
    readLoop rounds output truncated = .waiting := by
  induction rounds generalizing whole output truncated with
  | nil => rfl
  | cons round rest ih =>
    rw [List.forall_mem_cons] at passes
    obtain ⟨output', truncated', next, same⟩ := readLoop_passes passes.1 accumulated rest
    rw [same, ih passes.2 next]

/-- **The loop leaves with the round that ends it**, and all chunks before it. -/
theorem readLoop_course {front : List Round} (passes : ∀ before ∈ front, before.Passes) {round : Round}
    (last : ¬ round.Passes) (rest : List Round) {whole output : JsString} {truncated : Bool}
    (accumulated : Accumulated whole output truncated) :
    ∃ output', truncate output' = truncate (whole ++ received front) ∧
      readLoop (front ++ round :: rest) output truncated =
        if round.aborted then .cancelled output' else .left output' := by
  induction front generalizing whole output truncated with
  | nil =>
    refine ⟨output, ?_, ?_⟩
    · rw [received, List.flatMap_nil, List.append_nil, truncate_accumulated accumulated]
    · rw [List.nil_append, readLoop]
      by_cases aborted : round.aborted = true
      · rw [if_pos aborted, if_pos aborted]
      · rw [if_neg aborted, if_neg aborted]
        cases outcome : round.outcome with
        | chunk text => exact absurd ⟨Bool.eq_false_iff.mpr aborted, text, outcome⟩ last
        | timeout => rfl
        | ended => rfl
  | cons before front ih =>
    rw [List.forall_mem_cons] at passes
    obtain ⟨output', truncated', next, same⟩ :=
      readLoop_passes passes.1 accumulated (front ++ round :: rest)
    obtain ⟨left, cut, leaves⟩ := ih passes.2 next
    refine ⟨left, ?_, ?_⟩
    · rw [cut, List.append_assoc]
      rfl
    · rw [List.cons_append, same, leaves]

/-! ### The truth of a result -/

/-- **A result tells the truth**: it is cancelled where an abort is seen first, timed out where a wait times
out first, and otherwise what the exit says, which is waited for only behind the end of the stream; its
output is that of all chunks. -/
structure TellsTruth (rounds : List Round) (exit : Option Int) (run : ShellRun) : Prop where
  cancelled : ∀ front round, EndsWith rounds front round → round.aborted = true →
    run.awaitsExit = false ∧ ∃ payload, run.returned = some payload ∧ payload.status = .cancelled ∧
      payload.output = truncate (received front)
  timedOut : ∀ front round, EndsWith rounds front round → round.aborted = false →
    round.outcome = .timeout →
    run.awaitsExit = false ∧ ∃ payload, run.returned = some payload ∧ payload.status = .timeout ∧
      payload.output = truncate (received front)
  ended : ∀ front round, EndsWith rounds front round → round.aborted = false →
    round.outcome = .ended →
    run.awaitsExit = true ∧ (run.returned = none ↔ exit = none) ∧
      ∀ payload ∈ run.returned, ∀ exitCode ∈ exit,
        payload.status = (if exitCode = 0 then .success else .error) ∧
        (payload.error = none ↔ exitCode = 0) ∧
        payload.output = stringify exitCode (truncate (received front))
  waiting : (∀ round ∈ rounds, round.Passes) → run.awaitsExit = false ∧ run.returned = none

/-- A wait for the output times out, before an abort is seen. -/
def TimesOut (rounds : List Round) : Prop :=
  ∃ front round, EndsWith rounds front round ∧ round.aborted = false ∧ round.outcome = .timeout

theorem accumulated_nil : Accumulated [] [] false := Or.inl ⟨rfl, rfl, Nat.zero_le _⟩

/-- **A command tells the truth** exactly if no wait for its output times out. -/
theorem tellsTruth_iff (call : ShellCall) (rounds : List Round) (exit : Option Int) :
    TellsTruth rounds exit (executeShell call rounds exit) ↔ ¬ TimesOut rounds := by
  have leaves {front : List Round} {round : Round} (ends : EndsWith rounds front round) :
      ∃ output, truncate output = truncate (received front) ∧
        readLoop rounds [] false = if round.aborted then .cancelled output else .left output := by
    obtain ⟨rest, rfl, passes, last⟩ := ends
    exact readLoop_course passes last rest accumulated_nil
  constructor
  · rintro truth ⟨front, round, ends, live, outcome⟩
    obtain ⟨output, _, course⟩ := leaves ends
    have unwaited := (truth.timedOut front round ends live outcome).1
    rw [executeShell, course, live, if_neg Bool.false_ne_true] at unwaited
    cases unwaited
  · intro prompt
    refine ⟨fun front round ends aborted => ?_, fun front round ends live outcome => ?_,
      fun front round ends live outcome => ?_, fun passes => ?_⟩
    · obtain ⟨output, cut, course⟩ := leaves ends
      rw [executeShell, course, if_pos aborted]
      exact ⟨rfl, _, rfl, rfl, cut⟩
    · exact absurd ⟨front, round, ends, live, outcome⟩ prompt
    · obtain ⟨output, cut, course⟩ := leaves ends
      rw [executeShell, course, live, if_neg Bool.false_ne_true]
      refine ⟨rfl, Option.map_eq_none_iff, ?_⟩
      intro payload returned exitCode exited
      cases exited
      cases returned
      refine ⟨rfl, ?_, by rw [cut]⟩
      by_cases zero : exitCode = 0
      · exact iff_of_true (if_neg (not_not_intro zero)) zero
      · exact iff_of_false (fun none => Option.some_ne_none _ ((if_pos zero).symm.trans none)) zero
    · rw [executeShell, readLoop_waiting passes accumulated_nil]
      exact ⟨rfl, rfl⟩

/-- A command that is silent for too long is reported as a success. -/
theorem silent_succeeds : ¬ TellsTruth [⟨false, .timeout⟩] (some 0)
    (executeShell ⟨"call-1", "shell_exec", "sleep 500"⟩ [⟨false, .timeout⟩] (some 0)) := by
  intro truth
  have ends : EndsWith [⟨false, .timeout⟩] [] ⟨false, .timeout⟩ := by
    refine ⟨[], rfl, fun before member => absurd member List.not_mem_nil, ?_⟩
    rintro ⟨_, text, chunk⟩
    cases chunk
  obtain ⟨unwaited, _⟩ := truth.timedOut [] ⟨false, .timeout⟩ ends rfl rfl
  exact absurd unwaited (by decide)

end Audisor.Chat
