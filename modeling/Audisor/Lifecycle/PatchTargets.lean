/-
**The targets that a control sees.**

* `patchNames`, `movedTo`, `headerFiles` — the files that the lines of a patch name.
  `namedFiles` — these and the repository paths of a command.
* `requestedTargets_eq_some` — a call has targets when all that it recognises have a normal form.
* `TargetsChecked` — the targets of a call hold every file that its command names.
* `Seen` — a recognised target has the normal form of a file.
  **`targetsChecked_iff`** — the targets hold every file exactly when the call has none, or when what its
  two patterns leave out is seen all the same.
-/

import Audisor.Lifecycle.MutationGate

namespace Audisor.Lifecycle

open Checked Json Text

/-! ### The files of a patch -/

def linesOf (text : String) : List (List Char) := text.toList.splitOn '\n'

def markedName (mark : String) (line : List Char) : Option String :=
  match after mark line with
  | none => none
  | some rest =>
    let target := rest.takeWhile fun c => c ≠ '\r'
    if target = [] then none else some (String.ofList target)

/-- The marks of files that are added, updated or deleted. -/
def fileMarks : List String := ["*** Add File: ", "*** Update File: ", "*** Delete File: "]

def patchNames (text : String) : List String :=
  (linesOf text).flatMap fun line => fileMarks.filterMap fun mark => markedName mark line

def movedTo (text : String) : List String := (linesOf text).filterMap (markedName "*** Move to: ")

/-- The file of a header: without its side, and without what a tab sets off. -/
def headerFile (side : String) (rest : List Char) : Option String :=
  let path := rest.takeWhile fun c => c ≠ '\t' && c ≠ '\r'
  if path = [] ∨ path = "/dev/null".toList then none
  else some (String.ofList ((after side path).getD path))

/-- The files of the headers of unified diffs: `---` on a line, and `+++` on the next. -/
def headersOf : List (List Char) → List String
  | old :: new :: rest =>
    match after "--- " old, after "+++ " new with
    | some first, some second =>
      (headerFile "a/" first).toList ++ (headerFile "b/" second).toList ++ headersOf (new :: rest)
    | _, _ => headersOf (new :: rest)
  | _ => []

def headerFiles (text : String) : List String := headersOf (linesOf text)

variable (host : HookHost)

def namedPaths (text : String) : List String := commandPaths host none text.toList 0

def namedFiles (text : String) : List String :=
  patchNames text ++ movedTo text ++ headerFiles text ++ namedPaths host text

/-! ### Payloads -/

def commandText (payload : Dict) : Option String :=
  match sourceOf payload with
  | .obj source =>
    match get? source "command" with
    | some (.str command) => some command
    | _ => none
  | source => some (textOf source)

def StatesTargets (payload : Dict) : Prop := getD payload "requested_targets" .null ≠ .null

/-- **Every target of a mutation is checked**: a call has no targets, or they hold the normal form of every
file that its command text names. -/
def TargetsChecked (payload : Dict) : Prop :=
  ∀ text, commandText payload = some text → ∀ targets, requestedTargets host payload = some targets →
    ∀ name ∈ namedFiles host text, ∃ target ∈ targets, normalPath host (.str name) = some target

/-- What a call recognises holds nothing, or something without a normal form. -/
def Untargeted (payload : Dict) : Prop :=
  ∀ items, rawTargets host payload = .arr items → items = [] ∨ ∃ item ∈ items, normalPath host item = none

def Seen (payload : Dict) (name : String) : Prop :=
  ∃ items, rawTargets host payload = .arr items ∧ ∃ item ∈ items, ∃ target,
    normalPath host item = some target ∧ normalPath host (.str name) = some target

/-- What the patterns leave out is seen: files that others are moved to, files in headers, repository paths
beside the lines of a patch, and all files where the call states its targets itself. -/
structure SeenAnyway (payload : Dict) (text : String) : Prop where
  moved : ∀ name ∈ movedTo text, Seen host payload name
  headers : ∀ name ∈ headerFiles text, Seen host payload name
  beside : patchTargets text ≠ [] → ∀ name ∈ namedPaths host text, Seen host payload name
  stated : StatesTargets payload → ∀ name ∈ patchNames text ++ namedPaths host text,
    Seen host payload name

/-! ### What the patterns recognise -/

variable {host} {payload : Dict} {text : String}

theorem after_eq_some {word : String} {line rest : List Char} (found : after word line = some rest) :
    word.toList <+: line := by
  unfold after at found
  split at found
  · rename_i starts
    exact List.isPrefixOf_iff_prefix.mp starts
  · cases found

theorem markedName_starts {mark name : String} {line : List Char}
    (found : markedName mark line = some name) : mark.toList <+: line := by
  unfold markedName at found
  split at found
  · cases found
  · rename_i rest stated
    exact after_eq_some stated

def knownMarks : List String := ["+++ b/", "*** Add File: ", "*** Update File: ", "*** Delete File: "]

theorem patchTargets_eq (text : String) : patchTargets text =
    (linesOf text).filterMap fun line => knownMarks.findSome? fun mark => markedName mark line := rfl

theorem knownMarks_apart {first second : String} {line : List Char} (own : first ∈ knownMarks)
    (own' : second ∈ knownMarks) (starts : first.toList <+: line) (starts' : second.toList <+: line) :
    first = second := by
  have apart : (knownMarks.all fun first => knownMarks.all fun second =>
      first == second || !first.toList.isPrefixOf second.toList) = true := by decide
  have pairs := List.all_eq_true.mp apart
  rcases List.prefix_or_prefix_of_prefix starts starts' with shorter | shorter
  · have pair := List.all_eq_true.mp (pairs first own) second own'
    rw [List.isPrefixOf_iff_prefix.mpr shorter] at pair
    simpa using pair
  · have pair := List.all_eq_true.mp (pairs second own') first own
    rw [List.isPrefixOf_iff_prefix.mpr shorter] at pair
    exact (by simpa using pair : second = first).symm

/-- **The lines that add, update or delete a file are recognised.** -/
theorem patchTargets_of_patchNames {name : String} (named : name ∈ patchNames text) :
    name ∈ patchTargets text := by
  obtain ⟨line, listed, mark, own, found⟩ :
      ∃ line ∈ linesOf text, ∃ mark ∈ fileMarks, markedName mark line = some name := by
    simpa only [patchNames, List.mem_flatMap, List.mem_filterMap] using named
  rw [patchTargets_eq]
  refine List.mem_filterMap.mpr ⟨line, listed, ?_⟩
  have known : mark ∈ knownMarks := List.mem_cons_of_mem _ own
  cases first : knownMarks.findSome? fun mark => markedName mark line with
  | none => exact absurd (List.findSome?_eq_none_iff.mp first mark known) (by rw [found]; rintro ⟨⟩)
  | some other =>
    obtain ⟨mark', known', found'⟩ := List.exists_of_findSome?_eq_some first
    rw [knownMarks_apart known' known (markedName_starts found') (markedName_starts found), found]
      at found'
    exact found'.symm

theorem rawTargets_of_commandText (unstated : ¬ StatesTargets payload)
    (stated : commandText payload = some text) : rawTargets host payload = targetsIn host text := by
  have absent : getD payload "requested_targets" .null = .null := not_not.mp unstated
  cases object : sourceOf payload with
  | obj source =>
    simp only [commandText, object] at stated
    split at stated
    · rename_i command found
      cases stated
      simp only [rawTargets, absent, object, found]
    · cases stated
  | null | bool | int | float | str | arr =>
    simp only [commandText, object] at stated
    cases stated
    simp only [rawTargets, absent, object]

/-- **A call has targets when all that it recognises have a normal form.** -/
theorem requestedTargets_eq_some {targets : List String} :
    requestedTargets host payload = some targets ↔
      ∃ items, rawTargets host payload = .arr items ∧ items ≠ [] ∧
        items.map (normalPath host) = targets.map some := by
  unfold requestedTargets
  split
  · rename_i empty
    refine iff_of_false (by rintro ⟨⟩) ?_
    rintro ⟨items, stated, some_items, -⟩
    exact some_items (Json.arr.inj (stated.symm.trans empty))
  · rename_i items some_items stated
    rw [mapM_eq_some]
    constructor
    · exact fun read => ⟨items, stated, some_items, read⟩
    · rintro ⟨items', stated', -, read⟩
      rw [Json.arr.inj (stated.symm.trans stated')]
      exact read
  · rename_i other no_items
    refine iff_of_false (by rintro ⟨⟩) ?_
    rintro ⟨items, stated, -⟩
    exact no_items items stated

/-- **A call without targets is one that is untargeted.** -/
theorem requestedTargets_none : requestedTargets host payload = none ↔ Untargeted host payload := by
  constructor
  · intro absent items stated
    by_contra formed
    push Not at formed
    have all : ∀ form ∈ items.map (normalPath host), form.isSome := by
      intro form member
      obtain ⟨item, own, rfl⟩ := List.mem_map.mp member
      exact Option.isSome_iff_ne_none.mpr (formed.2 item own)
    have forms : (items.filterMap (normalPath host)).map some = items.map (normalPath host) := by
      rw [List.map_filterMap_some_eq_filter_map_isSome, List.filter_eq_self.mpr all]
    have read := requestedTargets_eq_some.mpr ⟨items, stated, formed.1, forms.symm⟩
    rw [absent] at read
    cases read
  · intro untargeted
    cases read : requestedTargets host payload with
    | none => rfl
    | some targets =>
      obtain ⟨items, stated, some_items, forms⟩ := requestedTargets_eq_some.mp read
      obtain ⟨item, own, unformed⟩ := (untargeted items stated).resolve_left some_items
      have listed : none ∈ targets.map some := by
        rw [← forms, ← unformed]
        exact List.mem_map_of_mem own
      obtain ⟨target, -, absurd_form⟩ := List.mem_map.mp listed
      cases absurd_form

theorem mem_targets_iff {targets : List String} (read : requestedTargets host payload = some targets)
    {name : String} : (∃ target ∈ targets, normalPath host (.str name) = some target) ↔
      Seen host payload name := by
  obtain ⟨items, stated, -, forms⟩ := requestedTargets_eq_some.mp read
  constructor
  · rintro ⟨target, member, normal⟩
    have listed : some target ∈ items.map (normalPath host) := by
      rw [forms]
      exact List.mem_map_of_mem member
    obtain ⟨item, own, same⟩ := List.mem_map.mp listed
    exact ⟨items, stated, item, own, target, same, normal⟩
  · rintro ⟨items', stated', item, own, target, same, normal⟩
    rw [← Json.arr.inj (stated.symm.trans stated')] at own
    have listed : some target ∈ targets.map some := by
      rw [← forms, ← same]
      exact List.mem_map_of_mem own
    obtain ⟨target', member, same'⟩ := List.mem_map.mp listed
    exact ⟨target', member, normal.trans same'.symm⟩

/-! ### What the patterns leave out -/

theorem seen_of_recognised {targets : List String}
    (read : requestedTargets host payload = some targets) {names : List String} {name : String}
    (recognised : rawTargets host payload = .arr (names.map .str)) (member : name ∈ names) :
    Seen host payload name := by
  obtain ⟨items, stated, -, forms⟩ := requestedTargets_eq_some.mp read
  have own : Json.str name ∈ items := by
    rw [Json.arr.inj (stated.symm.trans recognised)]
    exact List.mem_map_of_mem member
  have listed : normalPath host (.str name) ∈ targets.map some := by
    rw [← forms]
    exact List.mem_map_of_mem own
  obtain ⟨target, -, normal⟩ := List.mem_map.mp listed
  exact ⟨items, stated, .str name, own, target, normal.symm, normal.symm⟩

theorem targetsIn_marks (marks : patchTargets text ≠ []) :
    targetsIn host text = .arr ((patchTargets text).map .str) := by
  rw [targetsIn, if_neg marks]

theorem targetsIn_paths (unmarked : patchTargets text = []) :
    targetsIn host text = .arr ((namedPaths host text).map .str) := by
  rw [targetsIn, if_pos unmarked, namedPaths]

/-- **The targets hold every file exactly when the call has none, or what the patterns leave out is seen
all the same.** -/
theorem targetsChecked_iff (host : HookHost) (payload : Dict) : TargetsChecked host payload ↔
    Untargeted host payload ∨ ∀ text, commandText payload = some text → SeenAnyway host payload text := by
  constructor
  · intro checked
    cases read : requestedTargets host payload with
    | none => exact .inl (requestedTargets_none.mp read)
    | some targets =>
      refine .inr fun text stated => ?_
      have seen (name : String) (named : name ∈ namedFiles host text) : Seen host payload name :=
        (mem_targets_iff read).mp (checked text stated targets read name named)
      simp only [namedFiles, List.mem_append] at seen
      refine ⟨fun name own => seen name (.inl (.inl (.inr own))),
        fun name own => seen name (.inl (.inr own)), fun _ name own => seen name (.inr own),
        fun _ name own => ?_⟩
      exact (List.mem_append.mp own).elim (fun patched => seen name (.inl (.inl (.inl patched))))
        fun shell => seen name (.inr shell)
  · rintro seen text stated targets read name named
    have anyway : SeenAnyway host payload text := by
      refine seen.resolve_left (fun untargeted => ?_) text stated
      rw [requestedTargets_none.mpr untargeted] at read
      cases read
    rw [mem_targets_iff read]
    by_cases own : StatesTargets payload
    · simp only [namedFiles, List.mem_append] at named
      rcases named with ((patched | moved) | header) | shell
      · exact anyway.stated own name (List.mem_append_left _ patched)
      · exact anyway.moved name moved
      · exact anyway.headers name header
      · exact anyway.stated own name (List.mem_append_right _ shell)
    · have recognised : rawTargets host payload = targetsIn host text := rawTargets_of_commandText own stated
      simp only [namedFiles, List.mem_append] at named
      rcases named with ((patched | moved) | header) | shell
      · have marked := patchTargets_of_patchNames patched
        rw [targetsIn_marks (List.ne_nil_of_mem marked)] at recognised
        exact seen_of_recognised read recognised marked
      · exact anyway.moved name moved
      · exact anyway.headers name header
      · by_cases marks : patchTargets text = []
        · rw [targetsIn_paths marks] at recognised
          exact seen_of_recognised read recognised shell
        · exact anyway.beside marks name shell

/-! ### A file that is moved -/

def movePayload : Dict :=
  [("tool_name", .str "apply_patch"), ("tool_input", .obj [("command", .str
    "*** Begin Patch\n*** Update File: openai_project/a.py\n*** Move to: openai_project/secret.py\n*** End Patch")])]

/-- The control does not see where the patch moves the file to. -/
theorem moved_unseen : isMutationAttempt plainHost movePayload = true ∧
    requestedTargets plainHost movePayload = some ["openai_project/a.py"] ∧
    ¬ TargetsChecked plainHost movePayload := by
  have targets : requestedTargets plainHost movePayload = some ["openai_project/a.py"] := by
    decide +kernel
  refine ⟨by decide +kernel, targets, fun checked => ?_⟩
  obtain ⟨target, member, normal⟩ := checked _ rfl _ targets "openai_project/secret.py"
    (by decide +kernel)
  rw [List.mem_singleton.mp member] at normal
  exact absurd normal (by decide +kernel)

end Audisor.Lifecycle
