/-
**Which paths an authority covers.**

* `Disk` — what the checks ask of the file system: where links lead, and what is there.
* `validateRelativePath` — a relative path in the platform-neutral form, or the reason it is not.
* `canonicalizePath` — where it leads, unless that is outside the base.
* `checkPathAllowed` — a path is an allowed path or lies below one.
* `checkPathsAllowed` — every path is allowed and none is prohibited.
-/

import Audisor.Interaction.Checked
import Audisor.Text.Words

namespace Audisor.Fix

open Checked Text

/-- What the checks ask of the file system. -/
structure Disk where
  resolve : Path → Path
  isThere : Path → Bool
  isDir : Path → Bool
  workingDirectory : Path

/-- `WINDOWS_RESERVED`. -/
def windowsReserved : List String :=
  ["con", "prn", "aux", "nul", "com1", "com2", "com3", "com4", "com5", "com6", "com7", "com8", "com9",
    "lpt1", "lpt2", "lpt3", "lpt4", "lpt5", "lpt6", "lpt7", "lpt8", "lpt9"]

/-- `is_windows_reserved(name)`. -/
def isWindowsReserved (name : List Char) : Bool :=
  windowsReserved.contains (String.ofList (lower (name.takeWhile fun c => c ≠ '.')))

/-- `windows.drive or windows.root or posix.is_absolute()`. -/
def isRootedAnywhere : List Char → Bool
  | '/' :: _ => true
  | '\\' :: _ => true
  | _ :: ':' :: _ => true
  | _ => false

def schemes : List String := ["http:", "https:", "file:"]

def partError (part : List Char) : Option String :=
  if part = ['.'] ∨ part = ['.', '.'] then
    some ("path contains traversal component: " ++ String.ofList part)
  else if part.getLast? = some '.' ∨ part.getLast? = some ' ' then
    some ("path component ends with dot or space: " ++ String.ofList part)
  else if isWindowsReserved part then
    some ("path component is Windows reserved name: " ++ String.ofList part)
  else none

/-- The patterns that the checks in front of them leave: `^\.\.$` and `\.\.`. -/
def dangerousPattern (path : List Char) : Option String :=
  if path = ['.', '.', '\n'] then some "path contains parent directory reference"
  else if contains path ['.', '.'] then some "path contains parent traversal"
  else none

/-- `validate_relative_path(path, allow_dot=True)`. -/
def validateRelativePath (path : String) : Except String Unit :=
  let text := path.toList
  if text = [] then .error "path must be a non-empty string"
  else if text.contains (Char.ofNat 0) then .error "path contains null byte"
  else if text = ['.'] then .ok ()
  else if isRootedAnywhere text then .error "path must be relative, not absolute"
  else if text.contains ':' ∧ ¬ schemes.any fun scheme => scheme.toList.isPrefixOf text then
    .error "path contains colon (possible drive letter)"
  else
    let parts := (pathParts (String.ofList (text.map fun c => if c = '\\' then '/' else c))).map
      String.toList
    if parts = [] then .error "path is empty after normalization"
    else
      match parts.findSome? partError with
      | some reason => .error reason
      | none =>
        match dangerousPattern text with
        | some reason => .error reason
        | none => .ok ()

/-- `canonicalize_path(path, base_dir)`. -/
def canonicalizePath (disk : Disk) (path : String) (base : Path) : Except String Path := do
  validateRelativePath path
  let target := disk.resolve (base.joined path)
  refuse (¬ (disk.resolve base).isPrefixOf target) ("path escapes base directory: " ++
    target.text ++ " is outside " ++ base.text)
  return target

/-- `canonical == allowed or allowed in canonical.parents`. -/
def isWithin (canonical allowed : Path) : Bool := canonical == allowed || canonical.isBelow allowed

/-- Whether some allowed path covers the canonical one. An allowed path that leaves the base raises. -/
def anyCovers (disk : Disk) (canonical base : Path) : List String → Except String Bool
  | [] => .ok false
  | allowed :: rest => do
    let target ← canonicalizePath disk allowed base
    if isWithin canonical target then return true
    anyCovers disk canonical base rest

/-- `check_paths_allowed([path], allowed_paths, [], base_dir)`: the reason of a refusal; an error is a
`PathSecurityError` that leaves the function. -/
def checkPathAllowed (disk : Disk) (path : String) (allowedPaths : List String) (base : Path) :
    Except String (Option String) := do
  let _ ← allowedPaths.mapM validateRelativePath
  match canonicalizePath disk path base with
  | .error reason => return some ("path validation failed for '" ++ path ++ "': " ++ reason)
  | .ok canonical =>
    let covered ← anyCovers disk canonical base allowedPaths
    return if covered then none else some ("path '" ++ path ++ "' is outside allowed paths")

/-- The first prohibited path that covers the canonical one. -/
def prohibiting (disk : Disk) (canonical base : Path) : List String → Except String (Option String)
  | [] => .ok none
  | prohibited :: rest => do
    let target ← canonicalizePath disk prohibited base
    if isWithin canonical target then return some prohibited
    prohibiting disk canonical base rest

/-- What `check_paths_allowed` has against one path. -/
def pathObjection (disk : Disk) (allowedPaths prohibitedPaths : List String) (base : Path)
    (path : String) : Except String (Option String) :=
  match canonicalizePath disk path base with
  | .error reason => .ok (some ("path validation failed for '" ++ path ++ "': " ++ reason))
  | .ok canonical => do
    match ← prohibiting disk canonical base prohibitedPaths with
    | some prohibited =>
      return some ("path '" ++ path ++ "' matches prohibited path '" ++ prohibited ++ "'")
    | none =>
      let covered ← anyCovers disk canonical base allowedPaths
      return if covered then none else some ("path '" ++ path ++ "' is outside allowed paths")

def firstObjection (disk : Disk) (allowedPaths prohibitedPaths : List String) (base : Path) :
    List String → Except String (Option String)
  | [] => .ok none
  | path :: rest => do
    match ← pathObjection disk allowedPaths prohibitedPaths base path with
    | some reason => return some reason
    | none => firstObjection disk allowedPaths prohibitedPaths base rest

/-- `check_paths_allowed(paths, allowed_paths, prohibited_paths, base_dir)`: the reason of a refusal;
an error is a `PathSecurityError` that leaves the function. -/
def checkPathsAllowed (disk : Disk) (paths allowedPaths prohibitedPaths : List String)
    (base : Path) : Except String (Option String) := do
  let _ ← allowedPaths.mapM validateRelativePath
  let _ ← prohibitedPaths.mapM validateRelativePath
  firstObjection disk allowedPaths prohibitedPaths base paths

example : (validateRelativePath "src/app.py").toOption = some () := by decide +kernel

/-! ### What an authority covers -/

section

variable {disk : Disk} {base : Path}

/-- A path that an authority permits: below an allowed path and below no prohibited one. -/
structure PathPermitted (disk : Disk) (base : Path) (allowedPaths prohibitedPaths : List String)
    (path : String) : Prop where
  lies : ∃ canonical, canonicalizePath disk path base = .ok canonical ∧
    (∃ allowed ∈ allowedPaths, ∃ target, canonicalizePath disk allowed base = .ok target ∧
      isWithin canonical target = true) ∧
    ∀ prohibited ∈ prohibitedPaths, ∃ target, canonicalizePath disk prohibited base = .ok target ∧
      isWithin canonical target = false

theorem anyCovers_true {canonical : Path} {allowedPaths : List String}
    (covered : anyCovers disk canonical base allowedPaths = .ok true) :
    ∃ allowed ∈ allowedPaths, ∃ target, canonicalizePath disk allowed base = .ok target ∧
      isWithin canonical target = true := by
  induction allowedPaths with
  | nil => cases covered
  | cons allowed rest ih =>
    rw [anyCovers] at covered
    obtain ⟨target, leads, covered⟩ := bind_eq_ok.mp covered
    by_cases within : isWithin canonical target = true
    · exact ⟨allowed, List.mem_cons_self, target, leads, within⟩
    · rw [if_neg within] at covered
      obtain ⟨other, listed, found⟩ := ih covered
      exact ⟨other, List.mem_cons_of_mem _ listed, found⟩

theorem prohibiting_none {canonical : Path} {prohibitedPaths : List String}
    (free : prohibiting disk canonical base prohibitedPaths = .ok none) :
    ∀ prohibited ∈ prohibitedPaths, ∃ target, canonicalizePath disk prohibited base = .ok target ∧
      isWithin canonical target = false := by
  induction prohibitedPaths with
  | nil => exact List.forall_mem_nil _
  | cons prohibited rest ih =>
    rw [prohibiting] at free
    obtain ⟨target, leads, free⟩ := bind_eq_ok.mp free
    by_cases within : isWithin canonical target = true
    · rw [if_pos within] at free
      cases free
    · rw [if_neg within] at free
      exact List.forall_mem_cons.mpr ⟨⟨target, leads, Bool.eq_false_iff.mpr within⟩, ih free⟩

theorem pathObjection_none {allowedPaths prohibitedPaths : List String} {path : String}
    (clear : pathObjection disk allowedPaths prohibitedPaths base path = .ok none) :
    PathPermitted disk base allowedPaths prohibitedPaths path := by
  rw [pathObjection] at clear
  split at clear
  · cases clear
  · rename_i canonical leads
    obtain ⟨found, free, clear⟩ := bind_eq_ok.mp clear
    cases found with
    | some prohibited => cases clear
    | none =>
      obtain ⟨covered, read, clear⟩ := bind_eq_ok.mp clear
      cases covered with
      | false => cases clear
      | true => exact ⟨canonical, leads, anyCovers_true read, prohibiting_none free⟩

theorem firstObjection_none {allowedPaths prohibitedPaths paths : List String}
    (clear : firstObjection disk allowedPaths prohibitedPaths base paths = .ok none) :
    ∀ path ∈ paths, PathPermitted disk base allowedPaths prohibitedPaths path := by
  induction paths with
  | nil => exact List.forall_mem_nil _
  | cons path rest ih =>
    rw [firstObjection] at clear
    obtain ⟨found, objection, clear⟩ := bind_eq_ok.mp clear
    cases found with
    | some reason => cases clear
    | none => exact List.forall_mem_cons.mpr ⟨pathObjection_none objection, ih clear⟩

/-- **Paths that pass the check are permitted, each of them.** -/
theorem checkPathsAllowed_none {paths allowedPaths prohibitedPaths : List String}
    (clear : checkPathsAllowed disk paths allowedPaths prohibitedPaths base = .ok none) :
    ∀ path ∈ paths, PathPermitted disk base allowedPaths prohibitedPaths path := by
  obtain ⟨_, _, clear⟩ := bind_eq_ok.mp clear
  obtain ⟨_, _, clear⟩ := bind_eq_ok.mp clear
  exact firstObjection_none clear

end

end Audisor.Fix
