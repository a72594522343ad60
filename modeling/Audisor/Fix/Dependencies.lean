/-
**Which local imports of the affected files are found.**

* `Repository` — the files of the host as the resolution sees them: links, files, and the import
  statements of a source that can be read and parsed.
* `moduleCandidates` — the files that can hold a module, from the file that imports it.
* `resolveDependencyDetails` — the closure and the evidence, file by file and import by import.
* `prepareDependencyEvidence` — the manifest with both merged in, and one result for each finding.
-/

import Audisor.Fix.Records
import Audisor.Json.Str
import Audisor.Text.Words

namespace Audisor.Fix

open Json Text

/-! ### The repository -/

/-- An import statement of a Python source. -/
inductive ImportStatement where
  | plain (names : List String) (line : Nat)
  | within (module : Option String) (level : Nat) (names : List String) (line : Nat)

/-- One module that a source imports. -/
structure Import where
  module : String
  level : Nat
  line : Nat

/-- The modules of one statement: `from m import a` may name the module `m` or the module `m.a`. -/
def ImportStatement.imports : ImportStatement → List Import
  | plain names line => names.map fun name => ⟨name, 0, line⟩
  | within module level names line =>
    let stated := module.getD ""
    ⟨stated, level, line⟩ ::
      names.map fun name => ⟨if stated = "" then name else stated ++ "." ++ name, level, line⟩

/-- The files of the host. `base` is the resolved root of the repository; `statements` is `none` for a
source that cannot be read or parsed. -/
structure Repository where
  base : Path
  resolve : Path → Path
  isFile : Path → Bool
  statements : Path → Option (List ImportStatement)

def Repository.imports (repository : Repository) (source : Path) : List Import :=
  match repository.statements source with
  | some statements => statements.flatMap ImportStatement.imports
  | none => []

/-! ### Modules -/

def moduleParts (module : String) : List String :=
  ((module.toList.splitOn '.').map String.ofList).filter fun part => part ≠ ""

/-- `_module_candidates(source, module, level)`. -/
def moduleCandidates (source : Path) (module : String) (level : Nat) : List Path :=
  let base := Path.parent^[level - 1] source.parent
  match (moduleParts module).reverse with
  | [] => []
  | last :: front =>
    [base ++ front.reverse ++ [last ++ ".py"], base ++ front.reverse ++ [last, "__init__.py"]]

/-- A file of the repository: a candidate that lies below the base once its links are resolved. -/
def Repository.holds (repository : Repository) (candidate : Path) : Bool :=
  repository.isFile candidate && (repository.resolve candidate).isBelow repository.base

/-- The file that holds an imported module, relative to the base. -/
def Repository.target (repository : Repository) (source : Path) (imported : Import) :
    Option String :=
  ((moduleCandidates source imported.module imported.level).find? repository.holds).map
    fun candidate => (repository.resolve candidate).relativeTo repository.base

/-! ### The affected files -/

/-- `finding.file.replace("\\", "/")`. -/
def Finding.relative (finding : Finding) : String :=
  String.ofList (finding.file.toList.map fun c => if c = '\\' then '/' else c)

def issuePaths (findings : List Finding) : List String :=
  (findings.map Finding.relative).dedup.insertionSort fun a b => a ≤ b

def issueFiles (findings : List Finding) : List (String × Finding) :=
  (issuePaths findings).filterMap fun relative =>
    (findings.reverse.find? fun finding => finding.relative = relative).map fun last =>
      (relative, last)

def Repository.source (repository : Repository) (relative : String) : Path :=
  repository.resolve (repository.base.joined relative)

def Repository.present (repository : Repository) (relative : String) : Bool :=
  repository.isFile (repository.source relative) &&
    (repository.source relative).isBelow repository.base

/-! ### The closure -/

/-- The closure and its evidence while the imports are followed. -/
structure Closure where
  paths : List String
  evidence : Table (List Dict)

/-- The record of one import that adds a file to the closure. -/
def evidenceRecord (finding : Finding) (relative target : String) (imported : Import) : Dict :=
  [("originating_finding_id", .str finding.id), ("dependency_source", .str relative),
    ("dependency_target", .str target),
    ("inclusion_reason",
      .str "direct local import required to understand or validate affected file"),
    ("resolution_evidence",
      .str ("python import '" ++ imported.module ++ "' at " ++ relative ++ ":" ++
        String.ofList (decimal imported.line)))]

/-- `evidence.setdefault(target, []).append(record)`. -/
def appendRecord (evidence : Table (List Dict)) (target : String) (record : Dict) :
    Table (List Dict) :=
  evidence.insert target ((evidence.lookup target).getD [] ++ [record])

/-- Follow one import of an affected file. A target that is in the closure already adds nothing. -/
def Closure.follow (repository : Repository) (finding : Finding) (relative : String)
    (closure : Closure) (imported : Import) : Closure :=
  match repository.target (repository.source relative) imported with
  | none => closure
  | some target =>
    if target ∈ closure.paths then closure
    else
      { paths := target :: closure.paths
        evidence :=
          appendRecord closure.evidence target (evidenceRecord finding relative target imported) }

/-- Follow the imports of one affected file, or raise `FileNotFoundError`. -/
def Closure.visit (repository : Repository) (closure : Closure) (file : String × Finding) :
    Option Closure :=
  if repository.present file.1 then
    some ((repository.imports (repository.source file.1)).foldl
      (follow repository file.2 file.1) closure)
  else none

/-- `resolve_dependency_details(root, findings)`: `none` when an affected file is missing. -/
def resolveDependencyDetails (repository : Repository) (findings : List Finding) : Option Closure :=
  (issueFiles findings).foldlM (Closure.visit repository) { paths := issuePaths findings, evidence := ∅ }

/-! ### The merge -/

def recordKey (record : Dict) : Option Json × Option Json × Option Json :=
  (get? record "originating_finding_id", get? record "dependency_source",
    get? record "dependency_target")

def addRecord (records : List Dict) (record : Dict) : List Dict :=
  if records.any fun held => recordKey held = recordKey record then records else records ++ [record]

def mergeRecords (existing new : List Dict) : List Dict := new.foldl addRecord existing

def sortedTable {α : Type} (table : Table α) : Table α where
  entries := table.entries.insertionSort fun a b => a.1 ≤ b.1
  nodupKeys := (List.perm_nodupKeys (List.perm_insertionSort _ _)).mpr table.nodupKeys

def mergeEvidence (existing new : Table (List Dict)) : Table (List Dict) :=
  sortedTable (new.entries.foldl (fun merged entry =>
    merged.insert entry.1 (mergeRecords ((merged.lookup entry.1).getD []) entry.2)) existing)

/-! ### The preparation -/

structure DependencyResolutionResult where
  findingId : String
  resolved : Bool
  resolvedPaths : List String
  evidenceRecords : List Dict
  failureReason : Option String

/-- `record.get("originating_finding_id") == finding_id`. -/
def originates (findingId : String) (record : Dict) : Bool :=
  get? record "originating_finding_id" = some (.str findingId)

def unresolvedType : String := "dependency.unresolved"

def resolutionResult (repr : PythonRepr) (evidence : Table (List Dict)) (finding : Finding) :
    DependencyResolutionResult :=
  if finding.type ≠ unresolvedType then
    { findingId := finding.id, resolved := true, resolvedPaths := [], evidenceRecords := []
      failureReason := none }
  else
    let resolvedPaths :=
      (evidence.entries.filter fun entry => entry.2.any (originates finding.id)).map Sigma.fst
    if resolvedPaths ≠ [] then
      { findingId := finding.id, resolved := true, resolvedPaths
        evidenceRecords :=
          evidence.entries.flatMap fun entry => entry.2.filter (originates finding.id)
        failureReason := none }
    else
      { findingId := finding.id, resolved := false, resolvedPaths := [], evidenceRecords := []
        failureReason := some ("no repository-local target found for import " ++
          repr.text (getD finding.evidenceFields "module" (.str "unknown")) ++ " from " ++
          finding.file) }

def enrichedManifest (repository : Repository) (operation : AcceptedFixOperation) :
    FixScopedManifest :=
  let manifest := operation.manifest
  -- a missing file loses what the other files gave
  let found := (resolveDependencyDetails repository operation.findings).getD
    { paths := [], evidence := ∅ }
  { files := manifest.files
    dependencyClosure :=
      (manifest.dependencyClosure ++ found.paths).dedup.insertionSort fun a b => a ≤ b
    inputHash := manifest.inputHash
    fileHashes := manifest.fileHashes
    dependencyEvidence := mergeEvidence manifest.dependencyEvidence found.evidence }

/-- `_prepare_dependency_evidence(operation, root)`. -/
def prepareDependencyEvidence (repr : PythonRepr) (repository : Repository)
    (operation : AcceptedFixOperation) : AcceptedFixOperation × List DependencyResolutionResult :=
  let manifest := enrichedManifest repository operation
  ({ operation with manifest },
    operation.findings.map (resolutionResult repr manifest.dependencyEvidence))

end Audisor.Fix
