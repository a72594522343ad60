/-
**Canonical JSON and content hashes.**

* `canonicalText` — the text that is hashed: the object without its own hash, with sorted keys and
  compact separators.
* `Sha256` — a hash function that writes 64 hexadecimal digits, a parameter of the model. `sha256` is
  `hashlib.sha256(..).hexdigest()`.
* `canonicalHash`, `verifyHash` — an artifact is sealed when its hash is that of its other fields.
* `ArtifactRef`, `artifactRef` — a reference binds an id, a schema, a version and a hash.
-/

import Audisor.Aflow.Formats
import Audisor.Json.Text
import Audisor.Text.Lines
import Audisor.Text.Sha256

namespace Audisor.Aflow

open Json

/-! ### Canonical text -/

def hashFields : List String := ["content_hash", "lock_hash"]

/-- `fields.pop(key, None)`. -/
def remove (fields : Dict) (key : String) : Dict := fields.filter fun field => field.1 ≠ key

/-- The confirmation of a success definition without the definition's own hash. -/
def withoutConfirmation (fields : Dict) : Dict :=
  if hasKey fields "success_definition_id" then
    match get? fields "confirmation" with
    | some (.obj confirmation) => set fields "confirmation" (.obj (remove confirmation "content_hash"))
    | _ => fields
  else fields

def scrub : Json → Json
  | .obj fields => .obj (withoutConfirmation (hashFields.foldl remove fields))
  | value => value

theorem scrub_contentHash (fields : Dict) (hash : Json) :
    scrub (.obj (fields ++ [("content_hash", hash)])) = scrub (.obj fields) := by
  simp [scrub, hashFields, remove]

/-- The text of `canonical_bytes`. -/
def canonicalText (value : Json) : String :=
  (sortKeys (scrub value)).dumps { ensureAscii := false, compact := true }

/-! ### Hashes -/

/-- A hash function of texts: 64 lower-case hexadecimal digits. -/
structure Sha256 where
  hexdigest : String → String
  length : ∀ text, (hexdigest text).toList.length = 64
  hex : ∀ text, (hexdigest text).toList.all isHexChar = true

/-- `hashlib.sha256(text.encode("utf-8")).hexdigest()`. -/
def sha256 : Sha256 where
  hexdigest text := String.ofList (Text.hexdigest (Text.encode text.toList).toList)
  length text := by
    rw [String.toList_ofList]
    exact Text.hexdigest_length _
  hex text := by
    have digits : ∀ c ∈ "0123456789abcdef".toList, isHexChar c = true :=
      List.all_eq_true.mp (by decide)
    rw [String.toList_ofList, List.all_eq_true]
    exact fun c member => digits c (Text.hexdigest_hex _ member)

theorem isHexChar_ne_newline {c : Char} (hex : isHexChar c = true) : c ≠ '\n' := by
  rintro rfl
  cases hex

theorem isSha256_digest (sha : Sha256) (text : String) :
    isSha256 ("sha256:" ++ sha.hexdigest text) = true := by
  have long := sha.length text
  have hex := sha.hex text
  have ended : withoutNewline ("sha256:" ++ sha.hexdigest text).toList =
      "sha256:".toList ++ (sha.hexdigest text).toList := by
    rw [withoutNewline, String.toList_append, if_neg]
    intro last
    rw [List.getLast?_append_of_ne_nil _ (by
      intro empty
      rw [empty] at long
      cases long)] at last
    exact isHexChar_ne_newline (List.all_eq_true.mp hex _ (List.mem_of_getLast? last)) rfl
  rw [isSha256, ended]
  simp [long, hex]

section

variable (sha : Sha256)

def canonicalHash (value : Json) : Digest :=
  ⟨"sha256:" ++ sha.hexdigest (canonicalText value), isSha256_digest sha _⟩

theorem canonicalHash_contentHash (fields : Dict) (hash : Json) :
    canonicalHash sha (.obj (fields ++ [("content_hash", hash)])) =
      canonicalHash sha (.obj fields) := by
  simp only [canonicalHash, canonicalText, scrub_contentHash]

/-- `verify_hash(value, field)`: the stated hash is the hash of the value. -/
def verifyHash (stated : Digest) (value : Json) : Bool := stated == canonicalHash sha value

end

/-! ### References -/

/-- An `artifact_ref`. -/
structure ArtifactRef where
  artifactId : Identifier
  schemaId : Words
  version : SemVer
  contentHash : Digest
  deriving DecidableEq

/-- An `artifact_ref` to a document whose id is composed. -/
structure DerivedRef where
  artifactId : String
  schemaId : Words
  version : SemVer
  contentHash : Digest
  deriving DecidableEq

/-- An `evidence_ref`. -/
structure EvidenceRef where
  evidenceId : Identifier
  contentHash : Digest
  deriving DecidableEq

def ArtifactRef.toJson (ref : ArtifactRef) : Json :=
  .obj [("artifact_id", .str ref.artifactId.val), ("schema_id", .str ref.schemaId.val),
    ("version", .str ref.version.val), ("content_hash", .str ref.contentHash.val)]

def DerivedRef.toJson (ref : DerivedRef) : Json :=
  .obj [("artifact_id", .str ref.artifactId), ("schema_id", .str ref.schemaId.val),
    ("version", .str ref.version.val), ("content_hash", .str ref.contentHash.val)]

def EvidenceRef.toJson (ref : EvidenceRef) : Json :=
  .obj [("evidence_id", .str ref.evidenceId.val), ("content_hash", .str ref.contentHash.val)]

def schemaId (schemaName : String) : Words :=
  ⟨"https://theoneshot.dev/schemas/aflow/v1/" ++ schemaName, by simp⟩

/-- The `schema_version` of every artifact, which is the version of one that states no other. -/
def schemaVersion : SemVer := ⟨"1.0.0", by decide⟩

/-- `artifact_ref(..)`. -/
def artifactRef (artifactId : Identifier) (schemaName : String) (version : SemVer)
    (contentHash : Digest) : ArtifactRef :=
  { artifactId, schemaId := schemaId schemaName, version, contentHash }

end Audisor.Aflow
