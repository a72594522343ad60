/-
**SHA-256.**

* `digest` — the hash of some bytes: padding, the message schedule of each block, and 64 rounds.
* `hexdigest` — its 64 hexadecimal digits. **`hexdigest_length`**, **`hexdigest_hex`**.
* `ByteDigest` — a hash function that writes such digits. `sha256Digest` is the one of the source.
-/

import Mathlib.Data.List.Basic

namespace Text

/-- A word of 32 bits. -/
abbrev Word := BitVec 32

/-! ### Padding -/

def lengthBytes (count : Nat) : List UInt8 :=
  (List.range 8).map fun position => UInt8.ofNat (count >>> (8 * (7 - position)))

/-- A message with a set bit, zeros up to a whole block, and its length in bits. -/
def pad (message : List UInt8) : List UInt8 :=
  message ++ 0x80 :: (List.replicate ((119 - message.length % 64) % 64) 0 ++
    lengthBytes (8 * message.length))

def toWords : List UInt8 → List Word
  | first :: second :: third :: fourth :: rest =>
    BitVec.ofNat 32 (((first.toNat * 256 + second.toNat) * 256 + third.toNat) * 256 +
      fourth.toNat) :: toWords rest
  | _ => []

def toBlocks (words : List Word) : List (List Word) :=
  (List.range (words.length / 16)).map fun position => (words.drop (16 * position)).take 16

/-! ### One block -/

def roundConstants : List Word :=
  [0x428a2f98, 0x71374491, 0xb5c0fbcf, 0xe9b5dba5, 0x3956c25b, 0x59f111f1, 0x923f82a4, 0xab1c5ed5,
    0xd807aa98, 0x12835b01, 0x243185be, 0x550c7dc3, 0x72be5d74, 0x80deb1fe, 0x9bdc06a7, 0xc19bf174,
    0xe49b69c1, 0xefbe4786, 0x0fc19dc6, 0x240ca1cc, 0x2de92c6f, 0x4a7484aa, 0x5cb0a9dc, 0x76f988da,
    0x983e5152, 0xa831c66d, 0xb00327c8, 0xbf597fc7, 0xc6e00bf3, 0xd5a79147, 0x06ca6351, 0x14292967,
    0x27b70a85, 0x2e1b2138, 0x4d2c6dfc, 0x53380d13, 0x650a7354, 0x766a0abb, 0x81c2c92e, 0x92722c85,
    0xa2bfe8a1, 0xa81a664b, 0xc24b8b70, 0xc76c51a3, 0xd192e819, 0xd6990624, 0xf40e3585, 0x106aa070,
    0x19a4c116, 0x1e376c08, 0x2748774c, 0x34b0bcb5, 0x391c0cb3, 0x4ed8aa4a, 0x5b9cca4f, 0x682e6ff3,
    0x748f82ee, 0x78a5636f, 0x84c87814, 0x8cc70208, 0x90befffa, 0xa4506ceb, 0xbef9a3f7, 0xc67178f2]

/-- The eight working words. -/
structure HashState where
  a : Word
  b : Word
  c : Word
  d : Word
  e : Word
  f : Word
  g : Word
  h : Word
  deriving DecidableEq

def HashState.initial : HashState :=
  ⟨0x6a09e667, 0xbb67ae85, 0x3c6ef372, 0xa54ff53a, 0x510e527f, 0x9b05688c, 0x1f83d9ab, 0x5be0cd19⟩

def HashState.words (state : HashState) : List Word :=
  [state.a, state.b, state.c, state.d, state.e, state.f, state.g, state.h]

def HashState.add (first second : HashState) : HashState :=
  ⟨first.a + second.a, first.b + second.b, first.c + second.c, first.d + second.d,
    first.e + second.e, first.f + second.f, first.g + second.g, first.h + second.h⟩

/-- The message schedule, the newest word first, with some more words. -/
def extend : Nat → List Word → List Word
  | 0, newest => newest
  | count + 1, newest =>
    let near := newest.getD 1 0
    let far := newest.getD 14 0
    let mixed := (near.rotateRight 17 ^^^ near.rotateRight 19 ^^^ near >>> 10) + newest.getD 6 0 +
      (far.rotateRight 7 ^^^ far.rotateRight 18 ^^^ far >>> 3) + newest.getD 15 0
    extend count (mixed :: newest)

def schedule (block : List Word) : List Word := (extend 48 block.reverse).reverse

/-- One round, with its constant and its word of the schedule. -/
def round (state : HashState) (input : Word × Word) : HashState :=
  let choice := (state.e &&& state.f) ^^^ (~~~state.e &&& state.g)
  let majority := (state.a &&& state.b) ^^^ (state.a &&& state.c) ^^^ (state.b &&& state.c)
  let first := state.h + (state.e.rotateRight 6 ^^^ state.e.rotateRight 11 ^^^
    state.e.rotateRight 25) + choice + input.1 + input.2
  let second := (state.a.rotateRight 2 ^^^ state.a.rotateRight 13 ^^^ state.a.rotateRight 22) +
    majority
  ⟨first + second, state.a, state.b, state.c, state.d + first, state.e, state.f, state.g⟩

def compress (state : HashState) (block : List Word) : HashState :=
  state.add ((roundConstants.zip (schedule block)).foldl round state)

/-! ### The digest -/

def digest (message : List UInt8) : HashState :=
  (toBlocks (toWords (pad message))).foldl compress .initial

def hexDigits (word : Word) : List Char :=
  (List.range 8).map fun position => Nat.digitChar (word.toNat >>> (4 * (7 - position)) % 16)

/-- `sha256(message).hexdigest()`. -/
def hexdigest (message : List UInt8) : List Char := (digest message).words.flatMap hexDigits

theorem hexdigest_length (message : List UInt8) : (hexdigest message).length = 64 := by
  simp [hexdigest, HashState.words, hexDigits]

theorem hexdigest_hex (message : List UInt8) {c : Char} (digit : c ∈ hexdigest message) :
    c ∈ "0123456789abcdef".toList := by
  obtain ⟨word, _, listed⟩ := List.mem_flatMap.mp digit
  obtain ⟨position, _, rfl⟩ := List.mem_map.mp listed
  have hex : ∀ n < 16, Nat.digitChar n ∈ "0123456789abcdef".toList := by decide
  exact hex _ (Nat.mod_lt _ (by decide))

/-! ### Hashes of bytes -/

def isDigestText (text : String) : Bool :=
  text.toList.length == 64 && text.toList.all fun c => c.isDigit || ('a' ≤ c && c ≤ 'f')

theorem isDigestText_hexdigest (content : ByteArray) :
    isDigestText (String.ofList (hexdigest content.toList)) = true := by
  have digits : ∀ c ∈ "0123456789abcdef".toList, (c.isDigit || ('a' ≤ c && c ≤ 'f')) = true :=
    List.all_eq_true.mp (by decide)
  rw [isDigestText, String.toList_ofList, hexdigest_length, Bool.and_eq_true, List.all_eq_true]
  exact ⟨rfl, fun c member => digits c (hexdigest_hex _ member)⟩

/-- A hash function of bytes, in 64 hexadecimal digits. -/
structure ByteDigest where
  hexdigest : ByteArray → String
  digits : ∀ content, isDigestText (hexdigest content) = true

/-- `hashlib.sha256(content).hexdigest()`. -/
def sha256Digest : ByteDigest :=
  ⟨fun content => String.ofList (hexdigest content.toList), isDigestText_hexdigest⟩

example : hexdigest [0x61, 0x62, 0x63] =
    "ba7816bf8f01cfea414140de5dae2223b00361a396177a9cb410ff61f20015ad".toList := by
  decide +kernel

end Text
