import WasmDeploy.Bytes

/-!
# SHA-256 and its keyed form

This file computes the SHA-256 hash and the message authentication code made of it.
-/

namespace WasmDeploy.Crypto.Sha256

/-- The eight working words. -/
structure Words where
  a : UInt32
  b : UInt32
  c : UInt32
  d : UInt32
  e : UInt32
  f : UInt32
  g : UInt32
  h : UInt32
deriving DecidableEq, Repr

/-- The words added in pairs. -/
def Words.add (left right : Words) : Words :=
  ⟨left.a + right.a, left.b + right.b, left.c + right.c, left.d + right.d, left.e + right.e,
    left.f + right.f, left.g + right.g, left.h + right.h⟩

/-- The words at the start. -/
def initial : Words :=
  ⟨0x6a09e667, 0xbb67ae85, 0x3c6ef372, 0xa54ff53a, 0x510e527f, 0x9b05688c, 0x1f83d9ab, 0x5be0cd19⟩

/-- The constants of the rounds. -/
def roundConstants : List UInt32 :=
  [0x428a2f98, 0x71374491, 0xb5c0fbcf, 0xe9b5dba5, 0x3956c25b, 0x59f111f1, 0x923f82a4, 0xab1c5ed5,
    0xd807aa98, 0x12835b01, 0x243185be, 0x550c7dc3, 0x72be5d74, 0x80deb1fe, 0x9bdc06a7, 0xc19bf174,
    0xe49b69c1, 0xefbe4786, 0x0fc19dc6, 0x240ca1cc, 0x2de92c6f, 0x4a7484aa, 0x5cb0a9dc, 0x76f988da,
    0x983e5152, 0xa831c66d, 0xb00327c8, 0xbf597fc7, 0xc6e00bf3, 0xd5a79147, 0x06ca6351, 0x14292967,
    0x27b70a85, 0x2e1b2138, 0x4d2c6dfc, 0x53380d13, 0x650a7354, 0x766a0abb, 0x81c2c92e, 0x92722c85,
    0xa2bfe8a1, 0xa81a664b, 0xc24b8b70, 0xc76c51a3, 0xd192e819, 0xd6990624, 0xf40e3585, 0x106aa070,
    0x19a4c116, 0x1e376c08, 0x2748774c, 0x34b0bcb5, 0x391c0cb3, 0x4ed8aa4a, 0x5b9cca4f, 0x682e6ff3,
    0x748f82ee, 0x78a5636f, 0x84c87814, 0x8cc70208, 0x90befffa, 0xa4506ceb, 0xbef9a3f7, 0xc67178f2]

/-- A word rotated to the right. -/
def rotate (word : UInt32) (count : UInt32) : UInt32 :=
  (word >>> count) ||| (word <<< (32 - count))

/-- Three rotations of a word combined. -/
def rotations (word first second third : UInt32) : UInt32 :=
  rotate word first ^^^ rotate word second ^^^ rotate word third

/-- Two rotations and a shift of a word combined. -/
def rotationsAndShift (word first second shift : UInt32) : UInt32 :=
  rotate word first ^^^ rotate word second ^^^ (word >>> shift)

/-- Extends a schedule, given with its latest word first, by `count` words. -/
def extend : (count : Nat) → List UInt32 → List UInt32
  | 0, schedule => schedule
  | count + 1, schedule =>
      let back (distance : Nat) := schedule.getD (distance - 1) 0
      let word := rotationsAndShift (back 2) 17 19 10 + back 7 +
        rotationsAndShift (back 15) 7 18 3 + back 16
      extend count (word :: schedule)

/-- One round. -/
def round (words : Words) (constant scheduled : UInt32) : Words :=
  let choice := (words.e &&& words.f) ^^^ (~~~words.e &&& words.g)
  let majority := (words.a &&& words.b) ^^^ (words.a &&& words.c) ^^^ (words.b &&& words.c)
  let first := words.h + rotations words.e 6 11 25 + choice + constant + scheduled
  let second := rotations words.a 2 13 22 + majority
  ⟨first + second, words.a, words.b, words.c, words.d + first, words.e, words.f, words.g⟩

/-- Takes one block, given as its words, into the state. -/
def compress (state : Words) (block : List UInt32) : Words :=
  let schedule := (extend 48 block.reverse).reverse
  state.add ((roundConstants.zip schedule).foldl
    (fun words entry => round words entry.1 entry.2) state)

/-- The words that bytes write, four bytes to a word. -/
def wordsOfBytes : Bytes → List UInt32
  | first :: second :: third :: fourth :: rest =>
      UInt32.ofNat (Bytes.toNumber [first, second, third, fourth]) :: wordsOfBytes rest
  | _ => []

/-- The message with a one bit, zeros up to a whole number of blocks, and its length in bits. -/
def pad (message : Bytes) : Bytes :=
  let zeros := (119 - message.length % 64) % 64
  message ++ 0x80 :: List.replicate zeros 0x00 ++ Bytes.ofNumberPadded 8 (8 * message.length)

/-- Takes the words of a padded message into the state, a block at a time. -/
def absorb (state : Words) (message : List UInt32) : Words :=
  if message.isEmpty then state
  else absorb (compress state (message.take 16)) (message.drop 16)
termination_by message.length
decreasing_by
  rename_i nonempty
  cases message with
  | nil => simp at nonempty
  | cons => simp only [List.length_drop, List.length_cons]; omega

/-- The bytes of the words. -/
def Words.toBytes (words : Words) : Bytes :=
  [words.a, words.b, words.c, words.d, words.e, words.f, words.g, words.h].flatMap fun word =>
    Bytes.ofNumberPadded 4 word.toNat

/-- The hash of a message. -/
def hash (message : Bytes) : Bytes :=
  (absorb initial (wordsOfBytes (pad message))).toBytes

/-- The authentication code of a message under a key of at most one block. -/
def code (key message : Bytes) : Bytes :=
  let padded := key ++ List.replicate (64 - key.length) 0x00
  let inner := hash (padded.map (· ^^^ 0x36) ++ message)
  hash (padded.map (· ^^^ 0x5c) ++ inner)

end WasmDeploy.Crypto.Sha256
