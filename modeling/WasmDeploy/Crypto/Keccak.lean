import WasmDeploy.Bytes

/-!
# Keccak-256

This file computes the 256-bit Keccak hash with the first version of its padding: a one bit after the message,
zeros, and a one bit at the end of the last block. The state is 25 lanes of 64 bits, lane `x + 5 * y` in
column `x` of row `y`, and a round is the composition of its layers.
-/

namespace WasmDeploy.Crypto.Keccak

/-- The lanes of a state. -/
abbrev State := Vector UInt64 25

/-- The lane in a column of a row, both taken modulo five. -/
def State.lane (state : State) (column row : Nat) : UInt64 :=
  state[column % 5 + 5 * (row % 5)]

/-- The state whose lanes are given by column and row. -/
def State.ofLanes (lane : Nat → Nat → UInt64) : State :=
  Vector.ofFn fun index => lane (index.val % 5) (index.val / 5)

/-- A word rotated to the left. -/
def rotate (word : UInt64) (count : Nat) : UInt64 :=
  (word <<< UInt64.ofNat count) ||| (word >>> UInt64.ofNat (64 - count))

/-- The parity of a column. -/
def parity (state : State) (column : Nat) : UInt64 :=
  state.lane column 0 ^^^ state.lane column 1 ^^^ state.lane column 2 ^^^ state.lane column 3 ^^^
    state.lane column 4

/-- Adds to each lane the parities of the two neighbouring columns. -/
def theta (state : State) : State :=
  let parities := Vector.ofFn fun column : Fin 5 => parity state column
  let change := Vector.ofFn fun column : Fin 5 =>
    parities[column + 4] ^^^ rotate parities[column + 1] 1
  Vector.ofFn fun index =>
    state[index] ^^^ change.get ⟨index.val % 5, Nat.mod_lt _ (by decide)⟩

/-- How far each lane is rotated. -/
def rotations : Vector Nat 25 :=
  #v[0, 1, 62, 28, 27, 36, 44, 6, 55, 20, 3, 10, 43, 25, 39, 41, 45, 15, 21, 8, 18, 2, 61, 56, 14]

/-- Rotates the lanes and moves lane `(x, y)` to `(y, 2 * x + 3 * y)`. -/
def rhoPi (state : State) : State :=
  State.ofLanes fun column row =>
    let source := (column + 3 * row) % 5
    rotate (state.lane source column) rotations[source % 5 + 5 * (column % 5)]

/-- Combines each lane with the next two lanes of its row. -/
def chi (state : State) : State :=
  State.ofLanes fun column row =>
    state.lane column row ^^^ (~~~(state.lane (column + 1) row) &&& state.lane (column + 2) row)

/-- Adds a constant to the first lane. -/
def iota (constant : UInt64) (state : State) : State :=
  state.set 0 (state[0] ^^^ constant)

/-- The constants of the rounds. -/
def roundConstants : List UInt64 :=
  [0x0000000000000001, 0x0000000000008082, 0x800000000000808a, 0x8000000080008000,
    0x000000000000808b, 0x0000000080000001, 0x8000000080008081, 0x8000000000008009,
    0x000000000000008a, 0x0000000000000088, 0x0000000080008009, 0x000000008000000a,
    0x000000008000808b, 0x800000000000008b, 0x8000000000008089, 0x8000000000008003,
    0x8000000000008002, 0x8000000000000080, 0x000000000000800a, 0x800000008000000a,
    0x8000000080008081, 0x8000000000008080, 0x0000000080000001, 0x8000000080008008]

/-- The permutation of states. -/
def permute (state : State) : State :=
  roundConstants.foldl (fun state constant => iota constant (chi (rhoPi (theta state)))) state

/-- How many bytes of the state a block covers. -/
def rate : Nat := 136

/-- The eight bytes of a word, the least significant first. -/
def wordBytes (word : UInt64) : Bytes :=
  (List.range 8).map fun index => (word >>> UInt64.ofNat (8 * index)).toUInt8

/-- The word that bytes write, the least significant first. -/
def wordOfBytes (bytes : Bytes) : UInt64 :=
  bytes.foldr (fun byte word => word * 256 + byte.toUInt64) 0

/-- The words that bytes write, eight bytes to a word. -/
def words (bytes : Bytes) : List UInt64 :=
  if bytes.isEmpty then [] else wordOfBytes (bytes.take 8) :: words (bytes.drop 8)
termination_by bytes.length
decreasing_by
  rename_i nonempty
  cases bytes with
  | nil => simp at nonempty
  | cons => simp only [List.length_drop, List.length_cons]; omega

/-- The padding after a last block of the given length. -/
def padding (length : Nat) : Bytes :=
  let free := rate - length % rate
  if free = 1 then [0x81] else 0x01 :: List.replicate (free - 2) 0x00 ++ [0x80]

/-- Takes the bytes of a padded message into a state, a block at a time. -/
def absorb (state : State) (message : Bytes) : State :=
  if message.isEmpty then state else
    let block := (words (message.take rate)).toArray
    let mixed := Vector.ofFn fun index => state[index] ^^^ block.getD index.val 0
    absorb (permute mixed) (message.drop rate)
termination_by message.length
decreasing_by
  rename_i nonempty
  cases message with
  | nil => simp at nonempty
  | cons => simp only [List.length_drop, List.length_cons, rate]; omega

/-- The hash of a message. -/
def hash (message : Bytes) : Bytes :=
  let state := absorb (Vector.replicate 25 0) (message ++ padding message.length)
  (state.toList.take 4).flatMap wordBytes

end WasmDeploy.Crypto.Keccak
