/-!
# Bytes and the numbers they write

This file gives byte strings and the two ways in which they write a number with the most significant byte
first: with as few bytes as it needs, or with a fixed count of them.
-/

namespace WasmDeploy

/-- A byte string. -/
abbrev Bytes := List UInt8

namespace Bytes

/-- The number that some bytes write. -/
def toNumber (bytes : Bytes) : Nat :=
  bytes.foldl (fun number byte => number * 256 + byte.toNat) 0

/-- The bytes of a number without leading zeros; zero has none. -/
def ofNumber (number : Nat) : Bytes :=
  if number = 0 then [] else ofNumber (number / 256) ++ [UInt8.ofNat number]
termination_by number
decreasing_by omega

/-- The last `width` bytes of a number, leading zeros included. -/
def ofNumberPadded : (width : Nat) → (number : Nat) → Bytes
  | 0, _ => []
  | width + 1, number => ofNumberPadded width (number / 256) ++ [UInt8.ofNat number]

/-- Appending a byte shifts the number that is written. -/
@[simp] theorem toNumber_append_singleton (bytes : Bytes) (byte : UInt8) :
    toNumber (bytes ++ [byte]) = toNumber bytes * 256 + byte.toNat := by
  simp [toNumber]

/-- The minimal bytes of a number write that number. -/
@[simp] theorem toNumber_ofNumber (number : Nat) : toNumber (ofNumber number) = number := by
  induction number using ofNumber.induct with
  | case1 => simp [ofNumber, toNumber]
  | case2 number positive ih =>
    rw [ofNumber, if_neg positive, toNumber_append_singleton, ih]
    simp only [UInt8.toNat_ofNat']
    omega

end Bytes

end WasmDeploy
