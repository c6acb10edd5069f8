import WasmDeploy.Text.Quoted

/-!
# Hexadecimal text

This file writes bytes and numbers in lower-case hexadecimal and reads hexadecimal digits of either case.
-/

namespace WasmDeploy.Text

/-- The two digits of a byte. -/
def hexOfByte (byte : UInt8) : List Char :=
  [hexDigit (byte.toNat / 16), hexDigit byte.toNat]

/-- The digits of some bytes. -/
def hexOfBytes (bytes : Bytes) : String :=
  String.ofList (bytes.flatMap hexOfByte)

/-- Bytes as hexadecimal data, marked with `0x`. -/
def hexData (bytes : Bytes) : String :=
  "0x" ++ hexOfBytes bytes

/-- A number as a hexadecimal quantity, marked with `0x` and without leading zeros. -/
def hexQuantity (value : Nat) : String :=
  "0x" ++ String.ofList (Nat.toDigits 16 value)

/-- The value of an ASCII hexadecimal digit of either case. -/
def hexDigitValue? (character : Char) : Option Nat :=
  let codePoint := character.toNat
  if 0x30 ≤ codePoint ∧ codePoint ≤ 0x39 then some (codePoint - 0x30)
  else if 0x41 ≤ codePoint ∧ codePoint ≤ 0x46 then some (codePoint - 0x41 + 10)
  else if 0x61 ≤ codePoint ∧ codePoint ≤ 0x66 then some (codePoint - 0x61 + 10)
  else none

/-- The bytes that pairs of hexadecimal digits stand for. -/
def bytesOfHex? : List Char → Option Bytes
  | [] => some []
  | [_] => none
  | high :: low :: rest => do
      let upper ← hexDigitValue? high
      let lower ← hexDigitValue? low
      let bytes ← bytesOfHex? rest
      return UInt8.ofNat (upper * 16 + lower) :: bytes

end WasmDeploy.Text
