import WasmDeploy.Crypto.Keccak
import WasmDeploy.Crypto.Signature
import WasmDeploy.Text.Hex

/-!
# Addresses of accounts

This file gives the address of an account, the last twenty bytes of the hash of its public point, and its
text, in which the letter case of the digits carries a checksum.
-/

namespace WasmDeploy

/-- The bytes of the address that belongs to a public point. -/
def addressBytes (point : Crypto.Secp256k1.Point) : Bytes :=
  (Crypto.Keccak.hash point.toBytes).drop 12

/-- The text of an address: a letter is upper-case where the hash of the lower-case text has a digit of
eight or more. -/
def checksummed (address : Bytes) : String :=
  let digits := address.flatMap Text.hexOfByte
  let checks := (Crypto.Keccak.hash (digits.map fun digit => UInt8.ofNat digit.toNat)).flatMap
    fun byte => [byte.toNat / 16, byte.toNat % 16]
  String.ofList <| '0' :: 'x' :: (digits.zip checks).map fun (digit, check) =>
    if 8 ≤ check then digit.toUpper else digit

/-- The address of the account that a private key controls. -/
def addressOfKey (privateKey : Nat) : String :=
  checksummed (addressBytes (Crypto.publicPoint privateKey))

end WasmDeploy
