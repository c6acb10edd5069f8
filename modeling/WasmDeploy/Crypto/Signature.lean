import WasmDeploy.Crypto.Secp256k1
import WasmDeploy.Crypto.Sha256

/-!
# Signatures

This file signs hashes with a private key over secp256k1 and recovers the public point from a signature. The
secret number of a signature is derived from the key and the hash by a chain of authentication codes, so
the same hash always gets the same signature. Of the two values of `s` that fit, the lower one is taken.
-/

namespace WasmDeploy.Crypto

open Secp256k1

/-- A signature: its two numbers, and the parity of the point that the first one is the abscissa of. -/
structure Signature where
  r : Nat
  s : Nat
  parity : Nat
deriving DecidableEq, Repr

namespace Signature

/-- The secret number for a hash under a private key. -/
def secretNumber (privateKey hash : Bytes) : Nat :=
  let ones := List.replicate 32 0x01
  let firstKey := Sha256.code (List.replicate 32 0x00) (ones ++ 0x00 :: privateKey ++ hash)
  let firstValue := Sha256.code firstKey ones
  let secondKey := Sha256.code firstKey (firstValue ++ 0x01 :: privateKey ++ hash)
  let secondValue := Sha256.code secondKey firstValue
  Bytes.toNumber (Sha256.code secondKey secondValue)

/-- The signature with the lower of the two values of `s` that fit, the point of the other one being opposite. -/
def lower (r s y : Nat) : Signature :=
  if 2 * s < order then ⟨r, s, y % 2⟩ else ⟨r, order - s, (y + 1) % 2⟩

/-- The signature of a hash with a secret number. -/
def ofSecret (privateKey hash secret : Nat) : Signature :=
  let point := (Point.multiple (secret % order) Point.generator).coordinates
  lower point.1 (inverse secret order * (hash + point.1 * privateKey) % order) point.2

/-- The signature of a hash. -/
def sign (privateKey : Nat) (hash : Bytes) : Signature :=
  let secret := secretNumber (Bytes.ofNumberPadded 32 privateKey) hash
  ofSecret privateKey (Bytes.toNumber hash) secret

/-- The public point that a signature of a hash belongs to. -/
def recover? (signature : Signature) (hash : Bytes) : Option Point :=
  (Point.ofAbscissa? signature.r signature.parity).map fun point =>
    let subtracted := Point.multiple (Bytes.toNumber hash % order) Point.generator
    Point.multiple (inverse signature.r order)
      (Point.add (Point.multiple signature.s point) subtracted.neg)

end Signature

/-- The public point of a private key. -/
def publicPoint (privateKey : Nat) : Point :=
  Point.multiple privateKey Point.generator

end WasmDeploy.Crypto
