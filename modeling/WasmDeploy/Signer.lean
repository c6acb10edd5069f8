import WasmDeploy.Address
import WasmDeploy.Datum.Arithmetic
import WasmDeploy.Transaction

/-!
# Signers

This file gives the identity that signs a deployment: a private key bound to the chain that it signs for. A
key is 64 hexadecimal digits, optionally after `0x`, and below the order of the curve; no message ever shows
it.
-/

namespace WasmDeploy

/-- A private key bound to a chain. -/
structure Signer where
  privateKey : Nat
  chainId : Datum
deriving Inhabited

namespace Signer

/-- The digits of a private key, without the mark that may precede them. -/
def keyDigits : List Char → List Char
  | '0' :: 'x' :: rest => rest
  | digits => digits

/-- The number of a private key. -/
def readKey (key : Datum) : Except Fault Nat :=
  match key with
  | .text text =>
      let values := (keyDigits text.characters).map Text.hexDigitValue?
      if values.length ≠ 64 ∨ values.contains none then fail .keyMalformed
      else
        let number := values.foldl (fun number digit => number * 16 + digit.getD 0) 0
        if number < Crypto.Secp256k1.order then .ok number else fail .keyTooLarge
  | _ => fail .keyNotText

/-- The signer of a private key for a chain. -/
def ofKey (key chainId : Datum) : Except Fault Signer := do
  let privateKey ← readKey key
  return ⟨privateKey, chainId⟩

/-- The address of the signer's account. -/
def address (signer : Signer) : String :=
  addressOfKey signer.privateKey

/-- The transaction with given fields, signed. Only a transaction for the signer's own chain is. -/
def sign (signer : Signer) (fields : TransactionFields) : Except Fault SignedTransaction := do
  if !fields.chainId.same signer.chainId then
    Datum.refuse (.list [fields.chainId, signer.chainId])
      (.chainMismatch fields.chainId signer.chainId)
  let numbers ← fields.check
  numbers.sign signer.privateKey

end Signer

end WasmDeploy
