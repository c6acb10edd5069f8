import WasmDeploy.Crypto.Keccak
import WasmDeploy.Crypto.Signature
import WasmDeploy.Fault
import WasmDeploy.Rlp
import WasmDeploy.Text.Hex

/-!
# Deployment transactions

This file gives the transaction that creates a contract, its fields as they are handed to the signer, and the
bytes that are signed and sent. It has no recipient and carries no value. The chain id enters the signed bytes
and, through them, the parity of the signature, so that the transaction is valid on one chain only.
-/

namespace WasmDeploy

/-- An unsigned transaction that creates a contract from a payload. -/
structure DeploymentTransaction where
  chainId : Datum
  payload : Datum
  gasLimit : Datum
  gasPrice : Datum
deriving Inhabited

/-- The fields of a transaction to be signed, unchecked. -/
structure TransactionFields where
  nonce : Datum
  gasPrice : Datum
  gasLimit : Datum
  payload : Datum
  chainId : Datum
deriving Inhabited

namespace DeploymentTransaction

/-- The fields of the transaction with a nonce. -/
def fields (transaction : DeploymentTransaction) (nonce : Datum) : TransactionFields where
  nonce
  gasPrice := transaction.gasPrice
  gasLimit := transaction.gasLimit
  payload := transaction.payload
  chainId := transaction.chainId

/-- The transaction as text. The payload is left out. -/
def display (transaction : DeploymentTransaction) : String :=
  s!"DeploymentTransaction(chain_id={transaction.chainId.quoted}, " ++
    s!"gas_limit={transaction.gasLimit.quoted}, gas_price={transaction.gasPrice.quoted})"

end DeploymentTransaction

/-- The numbers of a transaction, checked. A transaction without a chain id is valid on every chain. -/
structure TransactionNumbers where
  nonce : Nat
  gasPrice : Nat
  gasLimit : Nat
  payload : Bytes
  chainId : Option Nat
deriving DecidableEq, Repr

namespace TransactionFields

/-- The fields by name, in their order. -/
def named (fields : TransactionFields) : List (String × Datum) :=
  [("nonce", fields.nonce), ("gasPrice", fields.gasPrice), ("gas", fields.gasLimit),
    ("value", .int 0), ("data", fields.payload), ("chainId", fields.chainId)]

/-- What follows the mark of a hexadecimal text. -/
def afterMark? : List Char → Option (List Char)
  | '0' :: 'x' :: rest => some rest
  | '0' :: 'X' :: rest => some rest
  | _ => none

/-- Whether a field may hold a value. The data may be bytes, text, an integer or a truth value; the numbers
are integers or texts marked as hexadecimal, and the chain id may be null. -/
def accepts (name : String) (value : Datum) : Bool :=
  match value with
  | .int _ => true
  | .text text => name == "data" || (afterMark? text.characters).isSome
  | .bool _ | .bytes _ => name == "data"
  | .null => name == "chainId"
  | _ => false

/-- The integer that a field holds. -/
def integer (name : String) (value : Datum) : Except Fault Int :=
  match value with
  | .int number => .ok number
  | .text text =>
      let digits := ((afterMark? text.characters).getD []).map Text.hexDigitValue?
      if digits.isEmpty || digits.contains none then reject (.unreadableField name value)
      else .ok (digits.foldl (fun number digit => number * 16 + digit.getD 0) 0 : Nat)
  | _ => .ok 0

/-- The bytes that the data holds. A number stands for its minimal bytes, zero for one byte, and a text for
its hexadecimal digits, to which a zero is put in front if they are odd in number. -/
def dataBytes (value : Datum) : Except Fault Bytes :=
  match value with
  | .bytes bytes => .ok bytes
  | .bool flag => .ok [if flag then 1 else 0]
  | .int number =>
      if number < 0 then reject (.unreadableField "data" value)
      else .ok (if number = 0 then [0] else Bytes.ofNumber number.toNat)
  | .text text =>
      let digits := (afterMark? text.characters).getD text.characters
      match Text.bytesOfHex? (if digits.length % 2 = 1 then '0' :: digits else digits) with
      | some bytes => .ok bytes
      | none => reject (.unreadableField "data" value)
  | _ => .ok []

/-- The number of a field that has to be zero or above. -/
def natural (name : String) (value : Int) : Except Fault Nat :=
  if value < 0 then reject (.negativeField name) else .ok value.toNat

/-- The checked numbers of a transaction. -/
def check (fields : TransactionFields) : Except Fault TransactionNumbers := do
  let refused := fields.named.filter fun (name, value) => !accepts name value
  if !refused.isEmpty then
    reject (.invalidFields refused)
  let payload ← dataBytes fields.payload
  let nonce ← integer "nonce" fields.nonce
  let gasPrice ← integer "gasPrice" fields.gasPrice
  let gasLimit ← integer "gas" fields.gasLimit
  let chainId ← integer "v" fields.chainId
  let nonce ← natural "nonce" nonce
  let gasPrice ← natural "gasPrice" gasPrice
  let gasLimit ← natural "gas" gasLimit
  let chainId ← natural "v" chainId
  return {
    nonce, gasPrice, gasLimit, payload
    chainId := if fields.chainId.isNull then none else some chainId }

end TransactionFields

namespace TransactionNumbers

/-- The encoded parts that every form of the transaction starts with. -/
def parts (numbers : TransactionNumbers) : List Bytes :=
  [Rlp.encodeNumber numbers.nonce, Rlp.encodeNumber numbers.gasPrice,
    Rlp.encodeNumber numbers.gasLimit, Rlp.encodeString [], Rlp.encodeNumber 0,
    Rlp.encodeString numbers.payload]

/-- The encoded parts of the form whose hash is signed. -/
def unsignedParts (numbers : TransactionNumbers) : List Bytes :=
  match numbers.chainId with
  | none => numbers.parts
  | some chainId => numbers.parts ++ [chainId, 0, 0].map Rlp.encodeNumber

/-- The mark that a signature carries for the parity of its point and the chain. -/
def mark (numbers : TransactionNumbers) (parity : Nat) : Nat :=
  match numbers.chainId with
  | none => 27 + parity
  | some chainId => 35 + 2 * chainId + parity

end TransactionNumbers

/-- A signed transaction: the bytes to be sent, their hash and the numbers of the signature. -/
structure SignedTransaction where
  raw : Bytes
  hash : Bytes
  v : Nat
  r : Nat
  s : Nat
deriving DecidableEq, Repr

/-- The bytes of a list of encoded parts. -/
def listBytes (parts : List Bytes) : Except Fault Bytes :=
  match Rlp.encodeList parts with
  | some bytes => .ok bytes
  | none => reject .encodingTooLong

/-- The transaction signed with a private key. -/
def TransactionNumbers.sign (numbers : TransactionNumbers) (privateKey : Nat) :
    Except Fault SignedTransaction := do
  let unsigned ← listBytes numbers.unsignedParts
  let signature := Crypto.Signature.sign privateKey (Crypto.Keccak.hash unsigned)
  let v := numbers.mark signature.parity
  let raw ← listBytes (numbers.parts ++ [v, signature.r, signature.s].map Rlp.encodeNumber)
  return { raw, hash := Crypto.Keccak.hash raw, v, r := signature.r, s := signature.s }

end WasmDeploy
