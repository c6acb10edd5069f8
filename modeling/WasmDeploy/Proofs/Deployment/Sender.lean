import WasmDeploy.Proofs.Crypto.Recovery
import WasmDeploy.Proofs.Deployment.Sent

/-!
# The sender of a transaction

This file shows that whoever reads a signed transaction finds out the account that has signed it. The hash that was
signed is the one of the fields with the chain id and two zeros; the mark that is sent holds the parity beside the
chain id; and from the two the public point is recovered that the address of the signer belongs to.
-/

namespace WasmDeploy

open Crypto.Secp256k1

/-- A signed transaction identifies an account: its bytes are the given fields with a mark and the numbers of a
signature, and the parity that the mark holds beside the chain recovers the public point whose address is that of
the account. -/
structure SignedTransaction.Identifies (signed : SignedTransaction) (address : String)
    (nonce gasPrice gasLimit : Nat) (payload : Bytes) (chain : Nat) (unsigned : Bytes) (v : Nat)
    (signature : Crypto.Signature) : Prop where
  unsignedDecodes : Rlp.decodeList? unsigned =
    some (creationItems nonce gasPrice gasLimit payload [chain, 0, 0])
  decodes : Rlp.decodeList? signed.raw =
    some (creationItems nonce gasPrice gasLimit payload [v, signature.r, signature.s])
  isMark : v = 35 + 2 * chain + signature.parity
  isParity : signature.parity = 0 ∨ signature.parity = 1
  isLow : 2 * signature.s < order
  recovers : 0 < signature.r → signature.r < order →
    ∃ point, signature.recover? (Crypto.Keccak.hash unsigned) = some point ∧
      checksummed (addressBytes point) = address
  isHash : signed.hash = Crypto.Keccak.hash signed.raw

theorem TransactionNumbers.hash_eq_of_sign {numbers : TransactionNumbers} {key : Nat}
    {signed : SignedTransaction} (isSigned : numbers.sign key = .ok signed) :
    signed.hash = Crypto.Keccak.hash signed.raw := by
  rcases bind_eq_ok isSigned with ⟨unsigned, _, isSigned⟩
  rcases bind_eq_ok isSigned with ⟨raw, _, isSigned⟩
  cases isSigned
  rfl

/-- A contract creation identifies the account of the key that has signed it. -/
theorem Creation.identifies {nonce gasPrice gasLimit : Nat} {payload : Bytes} {chain key : Nat}
    {unsigned : Bytes} {signature : Crypto.Signature} {v : Nat} {signed : SignedTransaction}
    (creation : Creation nonce gasPrice gasLimit payload chain key unsigned signature v signed.raw)
    (isHash : signed.hash = Crypto.Keccak.hash signed.raw) :
    signed.Identifies (addressOfKey key) nonce gasPrice gasLimit payload chain unsigned v signature where
  unsignedDecodes := creation.unsignedDecodes
  decodes := creation.decodes
  isMark := by rw [creation.parity, Nat.add_comm 35]
  isParity := by
    rw [creation.isSignature]
    exact Crypto.Signature.parity_sign _ _
  isLow := by
    rw [creation.isSignature]
    exact Crypto.Signature.two_mul_s_sign_lt _ _
  recovers positive below := by
    rw [creation.isSignature] at positive below ⊢
    exact ⟨Crypto.publicPoint key, Crypto.Signature.recover?_sign positive below, rfl⟩
  isHash := isHash

namespace Signer

/-- What a signer signs for a chain identifies the account of the signer, and it signs everything ordinary for its own
chain. -/
theorem sign_identifies (signer : Signer) (nonce gasPrice gasLimit chain : Nat) (payload : Bytes) :
    (∀ signed, signer.sign
        ⟨.int nonce, .int gasPrice, .int gasLimit, .bytes payload, .int chain⟩ = .ok signed →
      ∃ unsigned v signature,
        signed.Identifies signer.address nonce gasPrice gasLimit payload chain unsigned v signature) ∧
    (signer.chainId = .int chain →
      (⟨nonce, gasPrice, gasLimit, payload, some chain⟩ : TransactionNumbers).IsOrdinary →
      ∃ signed, signer.sign
        ⟨.int nonce, .int gasPrice, .int gasLimit, .bytes payload, .int chain⟩ = .ok signed) := by
  constructor
  · intro signed isSigned
    rcases creates_of_sign isSigned with ⟨_, sameChain, unsigned, signature, v, creation⟩
    obtain rfl := Int.ofNat_inj.mp sameChain
    rcases sign_eq_ok isSigned with ⟨numbers, _, numbersSigned⟩
    have isHash := TransactionNumbers.hash_eq_of_sign numbersSigned
    exact ⟨unsigned, v, signature, creation.identifies isHash⟩
  · intro isFor ordinary
    have isSigned := signer.exists_signed ordinary rfl isFor
    exact isSigned

theorem sign_identifies_module :
    ∃ signed unsigned v signature,
      sign ⟨1, .int 20993⟩ ⟨.int 0, .int 7, .int 30000000, .bytes Artifact.magic, .int 20993⟩ = .ok signed ∧
        signed.Identifies (addressOfKey 1) 0 7 30000000 Artifact.magic 20993 unsigned v signature := by
  rcases sign_identifies ⟨1, .int 20993⟩ 0 7 30000000 20993 Artifact.magic with ⟨identifies, isSure⟩
  have ordinary : (⟨0, 7, 30000000, Artifact.magic, some 20993⟩ : TransactionNumbers).IsOrdinary := by
    refine ⟨by decide, by decide, by decide, by decide, ?_⟩
    rintro _ ⟨⟩
    decide
  rcases isSure rfl ordinary with ⟨signed, isSigned⟩
  rcases identifies signed isSigned with ⟨unsigned, v, signature, identified⟩
  exact ⟨signed, unsigned, v, signature, isSigned, identified⟩

end Signer

end WasmDeploy
