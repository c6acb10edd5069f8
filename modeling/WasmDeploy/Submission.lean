import WasmDeploy.Client
import WasmDeploy.Datum.Arithmetic
import WasmDeploy.Signer
import WasmDeploy.TrackingResult

/-!
# Submitting a transaction

This file signs a transaction and hands it to an endpoint. A transaction is sent once at most, whatever the
endpoint answers. The hash that counts from then on is the endpoint's; one that differs from the hash of what
was sent is only warned about.
-/

namespace WasmDeploy

variable {σ : Type}

/-- The fault that the endpoint's refusal of a transaction stands for; any other fault stays as it is. -/
def refusal : Fault → Fault
  | .failure (.rpc error) _ => .of (.rejected error.message)
  | fault => fault

/-- Whether the hash that an endpoint gives is the expected one up to the case of ASCII letters; no other
letter can stand in a hash. Bytes are never the expected text, and values without letters are refused. -/
def confirms (hash : Datum) (expected : String) : Except Fault Bool :=
  match hash with
  | .text text => .ok (text.shown.toLower == expected.toLower)
  | .bytes _ => .ok false
  | other => reject (.lacksOperation other.kindName "lower")

/-- Warns of a hash that is not the expected one. -/
def warnOfHash (hash : Datum) (expected : String) (isExpected : Bool) : Run σ Unit :=
  if isExpected then
    pure ()
  else
    Run.log .warning .submission
      (.ok s!"Endpoint returned hash {hash.plain}, locally computed {expected}")

/-- Sends a signed transaction, and gives the hash that the endpoint knows it by. -/
def send (client : Client σ) (raw : Bytes) : Run σ Datum :=
  tryCatch (client.ask (.sendRawTransaction raw)) fun fault => throw (refusal fault)

/-- The line about a transaction that is about to be sent. -/
def sendingLine (address : String) (nonce : Datum) : Message := do
  let shown ← nonce.wholeText
  return s!"Sending transaction from {address} (nonce {shown})..."

/-- Signs a transaction and hands it to the endpoint. -/
def submit (client : Client σ) (signer : Signer) (transaction : DeploymentTransaction) :
    Run σ PendingDeployment := do
  let nonce ← client.ask (.transactionCount (.text signer.address))
  let signed ← (signer.sign (transaction.fields nonce) : Except Fault _)
  let expected := Text.hexData signed.hash
  Run.log .info .submission (sendingLine signer.address nonce)
  let hash ← send client signed.raw
  let isExpected ← (confirms hash expected : Except Fault _)
  warnOfHash hash expected isExpected
  Run.log .info .submission (.ok s!"Transaction submitted: {hash.plain}")
  return { txHash := hash, gasLimit := transaction.gasLimit }

end WasmDeploy
