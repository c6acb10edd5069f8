import WasmDeploy.Receipt

/-!
# Requests to an endpoint

This file gives what a deployment asks of an endpoint, each request with the kind of its reply.
-/

namespace WasmDeploy

/-- What a deployment asks of an endpoint. -/
inductive Request where
  | gasPrice
  | transactionCount (address : Datum)
  | sendRawTransaction (raw : Bytes)
  | transactionReceipt (hash : Datum)
  | blockNumber
deriving Inhabited

/-- The kind of the reply to a request. Numbers and hashes are taken as they come and checked where they are
used; a transaction without a receipt is pending. -/
abbrev Request.Reply : Request → Type
  | .transactionReceipt _ => Option Receipt
  | _ => Datum

end WasmDeploy
