import WasmDeploy.Quantity

/-!
# Reading receipts

This file reads a receipt from the object that an endpoint answers. The hash and the contract address are
taken as they are, whatever their kind; a receipt without a status is refused.
-/

namespace WasmDeploy

namespace Receipt

/-- The status that a status code stands for: one is success, every other code is not. -/
def statusOfCode (code : Int) : ReceiptStatus :=
  if code = 1 then .success else .reverted

/-- How many events a list of logs records; no logs and empty logs record none. -/
def countEvents : Datum → Except Fault Int
  | .text value => .ok value.length
  | .bytes value => .ok value.length
  | .list items => .ok items.length
  | .object members => .ok members.length
  | value => if value.isTruthy then reject (.unsized value.kindName) else .ok 0

/-- The receipt that an answer holds. -/
def decode (answer : Datum) : Except Fault Receipt := do
  match answer with
  | .object members =>
      let member (key : Text) := (Datum.member? members key).getD .null
      let some hash := Datum.member? members "transactionHash"
        | fail .receiptWithoutHash
      if (member "status").isNull then
        fail (.receiptWithoutStatus hash)
      let code ← Quantity.decode "status" (member "status")
      let gasUsed ← Quantity.decodeOptional "gasUsed" (member "gasUsed")
      let effectiveGasPrice ←
        Quantity.decodeOptional "effectiveGasPrice" (member "effectiveGasPrice")
      let blockNumber ← Quantity.decodeOptional "blockNumber" (member "blockNumber")
      let eventCount ← countEvents (member "logs")
      return {
        txHash := hash
        status := statusOfCode code
        contractAddress := member "contractAddress"
        gasUsed
        effectiveGasPrice
        blockNumber
        eventCount := .int eventCount }
  | other => fail (.receiptNotObject other.kindName)

end Receipt

end WasmDeploy
