import WasmDeploy.Client
import WasmDeploy.Datum.Arithmetic
import WasmDeploy.Transaction

/-!
# Building a deployment transaction

This file puts a deployment transaction together. The gas limit and the gas price are checked to be unsigned
64-bit integers, and the limit to be above zero. A gas price of zero asks the endpoint for its own, which is
taken as it comes.
-/

namespace WasmDeploy

/-- The integer that a value gives for a gas parameter. -/
def GasParameter.read (parameter : GasParameter) : Datum → Except Fault Int
  | .int value =>
      if 0 ≤ value ∧ value ≤ maxUInt64 then .ok value
      else Datum.refuse (.int value) (.gasOutOfRange parameter value)
  | other => other.refuse (.gasNotInteger parameter other)

/-- The gas limit and the gas price that two values give. -/
def readGas (gasLimit gasPrice : Datum) : Except Fault (Int × Int) := do
  let limit ← GasParameter.limit.read gasLimit
  let price ← GasParameter.price.read gasPrice
  if limit = 0 then
    fail .gasLimitZero
  return (limit, price)

/-- The line about the gas price of an endpoint. -/
def priceLine (network : Network) (price : Datum) : Message := do
  let shown ← price.wholeText
  return s!"Gas price: {shown} wei (from {network.name})"

variable {σ : Type}

/-- The gas price to be paid: the one asked for, or the endpoint's own if that is zero. -/
def settleGasPrice (client : Client σ) (network : Network) (price : Int) : Run σ Datum := do
  if price = 0 then
    Run.log .info .builder (.ok "Estimating gas price...")
    let price ← client.ask .gasPrice
    Run.log .info .builder (priceLine network price)
    return price
  else
    Run.log .info .builder (.ok s!"Gas price: {price} wei")
    return .int price

/-- The transaction that deploys an artifact to a network. -/
def buildTransaction (client : Client σ) (artifact : Bytes) (network : Network)
    (gasLimit gasPrice : Datum) : Run σ DeploymentTransaction := do
  let (limit, price) ← (readGas gasLimit gasPrice : Except Fault _)
  let price ← settleGasPrice client network price
  return {
    chainId := .int network.chainId
    payload := .bytes artifact
    gasLimit := .int limit
    gasPrice := price }

end WasmDeploy
