import WasmDeploy.Client
import WasmDeploy.Datum.Arithmetic
import WasmDeploy.TrackingResult

/-!
# Tracking a deployment

This file follows a submitted transaction until it is mined and confirmed, in two phases under one deadline.
First the receipt is polled for until there is one with a block number. Then, for a successful receipt and if
confirmations are asked for, the height of the chain is polled until it is that far above the block. A
reverted receipt ends tracking at once. Cancelling is looked at before each poll and the deadline after it.
Both loops end with the world's horizon at the latest.
-/

namespace WasmDeploy

/-- How deployments are tracked: the time until the deadline and the time between polls. -/
structure Tracker where
  timeout : Measure
  pollInterval : Measure
deriving Inhabited

namespace Tracker

/-- The duration that a value gives, if it is above zero; `failure` reports one that is not. -/
def readDuration (failure : Datum → Failure) (value : Datum) : Except Fault Measure :=
  match value.number? with
  | none => reject (.incomparable "<=" value.kindName "int")
  | some duration => if duration.isNonPositive then value.refuse (failure value) else .ok duration

/-- The tracker that two values give the durations of. -/
def ofSettings (timeout pollInterval : Datum) : Except Fault Tracker := do
  let timeout ← readDuration .timeoutNotPositive timeout
  let pollInterval ← readDuration .intervalNotPositive pollInterval
  return { timeout, pollInterval }

/-- Checks that a value is a count of confirmations: a number that is not below zero. -/
def checkConfirmations (value : Datum) : Except Fault Unit := do
  let order ← value.order "<" (.int 0)
  if order = some .lt then value.refuse (.confirmationsNegative value)

variable {σ : Type}

/-- Ends tracking if cancelling has been asked for. -/
def checkCancelled (pending : PendingDeployment) : Run σ Unit := do
  if (← get).isCancelled then
    throw (.of (.cancelled pending.txHash))

/-- What tracking ends with once its deadline has passed: a failure that shows the timeout and the block of the
receipt, if there is one, or the defect that keeps it from showing them. -/
def overdue (tracker : Tracker) (pending : PendingDeployment) (receipt : Option Receipt) : Fault :=
  if receipt.any fun receipt => !receipt.blockNumber.isShowable then
    .defect (.overdue .tooManyDigits)
  else if tracker.timeout.toFloat?.isNone then .defect (.overdue .beyondFloat)
  else .of (.timedOut pending.txHash tracker.timeout receipt)

/-- Sleeps until the next poll, or until the deadline if that comes first. Once the deadline has passed,
tracking times out. -/
def pause (tracker : Tracker) (pending : PendingDeployment) (deadline : Measure)
    (receipt : Option Receipt) : Run σ Unit := do
  let remaining := deadline.sub (← get).now
  if remaining.isNonPositive then
    Run.enter .timedOut
    throw (tracker.overdue pending receipt)
  else
    Run.sleep (tracker.pollInterval.shorter remaining)

/-- A receipt that has a block number. -/
def mined? (receipt : Option Receipt) : Option Receipt :=
  receipt.filter fun receipt => !receipt.blockNumber.isNull

/-- One poll: unless cancelled, makes a request and judges what came back. As long as that does not decide, it
waits for the next poll. -/
def poll {α β : Type} (tracker : Tracker) (client : Client σ) (pending : PendingDeployment)
    (deadline : Measure) (known : Option Receipt) (request : Request)
    (judge : request.Reply → Run σ (α ⊕ β)) : Run σ (α ⊕ β) := do
  checkCancelled pending
  let reply ← client.ask request
  match ← judge reply with
  | .inl next =>
      tracker.pause pending deadline known
      return .inl next
  | .inr value => return .inr value

/-- Takes a receipt that has a block number. -/
def judgeReceipt (pending : PendingDeployment) (receipt : Option Receipt) :
    Run σ (Unit ⊕ Receipt) := do
  match mined? receipt with
  | some receipt => return .inr receipt
  | none =>
      Run.log .debug .tracking (.ok s!"No receipt yet for {pending.txHash.plain}")
      return .inl ()

/-- Polls for a receipt with a block number, as often as given. -/
def awaitReceipt (tracker : Tracker) (client : Client σ) (pending : PendingDeployment)
    (deadline : Measure) (polls : Nat) : Run σ Receipt :=
  Run.repeatUntil
    (fun _ => tracker.poll client pending deadline none (.transactionReceipt pending.txHash)
      (judgeReceipt pending))
    polls ()

/-- The line about the depth that has been seen. -/
def depthLine (pending : PendingDeployment) (depth confirmations : Datum) : Message := do
  let seen ← depth.wholeText
  let wanted ← confirmations.wholeText
  return s!"Confirmations for {pending.txHash.plain}: {seen}/{wanted}"

/-- What a height says: the depth of the highest height seen, and whether that is enough or which height it is
to be compared with from then on. -/
def assess (receipt : Receipt) (confirmations highest height : Datum) :
    Except Fault (Datum × (Datum ⊕ Datum)) := do
  let highest ← highest.larger height
  let depth ← highest.excess receipt.blockNumber
  return (depth, if depth.isAtLeast confirmations then .inr depth else .inl highest)

/-- Takes the depth of the highest height seen, if it is enough. -/
def judgeHeight (pending : PendingDeployment) (receipt : Receipt)
    (confirmations highest height : Datum) : Run σ (Datum ⊕ Datum) := do
  let (depth, verdict) ← (assess receipt confirmations highest height : Except Fault _)
  Run.log .debug .tracking (depthLine pending depth confirmations)
  return verdict

/-- Polls for the height of the chain, as often as given, until it is far enough above the block of a
receipt. The depth counts from the highest height seen. -/
def awaitDepth (tracker : Tracker) (client : Client σ) (pending : PendingDeployment)
    (receipt : Receipt) (confirmations : Datum) (deadline : Measure) (polls : Nat)
    (highest : Datum) : Run σ Datum :=
  Run.repeatUntil
    (fun highest => tracker.poll client pending deadline (some receipt) .blockNumber
      (judgeHeight pending receipt confirmations highest))
    polls highest

/-- Whether a reverted transaction used up its gas. -/
def usedUpGas (pending : PendingDeployment) (receipt : Receipt) : Except Fault Bool := do
  if receipt.gasUsed.isNull then return false
  let order ← receipt.gasUsed.order ">=" pending.gasLimit
  return order = some .gt || order = some .eq

/-- The line about a reverted transaction. -/
def revertLine (pending : PendingDeployment) (receipt : Receipt) : Message := do
  let used ← receipt.gasUsed.plainText
  let limit ← pending.gasLimit.wholeText
  return s!"Transaction {pending.txHash.plain} reverted (gas used {used} of {limit})"

/-- Warns of a reverted transaction, and of its gas if that was used up. -/
def warnOfRevert (pending : PendingDeployment) (receipt : Receipt) (gasLimitReached : Bool) :
    Run σ Unit := do
  Run.log .warning .tracking (revertLine pending receipt)
  if gasLimitReached then
    Run.log .warning .tracking (.ok "Gas limit reached, likely cause of the revert")

/-- Ends tracking with a receipt that is not successful. -/
def conclude (pending : PendingDeployment) (receipt : Receipt) : Run σ TrackingResult := do
  Run.enter .reverted
  let gasLimitReached ← (usedUpGas pending receipt : Except Fault _)
  warnOfRevert pending receipt gasLimitReached
  return {
    state := .reverted
    receipt
    gasLimit := pending.gasLimit
    confirmations := .int 0
    gasLimitReached }

/-- The line about the confirmations that are waited for. -/
def confirmationsLine (confirmations : Datum) : Message := do
  let wanted ← confirmations.wholeText
  return s!"Waiting for {wanted} confirmations..."

/-- Waits until a successful receipt has the confirmations asked for, and gives the depth seen. The chain
is not asked if no confirmations are. -/
def awaitConfirmations (tracker : Tracker) (client : Client σ) (pending : PendingDeployment)
    (receipt : Receipt) (confirmations : Datum) (deadline : Measure) : Run σ Datum := do
  if confirmations.isPositive then
    Run.log .info .tracking (confirmationsLine confirmations)
    let depth ← awaitDepth tracker client pending receipt confirmations deadline
      (← get).horizon receipt.blockNumber
    Run.enter .finalized
    return depth
  else
    return .int 0

/-- Ends tracking with a successful receipt, once it has the confirmations asked for. -/
def confirm (tracker : Tracker) (client : Client σ) (pending : PendingDeployment)
    (receipt : Receipt) (confirmations : Datum) (deadline : Measure) :
    Run σ TrackingResult := do
  let depth ← awaitConfirmations tracker client pending receipt confirmations deadline
  Run.enter .success
  return {
    state := .success
    receipt
    gasLimit := pending.gasLimit
    confirmations := depth
    gasLimitReached := false }

/-- The line about the block that a transaction is in. -/
def inclusionLine (receipt : Receipt) : Message := do
  let block ← receipt.blockNumber.wholeText
  return s!"Transaction included in block {block}"

/-- Follows a transaction that has a receipt with a block number until it is confirmed or reverted. -/
def included (tracker : Tracker) (client : Client σ) (pending : PendingDeployment)
    (receipt : Receipt) (confirmations : Datum) (deadline : Measure) :
    Run σ TrackingResult := do
  Run.enter .included
  Run.log .info .tracking (inclusionLine receipt)
  if receipt.succeeded then
    tracker.confirm client pending receipt confirmations deadline
  else
    conclude pending receipt

/-- Follows a submitted transaction until it is confirmed or reverted. -/
def track (tracker : Tracker) (client : Client σ) (pending : PendingDeployment)
    (confirmations : Datum) : Run σ TrackingResult := do
  (checkConfirmations confirmations : Except Fault _)
  Run.enter .submitted
  let deadline ← Run.timeAfter tracker.timeout
  Run.log .info .tracking (.ok s!"Waiting for transaction {pending.txHash.plain} to be mined...")
  let receipt ← awaitReceipt tracker client pending deadline (← get).horizon
  tracker.included client pending receipt confirmations deadline

end Tracker

end WasmDeploy
