import WasmDeploy.Proofs.Congruence
import WasmDeploy.Proofs.Exact
import WasmDeploy.Proofs.Tracker.States

/-!
# What a result of tracking tells

This file shows what the result of tracking says of the receipt that it is on: whether the deployment was executed,
how deep it is, and whether it has used up its gas. The receipt is the one that came back, unchanged, for the first
request that brought a block number. Nothing else is asked of it, so it is about the tracked transaction just as far
as the endpoint answers for what it is asked.
-/

namespace WasmDeploy

open Run

variable {σ α β : Type}

/-- A receipt tells of a reverted deployment that is known to have used up a limit on its gas. -/
def Receipt.RanOut (receipt : Receipt) (gasLimit : Datum) : Prop :=
  receipt.succeeded = false ∧ receipt.gasUsed.isNull = false ∧
    receipt.gasUsed.isAtLeast gasLimit = true

/-- A result of tracking says what its receipt tells, for a gas limit, and the depth that was waited for. -/
structure TrackingResult.Documents (gasLimit confirmations : Datum) (result : TrackingResult) :
    Prop where
  limit : result.gasLimit = gasLimit
  state : result.state = if result.receipt.succeeded then .success else .reverted
  unconfirmed : result.receipt.succeeded = false ∨ confirmations.isPositive = false →
    result.confirmations = .int 0
  confirmed : result.receipt.succeeded = true → confirmations.isPositive = true →
    result.confirmations.isAtLeast confirmations = true
  hinted : gasLimit.number?.isSome = true →
    (result.gasLimitReached = true ↔ result.receipt.RanOut gasLimit)

/-- Values compare with a number as numbers. -/
theorem Datum.order_of_number {operator : String} {left right : Datum} {order : Option Ordering}
    (isNumber : right.number?.isSome = true) (compared : left.order operator right = .ok order) :
    order = left.compare? right := by
  cases left <;> cases right <;> simp_all [Datum.order, number?, integer?, reject, compare?]

namespace Run

/-- Repeating a step ensures what each step ensures of the value that it ends with. -/
theorem ensures_repeatUntil {step : α → Run σ (α ⊕ β)} {ensured : β → Prop}
    (ensures : ∀ start, (step start).Ensures fun next => ∀ value, next = .inr value → ensured value)
    (times : Nat) (start : α) : (repeatUntil step times start).Ensures ensured := by
  induction times generalizing start with
  | zero => nofun
  | succ times ih =>
      intro world value ends
      rw [repeatUntil, outcome_bind] at ends
      rcases ending : (step start).outcome world with ⟨_ | next | found, middle⟩
      · rw [ending] at ends
        cases ends
      · rw [ending] at ends
        exact ih next middle value ends
      · rw [ending] at ends
        cases ends
        exact ensures start world (.inr value) (by rw [ending]) value rfl

end Run

namespace Tracker

/-! ## The depth -/

/-- A height that decides is far enough above the block. -/
theorem isAtLeast_of_heightVerdict {receipt : Receipt} {confirmations highest height depth : Datum}
    (decided : heightVerdict receipt confirmations highest height = .ok (.inr depth)) :
    depth.isAtLeast confirmations = true := by
  rcases map_eq_ok decided with ⟨⟨_, verdict⟩, assessed, rfl⟩
  rcases bind_eq_ok assessed with ⟨higher, _, assessed⟩
  rcases bind_eq_ok assessed with ⟨seen, _, assessed⟩
  have verdict := congrArg Prod.snd (Except.ok.inj assessed)
  dsimp only at verdict
  split at verdict
  · next isEnough =>
    obtain rfl : seen = depth := Sum.inr.inj verdict
    exact isEnough
  · cases verdict

theorem awaitDepth_ensures (tracker : Tracker) (client : Client σ) (pending : PendingDeployment)
    (receipt : Receipt) (confirmations : Datum) (deadline : Measure) (polls : Nat)
    (highest : Datum) :
    (tracker.awaitDepth client pending receipt confirmations deadline polls highest).Ensures
      fun depth => depth.isAtLeast confirmations = true := by
  apply ensures_repeatUntil
  rintro highest world _ ends depth rfl
  have yields : (tracker.poll client pending deadline (some receipt) .blockNumber
      (judgeHeight pending receipt confirmations highest)).Yields world _ :=
    tracker.poll_yields client pending deadline (some receipt)
      (judges_judgeHeight pending receipt confirmations highest) world
  rcases yields with ⟨_, _, polled⟩
  rw [ends] at polled
  cases polled with
  | judged going ask noted settled =>
      cases settled with
      | decided judged => exact isAtLeast_of_heightVerdict judged

/-! ## The gas -/

/-- The gas is used up if the gas used is known and no less than the limit. -/
theorem usedUpGas_eq_ok {pending : PendingDeployment} {receipt : Receipt} {reached : Bool}
    (isNumber : pending.gasLimit.number?.isSome = true)
    (used : usedUpGas pending receipt = .ok reached) :
    reached = true ↔ receipt.gasUsed.isNull = false ∧
      receipt.gasUsed.isAtLeast pending.gasLimit = true := by
  simp only [usedUpGas] at used
  split at used
  · next isNull =>
    cases used
    simp [isNull]
  · next notNull =>
    rcases bind_eq_ok used with ⟨order, compared, judged⟩
    rw [Datum.order_of_number isNumber compared] at judged
    rw [← Except.ok.inj judged, Datum.isAtLeast]
    simp [notNull]

/-! ## The result -/

/-- What ends tracking after the first receipt with a block number documents that receipt. -/
theorem Concluded.documents {pending : PendingDeployment} {confirmations : Datum} {receipt : Receipt}
    {depthPhase : World σ → List Entry → Except Fault Datum → World σ → Prop}
    (deep : ∀ seen polled depth final, depthPhase seen polled (.ok depth) final →
      depth.isAtLeast confirmations = true)
    {world final : World σ} {added : List Entry} {value : TrackingResult}
    (concluded : Concluded pending confirmations receipt depthPhase world added (.ok value) final) :
    value.receipt = receipt ∧ value.Documents pending.gasLimit confirmations := by
  cases concluded with
  | reverted isReverted noted told warned =>
      exact ⟨rfl, {
        limit := rfl
        state := by simp [isReverted]
        unconfirmed := fun _ => rfl
        confirmed := by simp [isReverted]
        hinted := by
          intro isNumber
          rw [usedUpGas_eq_ok isNumber told]
          simp [Receipt.RanOut, isReverted] }⟩
  | confirmedAtOnce isSuccess unwanted noted =>
      exact ⟨rfl, {
        limit := rfl
        state := by simp [isSuccess]
        unconfirmed := fun _ => rfl
        confirmed := by simp [unwanted]
        hinted := by simp [Receipt.RanOut, isSuccess] }⟩
  | confirmed isSuccess wanted noted phase =>
      exact ⟨rfl, {
        limit := rfl
        state := by simp [isSuccess]
        unconfirmed := by simp [isSuccess, wanted]
        confirmed := fun _ _ => deep _ _ _ _ phase
        hinted := by simp [Receipt.RanOut, isSuccess] }⟩

/-- The first receipt with a block number is the reply to a request for a receipt. -/
theorem exists_exchange_of_firstMined {exchanges : List Exchange} {receipt : Receipt}
    (isFirst : firstMined exchanges = some receipt) :
    ∃ front back hash, exchanges = front ++ ⟨.transactionReceipt hash, .ok (some receipt)⟩ :: back ∧
      firstMined front = none ∧ receipt.blockNumber.isNull = false := by
  rcases List.findSome?_eq_some_iff.mp isFirst with ⟨front, ⟨request, outcome⟩, back, rfl, brings, none⟩
  simp only [Exchange.mined?] at brings
  split at brings
  · next hash reply isReply =>
    cases isReply
    rcases Option.filter_eq_some_iff.mp brings with ⟨rfl, isMined⟩
    exact ⟨front, back, hash, rfl, List.findSome?_eq_none_iff.mpr none, by simpa using isMined⟩
  · cases brings

/-- What follows the first receipt with a block number does not matter to which one that is. -/
theorem firstMined_eq_some {front back : List Exchange} {hash : Datum} {receipt : Receipt}
    (unmined : firstMined front = none) (isMined : receipt.blockNumber.isNull = false) :
    firstMined (front ++ ⟨.transactionReceipt hash, .ok (some receipt)⟩ :: back) = some receipt := by
  have brings : Exchange.mined? ⟨.transactionReceipt hash, .ok (some receipt)⟩ = some receipt := by
    simp [Exchange.mined?, mined?, isMined]
  rw [firstMined_append, unmined, Option.none_or, firstMined, List.findSome?_cons, brings]

/-- A result of tracking is on the first receipt with a block number that was brought, and all receipts were asked for
by the hash that is tracked. -/
theorem track_concludes (tracker : Tracker) (client : Client σ) (pending : PendingDeployment)
    (confirmations : Datum) (world : World σ) :
    (tracker.track client pending confirmations).Yields world fun added result _ =>
      ∀ value, result = .ok value → value.Documents pending.gasLimit confirmations ∧
        ∃ front back, exchangesOf added =
            front ++ ⟨.transactionReceipt pending.txHash, .ok (some value.receipt)⟩ :: back ∧
          firstMined front = none ∧ value.receipt.blockNumber.isNull = false := by
  apply (tracker.track_yields client pending confirmations world
    (fun deadline begun =>
      (tracker.awaitReceipt_phase client pending deadline begun.horizon begun).and
        (tracker.awaitReceipt_firstMined client pending deadline begun.horizon begun))
    fun deadline receipt seen =>
      (tracker.awaitDepth_phase client pending receipt confirmations deadline seen.horizon
        receipt.blockNumber seen).and_ensures
        (tracker.awaitDepth_ensures client pending receipt confirmations deadline seen.horizon
          receipt.blockNumber)).mono
  rintro added _ final tracked value rfl
  cases tracked with
  | @mined _ _ _ rest _ _ _ _ _ valid due noted phase concluded =>
      rcases concluded.documents fun _ _ _ _ ends => ends.2 _ rfl with ⟨rfl, documents⟩
      rcases exists_exchange_of_firstMined phase.2 with ⟨front, back, hash, polled, unmined, isMined⟩
      have asked : Request.transactionReceipt hash = .transactionReceipt pending.txHash :=
        phase.1.polling.exchanges ⟨.transactionReceipt hash, .ok (some value.receipt)⟩
          (by simp [polled])
      cases asked
      refine ⟨documents, front, back ++ exchangesOf rest, ?_, unmined, isMined⟩
      simp [noted.silent.exchanges, polled]

end Tracker

/-! ## Which transaction a receipt is about -/

/-- Two hashes are the same up to the case of ASCII letters. -/
def Datum.SameHash (left right : Datum) : Prop :=
  left = right ∨ ∃ first second : Text, left = .text first ∧ right = .text second ∧
    first.shown.toLower = second.shown.toLower

theorem Datum.SameHash.toLower_eq {left right : Datum} (same : left.SameHash right) :
    left.plain.toLower = right.plain.toLower := by
  rcases same with rfl | ⟨first, second, rfl, rfl, lowered⟩
  · rfl
  · exact lowered

/-- An endpoint answers for what it is asked: each receipt with a block number that it gives is about the transaction
that it was asked for. -/
def AnswersForAsked (exchanges : List Exchange) : Prop :=
  ∀ hash receipt, ⟨.transactionReceipt hash, .ok (some receipt)⟩ ∈ exchanges →
    receipt.blockNumber.isNull = false → receipt.txHash.SameHash hash

/-- A receipt is taken as it came back for a hash: the first one with a block number, and about the transaction with
that hash if the endpoint answers for what it is asked. -/
structure TakesReceipt (hash : Datum) (exchanges : List Exchange) (receipt : Receipt) : Prop where
  first : ∃ front back, exchanges =
      front ++ ⟨.transactionReceipt hash, .ok (some receipt)⟩ :: back ∧
    firstMined front = none ∧ receipt.blockNumber.isNull = false
  own : AnswersForAsked exchanges → receipt.txHash.SameHash hash

namespace Tracker

/-- A result of tracking is on a receipt that came back for the tracked hash, and that is about the tracked transaction
if the endpoint answers for what it is asked. -/
theorem track_takesReceipt (tracker : Tracker) (client : Client σ) (pending : PendingDeployment)
    (confirmations : Datum) (world : World σ) :
    (tracker.track client pending confirmations).Yields world fun added result _ =>
      ∀ value, result = .ok value →
        TakesReceipt pending.txHash (exchangesOf added) value.receipt := by
  apply (tracker.track_concludes client pending confirmations world).mono
  intro added result final concludes value ends
  rcases concludes value ends with ⟨_, front, back, exchanged, unmined, isMined⟩
  have brought : ⟨.transactionReceipt pending.txHash, .ok (some value.receipt)⟩ ∈ exchangesOf added := by
    simp [exchanged]
  exact {
    first := ⟨front, back, exchanged, unmined, isMined⟩
    own := fun answers => answers _ _ brought isMined }

/-- An endpoint that has a receipt of another transaction for every hash. -/
def foreignAnswer : (request : Request) → Unit → Except Fault request.Reply × Unit
  | .transactionReceipt _, state =>
      (.ok (some ⟨.text "0xbb", .success, .null, .int 21000, .null, .int 5, .int 0⟩), state)
  | .gasPrice, state | .transactionCount _, state | .sendRawTransaction _, state
  | .blockNumber, state => (.error .unfinished, state)

/-- The receipt of another transaction can be taken for that of the tracked one. -/
theorem exists_foreignReceipt :
    ∃ value, ((standard.track (.direct foreignAnswer) ⟨.text "0xaa", .int 30000000⟩ (.int 0)).outcome
        (World.steady 0 1)).1 = .ok value ∧
      ¬value.receipt.txHash.SameHash (.text "0xaa") := by
  have taken : ((standard.track (.direct foreignAnswer) ⟨.text "0xaa", .int 30000000⟩ (.int 0)).outcome
      (World.steady 0 1)).1.toOption.map (fun value => value.receipt.txHash.plain) = some "0xbb" := by
    decide +kernel
  generalize Run.outcome _ _ = ends at taken ⊢
  rcases ends with ⟨fault | value, final⟩
  · cases taken
  have plain : value.receipt.txHash.plain = "0xbb" := Option.some.inj taken
  refine ⟨value, rfl, fun same => ?_⟩
  have lowered := same.toLower_eq
  rw [plain] at lowered
  exact absurd lowered (by decide +kernel)

end Tracker

end WasmDeploy
