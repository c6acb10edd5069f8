import WasmDeploy.Proofs.Tracker.Outcome
import WasmDeploy.Proofs.Tracker.Turns

/-!
# The receipt that tracking decides on

The first phase of tracking polls past every answer without a block number, whether it tells of a revert or not, and
sleeps once for each. It decides on the first receipt with a block number and asks for none after it. A receipt of a
reverted transaction ends tracking at once, and so does a successful one if no confirmations are wanted.
-/

namespace WasmDeploy

open Run Tracker

variable {σ : Type}

/-- An answer to a request for the receipt of a transaction that does not decide: there is no receipt yet, or one
without a block number. -/
inductive Exchange.IsUndecided (hash : Datum) : Exchange → Prop where
  | pending : IsUndecided hash ⟨.transactionReceipt hash, .ok none⟩
  | unplaced {receipt : Receipt} (isNull : receipt.blockNumber.isNull = true) :
      IsUndecided hash ⟨.transactionReceipt hash, .ok (some receipt)⟩

theorem Exchange.isUndecided_of_mined? {hash : Datum} {reply : Option Receipt}
    (unmined : Tracker.mined? reply = none) :
    IsUndecided hash ⟨.transactionReceipt hash, .ok reply⟩ := by
  cases reply with
  | none => exact .pending
  | some receipt =>
      apply IsUndecided.unplaced
      simpa [Tracker.mined?] using unmined

namespace Tracker

/-- A receipt is taken: it has a block number and was answered last, and before it come only answers that do not
decide, each followed by a sleep. -/
structure Takes (hash : Datum) (receipt : Receipt) (exchanges : List Exchange) (sleeps : Nat) : Prop where
  mined : receipt.blockNumber.isNull = false
  asked : ∃ undecided, exchanges = undecided ++ [⟨.transactionReceipt hash, .ok (some receipt)⟩] ∧
    (∀ exchange ∈ undecided, exchange.IsUndecided hash) ∧ sleeps = undecided.length

/-- What tracking does with the receipt that it has taken. It asks for no receipt again, and for nothing and without
any delay if the transaction was reverted or no confirmations are wanted. Then it ends with the result that the
receipt tells of, unless that is a revert that cannot be told. -/
structure Decides (pending : PendingDeployment) (confirmations : Datum) (receipt : Receipt)
    (after : List Entry) (result : Except Fault TrackingResult) : Prop where
  requests : ∀ request ∈ requestsOf after, request = .blockNumber
  atOnce : receipt.succeeded = false ∨ confirmations.isPositive = false →
    requestsOf after = [] ∧ sleepsOf after = []
  reverted : receipt.succeeded = false → HasIntegerGas pending receipt →
    ∃ reached, result = .ok ⟨.reverted, receipt, pending.gasLimit, .int 0, reached⟩ ∧
      (reached = true ↔ receipt.RanOut pending.gasLimit)
  confirmed : receipt.succeeded = true → confirmations.isPositive = false →
    result = .ok ⟨.success, receipt, pending.gasLimit, .int 0, false⟩
  untold : Untold pending receipt → ∃ cause, result = .error (.defect cause)

variable {tracker : Tracker} {pending : PendingDeployment} {confirmations : Datum}
  {deadline : Measure} {receipt : Receipt} {world final : World σ} {added : List Entry}

/-! ## The first phase -/

theorem receiptVerdict_ne_error {reply : Option Receipt} {fault : Fault} :
    receiptVerdict reply ≠ .error fault := by
  simp only [receiptVerdict]
  split <;> simp

/-- The first phase takes a receipt or is interrupted. -/
theorem awaitReceipt_takes (tracker : Tracker) (client : Client σ) (pending : PendingDeployment)
    (deadline : Measure) (polls : Nat) (world : World σ) :
    (tracker.awaitReceipt client pending deadline polls).Yields world fun added result final =>
      match result with
      | .ok receipt => Takes pending.txHash receipt (exchangesOf added) (sleepsOf added).length
      | .error fault =>
          tracker.Interrupted pending (some deadline) polls (exchangesOf added) final fault := by
  apply (repeatUntil_yields (fun _ => tracker.poll_yields client pending deadline none
    (judges_judgeReceipt pending)) polls () world).mono
  intro added result final repeated
  generalize () = start at repeated
  induction repeated with
  | exhausted => exact .unfinished (Nat.zero_le _)
  | failed last =>
      rcases last.turned.interrupted with interrupted | ⟨reply, _, spoiled⟩
      · exact interrupted
      · exact absurd spoiled receiptVerdict_ne_error
  | ended last =>
      rcases last.turned.exists_decided with ⟨reply, heard, awake, judged⟩
      rcases Option.filter_eq_some_iff.mp ((receiptVerdict_eq_inr_iff _ _).mp judged) with
        ⟨rfl, isMined⟩
      exact ⟨by simpa using isMined, [], heard, by simp, awake⟩
  | @again _ _ _ _ _ _ _ _ result first _ ih =>
      rcases first.turned.exists_undecided with ⟨reply, heard, asleep, judged⟩
      have unmined := mined?_of_receiptVerdict_eq_inl judged
      rw [exchangesOf_append, sleepsOf_append, List.length_append, heard, asleep]
      cases result with
      | error fault => exact ih.afterTurn
      | ok receipt =>
          rcases ih.asked with ⟨undecided, exchanged, areUndecided, slept⟩
          refine ⟨ih.mined, ⟨_, .ok reply⟩ :: undecided, by rw [exchanged]; rfl, ?_, ?_⟩
          · exact List.forall_mem_cons.mpr ⟨Exchange.isUndecided_of_mined? unmined, areUndecided⟩
          · rw [slept, List.length_cons, Nat.add_comm]

/-! ## What follows the receipt -/

theorem HasIntegerGas.isNumber (integral : HasIntegerGas pending receipt) :
    pending.gasLimit.number?.isSome = true := by
  rcases integral.limit with ⟨limit, isLimit⟩
  rw [isLimit]
  rfl

theorem Concluded.decides {result : Except Fault TrackingResult}
    (concluded : Concluded pending confirmations receipt (tracker.Phase pending deadline .blockNumber)
      world added result final) : Decides pending confirmations receipt added result := by
  have untold (isUntold : Untold pending receipt) : ∃ cause, result = .error (.defect cause) :=
    (concluded.raises isUntold).imp fun _ raised => raised.2
  cases concluded with
  | @untold _ _ cause isReverted noted incomparable other =>
      exact {
        requests := by simp [noted.silent.requests]
        atOnce := fun _ => ⟨noted.silent.requests, noted.silent.sleeps⟩
        reverted := fun _ integral => absurd ⟨isReverted, cause, incomparable⟩ integral.not_untold
        confirmed := by simp [isReverted]
        untold }
  | reverted isReverted noted told warned =>
      have silent := noted.silent.append warned.silent
      exact {
        requests := by simp [noted.silent.requests, warned.silent.requests]
        atOnce := fun _ => ⟨silent.requests, silent.sleeps⟩
        reverted := by
          intro _ integral
          refine ⟨_, rfl, ?_⟩
          rw [usedUpGas_eq_ok integral.isNumber told]
          simp [Receipt.RanOut, isReverted]
        confirmed := by simp [isReverted]
        untold }
  | confirmedAtOnce isSuccess unwanted noted =>
      exact {
        requests := by simp [noted.silent.requests]
        atOnce := fun _ => ⟨noted.silent.requests, noted.silent.sleeps⟩
        reverted := by simp [isSuccess]
        confirmed := fun _ _ => rfl
        untold }
  | unconfirmed isSuccess wanted noted phase =>
      exact {
        requests := by simpa [noted.silent.requests] using phase.polling.requests
        atOnce := by simp [isSuccess, wanted]
        reverted := by simp [isSuccess]
        confirmed := by simp [wanted]
        untold }
  | confirmed isSuccess wanted noted phase =>
      exact {
        requests := by simpa [noted.silent.requests] using phase.polling.requests
        atOnce := by simp [isSuccess, wanted]
        reverted := by simp [isSuccess]
        confirmed := by simp [wanted]
        untold }

/-! ## Tracking -/

theorem checkConfirmations_natCast (confirmations : Nat) :
    checkConfirmations (.int confirmations) = .ok () := by
  have compared : Datum.order "<" (.int confirmations) (.int 0) =
      .ok ((Datum.int confirmations).compare? (.int 0)) := rfl
  have notLess : (Datum.int confirmations).compare? (.int 0) ≠ some .lt := by
    rw [Datum.compare?_int, if_neg (by omega)]
    split <;> simp
  simp [checkConfirmations, compared, notLess, bind, Except.bind, pure, Except.pure]

/-- Tracking that is interrupted before it has heard of a receipt with a block number. -/
structure InterruptedEarly (tracker : Tracker) (pending : PendingDeployment) (world : World σ)
    (added : List Entry) (result : Except Fault TrackingResult) (final : World σ) : Prop where
  interrupted : ∃ fault, result = .error fault ∧ tracker.Interrupted pending
    (world.now.add? tracker.timeout) world.horizon (exchangesOf added) final fault
  unmined : firstMined (exchangesOf added) = none

/-- The first phase takes a receipt or is interrupted, and that receipt is the first one with a block number. -/
structure TakesFirst (tracker : Tracker) (pending : PendingDeployment) (deadline : Measure)
    (begun : World σ) (added : List Entry) (result : Except Fault Receipt) (final : World σ) : Prop where
  ends : match result with
    | .ok receipt => Takes pending.txHash receipt (exchangesOf added) (sleepsOf added).length
    | .error fault =>
        tracker.Interrupted pending (some deadline) begun.horizon (exchangesOf added) final fault
  first : firstMined (exchangesOf added) = result.toOption

/-- Tracking is interrupted early, or takes a receipt and concludes with it. -/
theorem Tracked.takes
    {receiptPhase : Measure → World σ → List Entry → Except Fault Receipt → World σ → Prop}
    {depthPhase : Measure → Receipt → World σ → List Entry → Except Fault Datum → World σ → Prop}
    {count : Nat} {result : Except Fault TrackingResult}
    (takesFirst : ∀ deadline begun added result final, receiptPhase deadline begun added result final →
      tracker.TakesFirst pending deadline begun added result final)
    (tracked : tracker.Tracked pending (.int count) receiptPhase depthPhase world added result final) :
    tracker.InterruptedEarly pending world added result final ∨
      ∃ deadline receipt notes begun polled middle after, added = (notes ++ polled) ++ after ∧
        Takes pending.txHash receipt (exchangesOf (notes ++ polled)) (sleepsOf (notes ++ polled)).length ∧
        world.now.add? tracker.timeout = some deadline ∧ Noted (world.entering .submitted) notes begun ∧
        receiptPhase deadline begun polled (.ok receipt) middle ∧
        Concluded pending (.int count) receipt (depthPhase deadline receipt) middle after result final := by
  cases tracked with
  | refused invalid => cases invalid.symm.trans (checkConfirmations_natCast count)
  | unlimited _ undue => exact Or.inl ⟨⟨_, rfl, .stopped undue⟩, rfl⟩
  | @unmined _ notes polled _ _ _ _ due noted phase =>
      have exchanged : exchangesOf (notes ++ polled) = exchangesOf polled := by
        simp [noted.silent.exchanges]
      rcases takesFirst _ _ _ _ _ phase with ⟨interrupted, none⟩
      rw [noted.surroundings] at interrupted
      exact Or.inl ⟨⟨_, rfl, by rw [due, exchanged]; exact interrupted⟩, by rw [exchanged, none]; rfl⟩
  | @mined deadline notes polled after begun middle _ receipt _ _ due noted phase concluded =>
      refine Or.inr ⟨deadline, receipt, notes, begun, polled, middle, after,
        (List.append_assoc _ _ _).symm, ?_, due, noted, phase, concluded⟩
      simpa [noted.silent.exchanges, noted.silent.sleeps] using (takesFirst _ _ _ _ _ phase).ends

theorem awaitReceipt_takesFirst (tracker : Tracker) (client : Client σ) (pending : PendingDeployment)
    (deadline : Measure) (begun : World σ) :
    (tracker.awaitReceipt client pending deadline begun.horizon).Yields begun
      (tracker.TakesFirst pending deadline begun) := by
  apply ((tracker.awaitReceipt_takes client pending deadline begun.horizon begun).and
    (tracker.awaitReceipt_firstMined client pending deadline begun.horizon begun)).mono
  exact fun _ _ _ ⟨ends, first⟩ => ⟨ends, first⟩

/-- Unless it is interrupted before, tracking decides on the first receipt with a block number. -/
theorem track_decides (tracker : Tracker) (client : Client σ) (pending : PendingDeployment)
    (confirmations : Nat) (world : World σ) :
    (tracker.track client pending (.int confirmations)).Yields world fun added result final =>
      tracker.InterruptedEarly pending world added result final ∨
        ∃ receipt before after, added = before ++ after ∧
          Takes pending.txHash receipt (exchangesOf before) (sleepsOf before).length ∧
          Decides pending (.int confirmations) receipt after result := by
  apply (tracker.track_yields client pending (.int confirmations) world
    (tracker.awaitReceipt_takesFirst client pending)
    fun deadline receipt seen =>
      tracker.awaitDepth_phase client pending receipt (.int confirmations) deadline seen.horizon
        receipt.blockNumber seen).mono
  intro added result final tracked
  rcases tracked.takes (fun _ _ _ _ _ => id) with
    early | ⟨_, receipt, notes, _, polled, _, after, rfl, taken, _, _, _, concluded⟩
  · exact Or.inl early
  · exact Or.inr ⟨receipt, notes ++ polled, after, rfl, taken, concluded.decides⟩

end Tracker

end WasmDeploy
