import WasmDeploy.Proofs.Deployment.Order
import WasmDeploy.Proofs.Signing

/-!
# Deployments that are submitted

This file shows that nothing stands between a deployment whose local input is in order and an endpoint that accepts
its transaction: it is built, signed and sent. What becomes of the deployment is then up to tracking.
-/

namespace WasmDeploy

variable {σ α β : Type} {holds : World σ → Prop}

namespace Run

/-- From every world in which something holds, an operation ends with an expected value in such a world. -/
def Succeeds (holds : World σ → Prop) (operation : Run σ α) (expected : α → Prop) : Prop :=
  ∀ world, holds world → operation.Yields world fun _ result final =>
    holds final ∧ ∃ value, result = .ok value ∧ expected value

/-- Something that holds of a world whatever is recorded in it and whatever state the tracker is in. -/
structure Stable (holds : World σ → Prop) : Prop where
  record : ∀ world event, holds world → holds (world.record event)
  entering : ∀ world state, holds world → holds (world.entering state)

theorem succeeds_pure {value : α} {expected : α → Prop} (isExpected : expected value) :
    Succeeds holds (pure value) expected :=
  fun _ held => yields_pure ⟨held, value, rfl, isExpected⟩

theorem succeeds_bind {first : Run σ α} {next : α → Run σ β} {known : α → Prop} {expected : β → Prop}
    (succeeds : first.Succeeds holds known)
    (nextSucceeds : ∀ value, known value → (next value).Succeeds holds expected) :
    (first >>= next).Succeeds holds expected := by
  intro world held
  apply yields_bind
  apply (succeeds world held).mono
  rintro added _ middle ⟨held, value, rfl, isKnown⟩
  exact (nextSucceeds value isKnown middle held).mono fun _ _ _ => id

theorem succeeds_lift_bind {result : Except Fault α} {value : α} {next : α → Run σ β}
    {expected : β → Prop} (isValue : result = .ok value)
    (nextSucceeds : (next value).Succeeds holds expected) :
    (liftM result >>= next).Succeeds holds expected := by
  subst isValue
  have lifts : Succeeds holds (liftM (Except.ok value : Except Fault α)) fun other => other = value :=
    fun _ held => yields_lift ⟨held, value, rfl, rfl⟩
  exact succeeds_bind lifts fun _ same => same ▸ nextSucceeds

theorem succeeds_log (stable : Stable holds) (severity : Severity) (component : Component)
    (message : Message) : Succeeds holds (log severity component message) fun _ => True :=
  fun world held => yields_record ⟨stable.record world _ held, (), rfl, trivial⟩

theorem succeeds_enter (stable : Stable holds) (state : TrackingState) :
    Succeeds holds (enter state) fun _ => True :=
  fun world held => yields_modify rfl ⟨stable.entering world _ held, (), rfl, trivial⟩

end Run

open Run

/-- The endpoint has accepted a transaction under a hash. -/
def Accepted (hash : Datum) (exchanges : List Exchange) : Prop :=
  ∃ raw, ⟨.sendRawTransaction raw, .ok hash⟩ ∈ exchanges

/-- A number that takes up 31 bytes at most. -/
def Datum.IsOrdinary (value : Datum) : Prop :=
  ∃ number : Nat, value = .int number ∧ number < Nat.pow 256 31

/-- A transaction with an artifact for a chain, whose numbers are ordinary. -/
def DeploymentTransaction.IsOrdinary (artifact : Bytes) (chainId : Int)
    (transaction : DeploymentTransaction) : Prop :=
  transaction.chainId = .int chainId ∧ transaction.payload = .bytes artifact ∧
    Datum.IsOrdinary transaction.gasLimit ∧ Datum.IsOrdinary transaction.gasPrice

/-- A client answers with ordinary numbers and accepts every transaction. -/
structure Client.Accepts (client : Client σ) (holds : World σ → Prop) : Prop where
  price : (client.ask .gasPrice).Succeeds holds Datum.IsOrdinary
  count : ∀ address, (client.ask (.transactionCount address)).Succeeds holds Datum.IsOrdinary
  hash : ∀ raw, (client.ask (.sendRawTransaction raw)).Succeeds holds fun hash =>
    ∃ text, hash = .text text

/-- A direct client that answers every request with success can be asked as long as the clock can show when the
answer comes. -/
theorem Client.succeeds_ask_direct {answer : (request : Request) → σ → Except Fault request.Reply × σ}
    {request : Request} {expected : request.Reply → Prop} (stable : Stable holds)
    (moves : ∀ world state, holds world → ∃ finish,
      world.elapse world.calls world.now = some finish ∧
        holds { world.afterCall finish with endpoint := state })
    (answers : ∀ state, ∃ reply, (answer request state).1 = .ok reply ∧ expected reply) :
    ((Client.direct answer).ask request).Succeeds holds expected := by
  intro world held
  apply yields_record_bind
  apply yields_noting
  apply yields_bind
  apply yields_passCall
  · intro finish shown
    apply yields_answer
    rcases moves (world.record (.call request)) (answer request world.endpoint).2
      (stable.record world _ held) with ⟨_, isShown, moved⟩
    cases shown.symm.trans isShown
    exact ⟨stable.record _ _ moved, answers world.endpoint⟩
  · intro stuck
    rcases moves (world.record (.call request)) world.endpoint (stable.record world _ held) with
      ⟨_, isShown, _⟩
    cases stuck.symm.trans isShown

/-! ## The stages -/

theorem readGas_of_bounds {limit price : Nat} (positive : 0 < limit) (limitFits : limit ≤ maxUInt64)
    (priceFits : price ≤ maxUInt64) :
    readGas (.int limit) (.int price) = .ok ((limit : Int), (price : Int)) := by
  have isPower : (Nat.pow 2 64 : Int) = maxUInt64 + 1 := rfl
  exact readGas_eq_ok_iff.mpr ⟨limit, price, rfl, ⟨rfl, by omega⟩, ⟨rfl, by omega⟩, positive⟩

namespace Network

theorem bounds_of_chainIdOf {value : Datum} {number : Int} (isRead : chainIdOf value = .ok number) :
    0 < number ∧ number ≤ maxUInt64 := by
  unfold chainIdOf at isRead
  split at isRead
  · split at isRead
    · next bounds =>
      cases isRead
      exact bounds
    · exact absurd isRead (Datum.refuse_ne_ok _ _ _)
  · exact absurd isRead (Datum.refuse_ne_ok _ _ _)

/-- The chain id of a network that is selected is a positive 64-bit number. -/
theorem bounds_of_select {localNode development rpcUrl chainId : Datum} {network : Network}
    (isSelected : select localNode development rpcUrl chainId = .ok network) :
    0 < network.chainId ∧ network.chainId ≤ maxUInt64 := by
  unfold select at isSelected
  dsimp only at isSelected
  repeat' split at isSelected
  any_goals cases isSelected
  · decide
  · decide
  · rcases bind_eq_ok isSelected with ⟨endpoint, _, isSelected⟩
    rcases bind_eq_ok isSelected with ⟨number, chainRead, made⟩
    cases made
    exact bounds_of_chainIdOf chainRead

end Network

section

variable {client : Client σ} (stable : Stable holds) (accepts : client.Accepts holds)

include stable accepts

theorem settleGasPrice_succeeds (network : Network) {price : Nat} (isShort : price < Nat.pow 256 31) :
    (settleGasPrice client network price).Succeeds holds Datum.IsOrdinary := by
  simp only [settleGasPrice]
  split
  · apply succeeds_bind (succeeds_log stable _ _ _)
    intro _ _
    apply succeeds_bind accepts.price
    intro settled ordinary
    apply succeeds_bind (succeeds_log stable _ _ _)
    intro _ _
    exact succeeds_pure ordinary
  · apply succeeds_bind (succeeds_log stable _ _ _)
    intro _ _
    exact succeeds_pure ⟨price, rfl, isShort⟩

theorem buildTransaction_succeeds (artifact : Bytes) (network : Network) {limit price : Nat}
    (positive : 0 < limit) (limitFits : limit ≤ maxUInt64) (priceFits : price ≤ maxUInt64) :
    (buildTransaction client artifact network (.int limit) (.int price)).Succeeds holds
      (DeploymentTransaction.IsOrdinary artifact network.chainId) := by
  have isShort {number : Nat} (fits : number ≤ maxUInt64) : number < Nat.pow 256 31 := by
    have room : maxUInt64 < Nat.pow 256 31 := by decide
    omega
  apply succeeds_lift_bind (readGas_of_bounds positive limitFits priceFits)
  apply succeeds_bind (settleGasPrice_succeeds stable accepts network (isShort priceFits))
  intro settled ordinary
  exact succeeds_pure ⟨rfl, rfl, ⟨limit, rfl, isShort limitFits⟩, ordinary⟩

omit stable in
theorem send_succeeds (raw : Bytes) :
    (send client raw).Succeeds holds fun hash => ∃ text, hash = .text text := by
  intro world held
  apply yields_tryCatch
  apply (accepts.hash raw world held).mono
  rintro added _ middle ⟨held, hash, rfl, isText⟩
  exact ⟨held, hash, rfl, isText⟩

omit accepts in
theorem warnOfHash_succeeds (hash : Datum) (expected : String) (isExpected : Bool) :
    (warnOfHash hash expected isExpected).Succeeds holds fun _ => True := by
  simp only [warnOfHash]
  split
  · exact succeeds_pure trivial
  · exact succeeds_log stable _ _ _

theorem submit_succeeds {signer : Signer} {transaction : DeploymentTransaction} {artifact : Bytes}
    {chainId : Nat} (ordinary : transaction.IsOrdinary artifact chainId)
    (chainShort : chainId < Nat.pow 256 31) (artifactShort : artifact.length < Nat.pow 256 7)
    (signerChain : signer.chainId = .int chainId) :
    (submit client signer transaction).Succeeds holds fun pending =>
      ∃ hash, pending.txHash = .text hash := by
  rcases ordinary with ⟨isChain, isPayload, ⟨limit, isLimit, limitShort⟩, ⟨price, isPrice, priceShort⟩⟩
  apply succeeds_bind (accepts.count _)
  rintro _ ⟨number, rfl, numberShort⟩
  have numbers : TransactionNumbers.IsOrdinary ⟨number, price, limit, artifact, some chainId⟩ :=
    ⟨numberShort, priceShort, limitShort, artifactShort, by rintro _ ⟨⟩; exact chainShort⟩
  rcases signer.exists_signed numbers rfl signerChain with ⟨signed, isSigned⟩
  have fields : transaction.fields (.int number) =
      ⟨.int number, .int price, .int limit, .bytes artifact, .int chainId⟩ := by
    simp [DeploymentTransaction.fields, isChain, isPayload, isLimit, isPrice]
  rw [← fields] at isSigned
  apply succeeds_lift_bind isSigned
  apply succeeds_bind (succeeds_log stable _ _ _)
  intro _ _
  apply succeeds_bind (send_succeeds accepts _)
  rintro _ ⟨text, rfl⟩
  -- A hash that is text can be compared; whether it is the expected one only matters for the warning.
  apply succeeds_lift_bind rfl
  apply succeeds_bind (warnOfHash_succeeds stable _ _ _)
  intro _ _
  apply succeeds_bind (succeeds_log stable _ _ _)
  intro _ _
  exact succeeds_pure ⟨text, rfl⟩

end

namespace DeploymentRequest

variable (request : DeploymentRequest)

/-- The tracker that a deployment starts. -/
def trackerOf (tracker : Option Tracker) : Except Fault Tracker :=
  match tracker with
  | some tracker => .ok tracker
  | none => Tracker.ofSettings request.timeout request.pollInterval

theorem startTracker_succeeds (stable : Stable holds) {tracker : Option Tracker} {started : Tracker}
    (isStarted : request.trackerOf tracker = .ok started) :
    (request.startTracker tracker : Run σ Tracker).Succeeds holds fun value => value = started := by
  cases tracker with
  | some tracker =>
      cases isStarted
      exact succeeds_pure rfl
  | none =>
      apply succeeds_lift_bind isStarted
      apply succeeds_bind (succeeds_enter stable _)
      intro _ _
      exact succeeds_pure rfl

theorem announce_succeeds (stable : Stable holds) (network : Network) (signer : Signer) :
    (request.announce network signer : Run σ Unit).Succeeds holds fun _ => True := by
  simp only [announce]
  generalize Text.lines _ = lines
  induction lines with
  | nil => exact succeeds_pure trivial
  | cons line lines ih => exact succeeds_bind (succeeds_log stable _ _ _) fun _ _ => ih

/-- The local input of a deployment is in order: its artifact can be read and is not longer than 7 bytes can tell,
a network is selected, the key is one, a tracker is there or can be set up, and the gas is that of a
transaction. -/
structure InOrder (files : FileTree File) (artifact : Bytes) (network : Network) (key : Nat)
    (started : Tracker) (tracker : Option Tracker) : Prop where
  content : Artifact.content files request.wasmFile = .ok artifact
  short : artifact.length < Nat.pow 256 7
  select : Network.select request.localNode request.development request.rpcUrl request.chainId =
    .ok network
  readKey : Signer.readKey request.privateKey = .ok key
  starts : request.trackerOf tracker = .ok started
  gasLimit : ∃ limit : Nat, request.gasLimit = .int limit ∧ 0 < limit ∧ limit ≤ maxUInt64
  gasPrice : ∃ price : Nat, request.gasPrice = .int price ∧ price ≤ maxUInt64

theorem InOrder.exists_chainId {request : DeploymentRequest} {files : FileTree File}
    {artifact : Bytes} {network : Network} {key : Nat} {started : Tracker} {tracker : Option Tracker}
    (inOrder : request.InOrder files artifact network key started tracker) :
    ∃ chainId : Nat, network.chainId = chainId ∧ chainId < Nat.pow 256 31 := by
  rcases Network.bounds_of_select inOrder.select with ⟨positive, fits⟩
  have room : maxUInt64 < Nat.pow 256 31 := by decide
  exact ⟨network.chainId.toNat, by omega, by omega⟩

variable {request} {files : FileTree File} {artifact : Bytes} {network : Network} {key : Nat}
  {started : Tracker} {tracker : Option Tracker} {client : Client σ} {ends : Failure → Prop}
  {world : World σ}

/-- The end of a deployment whose transaction the endpoint has accepted and which fails in one of some ways. -/
def EndsAccepted (ends : Failure → Prop) (added : List Entry) (result : Except Fault α) : Prop :=
  (∃ hash, Accepted (.text hash) (exchangesOf added)) ∧
    ∃ cause network, result = .error (.failure cause network) ∧ ends cause

variable (stable : Stable holds) (accepts : client.Accepts holds) (held : holds world)
  (tracks : ∀ pending middle, holds middle →
    (started.track client pending request.confirmations).Yields middle fun _ result _ =>
      ∃ cause network, result = .error (.failure cause network) ∧ ends cause)

include stable accepts held tracks

theorem converse_accepted (inOrder : request.InOrder files artifact network key started tracker) :
    (request.converse client tracker artifact network ⟨key, .int network.chainId⟩).Yields world
      fun added result _ => EndsAccepted ends added result := by
  apply yields_bind
  apply (request.startTracker_succeeds stable inOrder.starts world held).mono
  rintro prepared _ middle ⟨held, _, rfl, rfl⟩
  apply yields_record_bind
  apply yields_bind
  rcases inOrder.gasLimit with ⟨limit, isLimit, positive, limitFits⟩
  rcases inOrder.gasPrice with ⟨price, isPrice, priceFits⟩
  rw [isLimit, isPrice]
  apply (buildTransaction_succeeds stable accepts artifact network positive limitFits priceFits _
    (stable.record _ _ held)).mono
  rintro priced _ middle ⟨held, transaction, rfl, ordinary⟩
  rcases inOrder.exists_chainId with ⟨chainId, isChain, chainShort⟩
  rw [isChain] at ordinary ⊢
  apply yields_bind
  apply ((submit_yields client _ transaction).and (submit_succeeds stable accepts ordinary chainShort
    inOrder.short rfl middle held)).mono
  rintro sent _ middle ⟨submitted, held, pending, rfl, hash, isHash⟩
  rcases submitted.complete with ⟨nonce, raw, exchanged⟩
  rw [isHash] at exchanged
  apply (tracks pending middle held).mono
  rintro tracked _ final ⟨cause, noted, rfl, isEnd⟩
  exact ⟨⟨hash, raw, by simp [exchanged]⟩, cause, noted, rfl, isEnd⟩

theorem proceed_accepted (inOrder : request.InOrder files artifact network key started tracker) :
    (request.proceed (.given client) tracker artifact network).Yields world
      fun added result _ => EndsAccepted ends added result := by
  have isSigner : Signer.ofKey request.privateKey (.int network.chainId) =
      .ok ⟨key, .int network.chainId⟩ := by
    simp [Signer.ofKey, inOrder.readKey, bind, Except.bind, pure, Except.pure]
  apply yields_lift_bind
  · intro fault isFault
    cases isSigner.symm.trans isFault
  intro signer isOther
  cases isSigner.symm.trans isOther
  apply yields_bind
  apply (request.announce_succeeds stable network _ world held).mono
  rintro announced _ middle ⟨held, _, rfl, _⟩
  apply (converse_accepted stable accepts held tracks inOrder).mono
  rintro added result final ⟨⟨hash, raw, mem⟩, fails⟩
  exact ⟨⟨hash, raw, by simp [mem]⟩, fails⟩

/-- A deployment whose local input is in order is submitted to a client that accepts it. If tracking then fails, so
does the deployment. -/
theorem deploy_accepted (inOrder : request.InOrder world.files artifact network key started tracker) :
    (request.deploy (.given client) tracker).Yields world
      fun added result _ => EndsAccepted ends added result := by
  apply yields_bind
  apply yields_get_bind
  rw [inOrder.content]
  apply yields_lift_bind (by simp)
  rintro _ ⟨⟩
  apply yields_record_bind
  apply yields_pure
  rw [inOrder.select]
  apply yields_lift_bind (by simp)
  rintro _ ⟨⟩
  apply yields_bind
  apply yields_tryCatch
  apply (proceed_accepted stable accepts (stable.record world _ held) tracks inOrder).mono
  rintro added _ final ⟨⟨hash, raw, mem⟩, cause, noted, rfl, isEnd⟩
  apply yields_throw
  exact ⟨⟨hash, raw, by simp [mem]⟩, cause, some network, rfl, isEnd⟩

end DeploymentRequest

/-! ## Tracking that fails at once -/

namespace Tracker

variable (tracker : Tracker) (client : Client σ) (pending : PendingDeployment) {world : World σ}

/-- A count of confirmations below zero is refused before the endpoint is asked for anything. -/
theorem track_yields_negative {confirmations : Datum}
    (isNegative : confirmations.compare? (.int 0) = some .lt)
    (isShowable : confirmations.isShowable = true) :
    (tracker.track client pending confirmations).Yields world fun _ result _ =>
      result = .error (.of (.confirmationsNegative confirmations)) := by
  have refused : checkConfirmations confirmations =
      .error (.of (.confirmationsNegative confirmations)) := by
    rw [checkConfirmations_of_negative isNegative, Datum.refuse, if_pos isShowable]
    rfl
  apply yields_lift_bind
  · intro fault isFault
    cases isFault.symm.trans refused
    rfl
  · rintro _ isValid
    cases refused.symm.trans isValid

/-- Tracking that is cancelled before its first poll ends at once. -/
theorem track_yields_cancelled {deadline : Measure} (cancelled : world.isCancelled = true)
    (polls : world.horizon ≠ 0) (due : world.now.add? tracker.timeout = some deadline) :
    (tracker.track client pending (.int 0)).Yields world fun _ result _ =>
      result = .error (.of (.cancelled pending.txHash)) := by
  have valid : checkConfirmations (.int 0) = .ok () := rfl
  simp only [track]
  rw [valid]
  apply yields_lift_bind (by simp)
  intro _ _
  apply yields_modify_bind rfl
  apply yields_bind
  apply yields_get_bind
  simp only [World.now_entering, due]
  apply yields_lift
  apply yields_record_bind
  apply yields_get_bind
  apply yields_bind
  rcases horizon : world.horizon with _ | times
  · exact absurd horizon polls
  have atFirst : ((world.entering .submitted).record (.log .info .tracking
      (.ok s!"Waiting for transaction {pending.txHash.plain} to be mined..."))).horizon = times + 1 := horizon
  simp only [awaitReceipt, atFirst, repeatUntil]
  apply yields_bind
  apply yields_bind
  apply yields_checkCancelled
  · exact fun _ => rfl
  · intro going
    cases cancelled.symm.trans going

end Tracker

/-! ## A deployment to the local network -/

/-- A world with some surroundings, on a clock that shows an exact time. -/
structure World.IsWithin (surroundings : Surroundings) (world : World σ) : Prop where
  surroundings : world.toSurroundings = surroundings
  now : ∃ time, world.now = .exact time

theorem World.stable_isWithin (surroundings : Surroundings) :
    Stable fun world : World σ => world.IsWithin surroundings where
  record _ _ within := ⟨within.surroundings, within.now⟩
  entering _ _ within := ⟨within.surroundings, within.now⟩

namespace DeploymentRequest

/-- A client that counts one of everything and leaves every transaction pending. -/
def pendingAnswer : (request : Request) → Unit → Except Fault request.Reply × Unit
  | .transactionReceipt _, state => (.ok none, state)
  | .sendRawTransaction _, state => (.ok (.text "0x1"), state)
  | .gasPrice, state | .transactionCount _, state | .blockNumber, state => (.ok (.int 1), state)

theorem accepts_pendingAnswer {surroundings : Surroundings}
    (passes : ∀ call time, ∃ later,
      surroundings.elapse call (.exact time) = some (.exact later)) :
    (Client.direct pendingAnswer).Accepts fun world => world.IsWithin surroundings := by
  have moves (world : World Unit) (state : Unit) (within : world.IsWithin surroundings) :
      ∃ finish, world.elapse world.calls world.now = some finish ∧
        { world.afterCall finish with endpoint := state }.IsWithin surroundings := by
    rcases within with ⟨rfl, time, isNow⟩
    rcases passes world.calls time with ⟨later, elapsed⟩
    exact ⟨.exact later, by rw [isNow]; exact elapsed, rfl, later, rfl⟩
  have one : Datum.IsOrdinary (.int 1) := ⟨1, rfl, by decide⟩
  have stable := @World.stable_isWithin Unit surroundings
  exact {
    price := Client.succeeds_ask_direct stable moves fun _ => ⟨_, rfl, one⟩
    count := fun _ => Client.succeeds_ask_direct stable moves fun _ => ⟨_, rfl, one⟩
    hash := fun _ => Client.succeeds_ask_direct stable moves fun _ => ⟨_, rfl, _, rfl⟩ }

/-- A request for the local network that asks for some confirmations. -/
def localRequest (confirmations : Int) : DeploymentRequest where
  wasmFile := .text "contract.wasm"
  privateKey := .text ("0x" ++ String.ofList (List.replicate 63 '0') ++ "1")
  confirmations := .int confirmations
  localNode := .bool true

/-- A world with the artifact that the request names. Cancelling is asked for from the start on or never. -/
def localWorld (isCancelled : Bool) : World Unit :=
  { World.steady 0 4 with
    files := [(["contract.wasm"], .file ⟨Artifact.magic, none, none⟩)]
    cancellation := if isCancelled then some (.afterCalls 0) else none }

theorem eq_ok_of_test [BEq α] [LawfulBEq α] {result : Except Fault α} {value : α}
    (passes : (match result with
      | .ok other => other == value
      | .error _ => false) = true) : result = .ok value := by
  cases result with
  | ok other => exact congrArg Except.ok (eq_of_beq passes)
  | error fault => cases passes

-- Looking for a NUL character does not evaluate by itself, so the path is shown to have none first.
theorem content_local : Artifact.content [(["contract.wasm"], .file ⟨Artifact.magic, none, none⟩)]
    (.text "contract.wasm") = .ok Artifact.magic := by
  have isShown : Text.shown "contract.wasm" = "contract.wasm" := by simp
  have noNul : (FilePath.ofText "contract.wasm").hasNul = false := by
    rw [FilePath.hasNul, String.contains_char_eq]
    decide +kernel
  have isFound : FileTree.find [(["contract.wasm"], .file (⟨Artifact.magic, none, none⟩ : File))]
      (FilePath.ofText "contract.wasm") = .ok (some ⟨Artifact.magic, none, none⟩) := by
    rw [FileTree.find, if_neg (by simp [noNul])]
    exact eq_ok_of_test (by decide +kernel)
  simp only [Artifact.content, FilePath.ofDatum, isShown, Except.mapError, bind, Except.bind,
    Artifact.locate, isFound]
  rfl

theorem inOrder_localRequest (confirmations : Int) (isCancelled : Bool) :
    (localRequest confirmations).InOrder (localWorld isCancelled).files Artifact.magic
      Network.localNode 1 ⟨.exact 120, .exact 1⟩ none where
  content := content_local
  short := by decide
  select := rfl
  readKey := by
    show Signer.readKey (.text ("0x" ++ String.ofList (List.replicate 63 '0') ++ "1")) = .ok 1
    exact eq_ok_of_test (by decide +kernel)
  starts := rfl
  gasLimit := ⟨30000000, rfl, by decide, by decide⟩
  gasPrice := ⟨0, rfl, by decide⟩

theorem passes_local {isCancelled : Bool} (call : Nat) (time : Rat) :
    ∃ later, (localWorld isCancelled).elapse call (.exact time) = some (.exact later) :=
  ⟨time + 0, rfl⟩

/-- Tracking in such a world is cancelled if cancelling is asked for from the start on. -/
theorem track_yields_local (client : Client Unit) (pending : PendingDeployment) {world : World Unit}
    (within : world.IsWithin (localWorld true).toSurroundings) :
    (Tracker.track ⟨.exact 120, .exact 1⟩ client pending (.int 0)).Yields world fun _ result _ =>
      result = .error (.of (.cancelled pending.txHash)) := by
  rcases within with ⟨surroundings, time, isNow⟩
  have cancelled : world.isCancelled = true := by
    simp [World.isCancelled, surroundings, localWorld, Cancellation.afterCalls]
  have polls : world.horizon ≠ 0 := by
    simp [surroundings, localWorld, World.steady]
  have due : world.now.add? (.exact 120) = some (.exact (time + 120)) := by
    rw [isNow, Measure.add?_exact]
  exact Tracker.track_yields_cancelled _ client pending cancelled polls due

end DeploymentRequest

end WasmDeploy
