import WasmDeploy.Proofs.Deployment.Relay
import WasmDeploy.Proofs.Deployment.Stages

/-!
# The order of requests

This file shows in which order a deployment talks to its endpoint, whatever the endpoint answers, however the
clock moves and whenever cancelling is asked for. The order is read off the conversations of the stages; that
nothing follows a failed request comes from relaying.
-/

namespace WasmDeploy

open Run

variable {σ : Type}

/-- Whether a request sends a transaction. -/
def Request.isSend : Request → Bool
  | .sendRawTransaction _ => true
  | _ => false

/-- Whether a request belongs to the polling of tracking. -/
def Request.isPoll : Request → Bool
  | .transactionReceipt _ | .blockNumber => true
  | _ => false

/-- The requests that settle a gas price. -/
def priceRequests (gasPrice : Datum) : List Request :=
  match gasPrice with
  | .int 0 => [.gasPrice]
  | _ => []

/-- The requests of a deployment that is never cut short, for so many polls in each phase of tracking. -/
def DeploymentRequest.fullOrder (request : DeploymentRequest) (address : String) (raw : Bytes)
    (hash : Datum) (receiptPolls heightPolls : Nat) : List Request :=
  priceRequests request.gasPrice ++
    ([.transactionCount (.text address), .sendRawTransaction raw] ++
      (List.replicate receiptPolls (.transactionReceipt hash) ++
        List.replicate heightPolls .blockNumber))

/-- A conversation keeps the order of a deployment. The requests are a beginning of the full order, for the
address of the key; receipts are asked for by the hash that came back for what was sent; the height is asked for
only if confirmations are wanted and the first receipt with a block number is successful. Nothing is sent twice,
no receipt is asked for after a height, and nothing at all after a request that failed. -/
structure Orderly (request : DeploymentRequest) (requests : List Request)
    (exchanges : List Exchange) : Prop where
  heard : requests = exchanges.map Exchange.request
  begins : ∃ address raw hash receiptPolls heightPolls,
    requests <+: request.fullOrder address raw hash receiptPolls heightPolls ∧
      (requests ≠ [] → ∃ key, Signer.readKey request.privateKey = .ok key ∧
        address = addressOfKey key)
  followsSent : ∀ hash, .transactionReceipt hash ∈ requests →
    ∃ raw, ⟨.sendRawTransaction raw, .ok hash⟩ ∈ exchanges
  heightsWanted : .blockNumber ∈ requests → request.confirmations.isPositive = true ∧
    ∃ receipt, firstMined exchanges = some receipt ∧ receipt.succeeded = true
  sendsOnce : requests.countP Request.isSend ≤ 1
  receiptsFirst : requests.Pairwise fun earlier later => earlier = .blockNumber → later = .blockNumber
  failsLast : Unbroken exchanges

/-! ## The order of the stages -/

theorem PriceSettled.requests {gasPrice price : Datum} {exchanges : List Exchange}
    (settled : PriceSettled gasPrice exchanges price) :
    exchanges.map Exchange.request = priceRequests gasPrice := by
  cases settled with
  | asked _ isZero =>
      subst isZero
      rfl
  | given notZero =>
      unfold priceRequests
      split
      · exact absurd rfl notZero
      · rfl

theorem Built.requests {artifact : Bytes} {network : Network} {gasLimit gasPrice : Datum}
    {exchanges : List Exchange} {result : Except Fault DeploymentTransaction}
    (built : Built artifact network gasLimit gasPrice exchanges result) :
    exchanges.map Exchange.request <+: priceRequests gasPrice := by
  cases built with
  | refused fault => exact List.nil_prefix
  | unpriced answer fault isZero =>
      subst isZero
      exact List.prefix_refl _
  | built isLimit settled => exact settled.requests ▸ List.prefix_refl _

theorem Submitted.requests {signer : Signer} {transaction : DeploymentTransaction}
    {exchanges : List Exchange} {result : Except Fault PendingDeployment}
    (submitted : Submitted signer transaction exchanges result) :
    ∃ raw, exchanges.map Exchange.request <+:
      [.transactionCount (.text signer.address), .sendRawTransaction raw] := by
  cases submitted with
  | uncounted fault => exact ⟨[], [.sendRawTransaction []], rfl⟩
  | unsigned nonce fault => exact ⟨[], [.sendRawTransaction []], rfl⟩
  | @sent _ signed _ _ isSigned isPending => exact ⟨signed.raw, List.prefix_refl _⟩

/-- A submission that leads to a pending deployment is complete, and the deployment is known by the hash that
came back. -/
theorem Submitted.complete {signer : Signer} {transaction : DeploymentTransaction}
    {exchanges : List Exchange} {pending : PendingDeployment}
    (submitted : Submitted signer transaction exchanges (.ok pending)) :
    ∃ nonce raw, exchanges = [⟨.transactionCount (.text signer.address), .ok nonce⟩,
      ⟨.sendRawTransaction raw, .ok pending.txHash⟩] := by
  cases submitted with
  | @sent nonce signed answer _ isSigned isPending =>
      obtain ⟨rfl, _⟩ := isPending pending rfl
      exact ⟨nonce, signed.raw, rfl⟩

section

variable {request : DeploymentRequest} {artifact : Bytes} {network : Network} {signer : Signer}
  {exchanges : List Exchange}

/-- The requests of a conversation are a beginning of the full order. -/
theorem Conversed.begins (conversed : Conversed request artifact network signer exchanges) :
    ∃ raw hash receiptPolls heightPolls, exchanges.map Exchange.request <+:
      request.fullOrder signer.address raw hash receiptPolls heightPolls := by
  cases conversed with
  | unbuilt built =>
      exact ⟨[], .null, 0, 0, built.requests.trans (List.prefix_append _ _)⟩
  | unsubmitted built submitted =>
      rcases submitted.requests with ⟨raw, begins⟩
      refine ⟨raw, .null, 0, 0, ?_⟩
      rw [List.map_append, built.settled.requests]
      exact (List.prefix_append_right_inj _).mpr (begins.trans (List.prefix_append _ _))
  | @tracked _ _ receipts heights _ pending built submitted followed =>
      rcases submitted.complete with ⟨nonce, raw, rfl⟩
      refine ⟨raw, pending.txHash, receipts.length, heights.length, ?_⟩
      rw [List.map_append, built.settled.requests, List.map_append, followed.requests]
      exact List.prefix_refl _

/-- Building polls for nothing. -/
theorem Built.not_isPoll {gasLimit gasPrice : Datum} {result : Except Fault DeploymentTransaction}
    (built : Built artifact network gasLimit gasPrice exchanges result) :
    ∀ exchange ∈ exchanges, exchange.request.isPoll = false := by
  intro exchange mem
  rw [built.pricesOnly exchange mem]
  rfl

/-- Submitting polls for nothing. -/
theorem Submitted.not_isPoll {transaction : DeploymentTransaction}
    {result : Except Fault PendingDeployment}
    (submitted : Submitted signer transaction exchanges result) :
    ∀ exchange ∈ exchanges, exchange.request.isPoll = false := by
  cases submitted <;> simp [Request.isPoll]

/-- A part that polls for nothing brings no receipt. -/
theorem firstMined_of_unpolled (unpolled : ∀ exchange ∈ exchanges, exchange.request.isPoll = false) :
    firstMined exchanges = none := by
  apply Tracker.firstMined_of_noReceipts
  intro exchange mem other isReceipt
  simpa [isReceipt, Request.isPoll] using unpolled exchange mem

section

variable {before receipts heights : List Exchange} {hash confirmations : Datum}

/-- After a part that polls for nothing, tracking asks for receipts by its own hash only. -/
theorem Followed.hash_eq (followed : Followed hash confirmations receipts heights)
    (unpolled : ∀ exchange ∈ before, exchange.request.isPoll = false) {other : Datum}
    (asked : .transactionReceipt other ∈ (before ++ (receipts ++ heights)).map Exchange.request) :
    other = hash := by
  rcases List.mem_map.mp asked with ⟨exchange, mem, isReceipt⟩
  simp only [List.mem_append] at mem
  rcases mem with inBefore | inReceipts | inHeights
  · simpa [isReceipt, Request.isPoll] using unpolled exchange inBefore
  · simpa [isReceipt] using followed.receiptsOnly exchange inReceipts
  · simpa [isReceipt] using followed.heightsOnly exchange inHeights

/-- After a part that polls for nothing, tracking asks for heights only as it should. -/
theorem Followed.wanted_of_mem (followed : Followed hash confirmations receipts heights)
    (unpolled : ∀ exchange ∈ before, exchange.request.isPoll = false)
    (asked : .blockNumber ∈ (before ++ (receipts ++ heights)).map Exchange.request) :
    confirmations.isPositive = true ∧ ∃ receipt,
      firstMined (before ++ (receipts ++ heights)) = some receipt ∧ receipt.succeeded = true := by
  have nothing := firstMined_of_unpolled unpolled
  have counted : heights ≠ [] := by
    rintro rfl
    rcases List.mem_map.mp asked with ⟨exchange, mem, isHeight⟩
    simp only [List.append_nil, List.mem_append] at mem
    rcases mem with inBefore | inReceipts
    · simpa [isHeight, Request.isPoll] using unpolled exchange inBefore
    · simpa [isHeight] using followed.receiptsOnly exchange inReceipts
  rcases followed.wanted counted with ⟨wanted, receipt, isFirst, succeeded⟩
  exact ⟨wanted, receipt, by simp [nothing, isFirst], succeeded⟩

end

/-- Receipts are asked for by the hash that came back, and the height only for a successful receipt. -/
theorem Conversed.polls (conversed : Conversed request artifact network signer exchanges) :
    (∀ hash, .transactionReceipt hash ∈ exchanges.map Exchange.request →
      ∃ raw, ⟨.sendRawTransaction raw, .ok hash⟩ ∈ exchanges) ∧
    (.blockNumber ∈ exchanges.map Exchange.request → request.confirmations.isPositive = true ∧
      ∃ receipt, firstMined exchanges = some receipt ∧ receipt.succeeded = true) := by
  have unasked (unpolled : ∀ exchange ∈ exchanges, exchange.request.isPoll = false)
      (polled : Request) (isPoll : polled.isPoll = true) :
      polled ∉ exchanges.map Exchange.request := by
    intro asked
    rcases List.mem_map.mp asked with ⟨exchange, mem, rfl⟩
    simp [unpolled exchange mem] at isPoll
  cases conversed with
  | unbuilt built =>
      have unasked := unasked built.not_isPoll
      exact ⟨fun hash asked => absurd asked (unasked _ rfl), fun asked => absurd asked (unasked _ rfl)⟩
  | unsubmitted built submitted =>
      have unasked := unasked fun exchange mem => (List.mem_append.mp mem).elim
        (built.not_isPoll exchange) (submitted.not_isPoll exchange)
      exact ⟨fun hash asked => absurd asked (unasked _ rfl), fun asked => absurd asked (unasked _ rfl)⟩
  | @tracked priced sent receipts heights _ pending built submitted followed =>
      have unpolled : ∀ exchange ∈ priced ++ sent, exchange.request.isPoll = false :=
        fun exchange mem => (List.mem_append.mp mem).elim
          (built.not_isPoll exchange) (submitted.not_isPoll exchange)
      rw [← List.append_assoc]
      constructor
      · intro hash asked
        obtain rfl := followed.hash_eq unpolled asked
        rcases submitted.complete with ⟨nonce, raw, rfl⟩
        exact ⟨raw, by simp⟩
      · exact followed.wanted_of_mem unpolled

end

/-! ## The order of the whole -/

section

variable {request : DeploymentRequest} {address : String} {raw : Bytes} {hash : Datum}
  {receiptPolls heightPolls : Nat} {requests : List Request}

theorem sendsOnce_of_begins
    (begins : requests <+: request.fullOrder address raw hash receiptPolls heightPolls) :
    requests.countP Request.isSend ≤ 1 := by
  have priced : (priceRequests request.gasPrice).countP Request.isSend = 0 := by
    simp only [priceRequests]
    split <;> rfl
  apply begins.sublist.countP_le.trans
  simp [DeploymentRequest.fullOrder, priced, Request.isSend, List.countP_cons, List.countP_replicate]

theorem receiptsFirst_of_begins
    (begins : requests <+: request.fullOrder address raw hash receiptPolls heightPolls) :
    requests.Pairwise fun earlier later => earlier = .blockNumber → later = .blockNumber := by
  have noHeight : ∀ earlier ∈ priceRequests request.gasPrice ++
      ([.transactionCount (.text address), .sendRawTransaction raw] ++
        List.replicate receiptPolls (.transactionReceipt hash)), earlier ≠ .blockNumber := by
    simp only [List.mem_append, List.mem_replicate]
    rintro earlier (priced | submitted | ⟨_, rfl⟩)
    · simp only [priceRequests] at priced
      split at priced <;> simp_all
    · rintro rfl
      simp at submitted
    · simp
  apply List.Pairwise.sublist begins.sublist
  rw [DeploymentRequest.fullOrder, ← List.append_assoc, ← List.append_assoc, List.append_assoc _ [_, _],
    List.pairwise_append]
  refine ⟨?_, by simp, ?_⟩
  · apply List.pairwise_of_forall_mem_list
    intro earlier mem later _ isHeight
    exact absurd isHeight (noHeight earlier mem)
  · intro earlier mem later _ isHeight
    exact absurd isHeight (noHeight earlier mem)

end

namespace DeploymentRequest

/-- Every deployment keeps the order of a deployment. -/
theorem deploy_orderly (request : DeploymentRequest) (source : ClientSource σ)
    (tracker : Option Tracker) (world : World σ) :
    (request.deploy source tracker).Yields world fun added _ _ =>
      Orderly request (requestsOf added) (exchangesOf added) := by
  apply ((request.relays_deploy tracker source world).and
    (request.deploy_staged source tracker)).mono
  rintro added result final ⟨relayed, staged⟩
  rw [relayed.paired]
  have unbroken := relayed.unbroken
  generalize exchangesOf added = exchanges at unbroken staged ⊢
  cases staged with
  | unopened =>
      refine ⟨rfl, ⟨"", [], .null, 0, 0, List.nil_prefix, by simp⟩, ?_, ?_, ?_, ?_, unbroken⟩ <;> simp
  | @opened _ network signer _ isRead isSelected isSigner conversed =>
      rcases conversed.begins with ⟨raw, hash, receiptPolls, heightPolls, begins⟩
      exact {
        heard := rfl
        begins := ⟨_, raw, hash, receiptPolls, heightPolls, begins,
          fun _ => ⟨signer.privateKey, (ofKey_eq_ok isSigner).1, rfl⟩⟩
        followsSent := conversed.polls.1
        heightsWanted := conversed.polls.2
        sendsOnce := sendsOnce_of_begins begins
        receiptsFirst := receiptsFirst_of_begins begins
        failsLast := unbroken }

end DeploymentRequest

end WasmDeploy
