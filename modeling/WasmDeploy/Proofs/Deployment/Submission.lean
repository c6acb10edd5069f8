import WasmDeploy.Deployment
import WasmDeploy.Proofs.Conversation
import WasmDeploy.Proofs.Defects

/-!
# What building and submitting can do

This file says once what the two stages before tracking can ask of the endpoint and what they hand on: building
asks for the gas price at most, and submitting asks for the count of transactions and then sends one transaction
at most.
-/

namespace WasmDeploy

open Run

variable {σ : Type} {world : World σ}

/-- How the gas price is settled: a price of zero asks the endpoint for its own, any other is kept. -/
inductive PriceSettled (gasPrice : Datum) : List Exchange → Datum → Prop where
  | asked (price : Datum) (isZero : gasPrice = .int 0) :
      PriceSettled gasPrice [⟨.gasPrice, .ok price⟩] price
  | given (notZero : gasPrice ≠ .int 0) : PriceSettled gasPrice [] gasPrice

/-- A value is an unsigned integer of 64 bits. -/
def Datum.IsWord (value : Datum) (number : Nat) : Prop :=
  value = .int number ∧ number < Nat.pow 2 64

/-- A limit and a price that are accepted as gas: unsigned integers of 64 bits, the limit above zero. -/
structure AcceptsGas (gasLimit gasPrice : Datum) (limit price : Nat) : Prop where
  isLimit : gasLimit.IsWord limit
  isPrice : gasPrice.IsWord price
  positive : 0 < limit

/-- The ends of building a transaction, by who prices it: gas that is refused is not priced at all, a price other
than zero is the caller's, and for a price of zero the endpoint is asked. -/
inductive Priced (artifact : Bytes) (network : Network) (gasLimit gasPrice : Datum) :
    List Exchange → Except Fault DeploymentTransaction → Prop where
  | refused {fault : Fault} (isRefused : readGas gasLimit gasPrice = .error fault) :
      Priced artifact network gasLimit gasPrice [] (.error fault)
  | given {limit price : Nat} (accepts : AcceptsGas gasLimit gasPrice limit price) (nonzero : price ≠ 0) :
      Priced artifact network gasLimit gasPrice []
        (.ok ⟨.int network.chainId, .bytes artifact, .int limit, .int price⟩)
  | asked {limit : Nat} (accepts : AcceptsGas gasLimit gasPrice limit 0) (answer : Except Fault Datum) :
      Priced artifact network gasLimit gasPrice [⟨.gasPrice, answer⟩]
        (answer.map fun price => ⟨.int network.chainId, .bytes artifact, .int limit, price⟩)

/-- The ends of building a transaction. No request is made before the gas is found valid, and a transaction that
is built has the limit asked for and a price that is settled. -/
inductive Built (artifact : Bytes) (network : Network) (gasLimit gasPrice : Datum) :
    List Exchange → Except Fault DeploymentTransaction → Prop where
  | refused (fault : Fault) : Built artifact network gasLimit gasPrice [] (.error fault)
  | unpriced (answer : Except Fault Datum) (fault : Fault) (isZero : gasPrice = .int 0) :
      Built artifact network gasLimit gasPrice [⟨.gasPrice, answer⟩] (.error fault)
  | built {exchanges : List Exchange} {price : Datum} {limit : Nat}
      (isLimit : gasLimit = .int limit) (settled : PriceSettled gasPrice exchanges price) :
      Built artifact network gasLimit gasPrice exchanges
        (.ok ⟨.int network.chainId, .bytes artifact, gasLimit, price⟩)

theorem Built.chainId {artifact : Bytes} {network : Network} {gasLimit gasPrice : Datum}
    {exchanges : List Exchange} {transaction : DeploymentTransaction}
    (built : Built artifact network gasLimit gasPrice exchanges (.ok transaction)) :
    transaction.chainId = .int network.chainId := by
  cases built
  rfl

theorem Built.gasLimit {artifact : Bytes} {network : Network} {gasLimit gasPrice : Datum}
    {exchanges : List Exchange} {transaction : DeploymentTransaction}
    (built : Built artifact network gasLimit gasPrice exchanges (.ok transaction)) :
    transaction.gasLimit = gasLimit ∧ ∃ limit : Nat, gasLimit = .int limit := by
  cases built with
  | built isLimit settled => exact ⟨rfl, _, isLimit⟩

theorem Built.settled {artifact : Bytes} {network : Network} {gasLimit gasPrice : Datum}
    {exchanges : List Exchange} {transaction : DeploymentTransaction}
    (built : Built artifact network gasLimit gasPrice exchanges (.ok transaction)) :
    PriceSettled gasPrice exchanges transaction.gasPrice := by
  cases built
  assumption

/-- Building asks for nothing but the gas price. -/
theorem Built.pricesOnly {artifact : Bytes} {network : Network} {gasLimit gasPrice : Datum}
    {exchanges : List Exchange} {result : Except Fault DeploymentTransaction}
    (built : Built artifact network gasLimit gasPrice exchanges result) :
    ∀ exchange ∈ exchanges, exchange.request = .gasPrice := by
  cases built with
  | refused fault => simp
  | unpriced answer fault isZero => simp
  | built isLimit settled => cases settled <;> simp

/-- The ends of submitting a transaction: without a count of transactions, without a signed transaction, or with
one that was sent. -/
inductive Submitted (signer : Signer) (transaction : DeploymentTransaction) :
    List Exchange → Except Fault PendingDeployment → Prop where
  | uncounted (fault : Fault) :
      Submitted signer transaction
        [⟨.transactionCount (.text signer.address), .error fault⟩] (.error fault)
  | unsigned (nonce : Datum) (fault : Fault) :
      Submitted signer transaction
        [⟨.transactionCount (.text signer.address), .ok nonce⟩] (.error fault)
  | sent {nonce : Datum} {signed : SignedTransaction} {answer : Except Fault Datum}
      {result : Except Fault PendingDeployment}
      (isSigned : signer.sign (transaction.fields nonce) = .ok signed)
      (isPending : ∀ pending, result = .ok pending →
        answer = .ok pending.txHash ∧ pending.gasLimit = transaction.gasLimit) :
      Submitted signer transaction
        [⟨.transactionCount (.text signer.address), .ok nonce⟩,
          ⟨.sendRawTransaction signed.raw, answer⟩] result

/-- The ends of submitting a transaction, each with its reason and with the warnings on the way: the transactions
are not counted, the transaction is not signed, the endpoint does not take it, or its hash is compared with the
expected one. -/
inductive Handed (signer : Signer) (transaction : DeploymentTransaction) :
    List Exchange → List Message → Except Fault PendingDeployment → Prop where
  | uncounted (fault : Fault) :
      Handed signer transaction
        [⟨.transactionCount (.text signer.address), .error fault⟩] [] (.error fault)
  | unsigned {nonce : Datum} {fault : Fault}
      (isUnsigned : signer.sign (transaction.fields nonce) = .error fault) :
      Handed signer transaction
        [⟨.transactionCount (.text signer.address), .ok nonce⟩] [] (.error fault)
  | untaken {nonce : Datum} {signed : SignedTransaction}
      (isSigned : signer.sign (transaction.fields nonce) = .ok signed) (fault : Fault) :
      Handed signer transaction
        [⟨.transactionCount (.text signer.address), .ok nonce⟩,
          ⟨.sendRawTransaction signed.raw, .error fault⟩] [] (.error (refusal fault))
  | incomparable {nonce hash : Datum} {signed : SignedTransaction} {fault : Fault}
      (isSigned : signer.sign (transaction.fields nonce) = .ok signed)
      (isIncomparable : confirms hash (Text.hexData signed.hash) = .error fault) :
      Handed signer transaction
        [⟨.transactionCount (.text signer.address), .ok nonce⟩,
          ⟨.sendRawTransaction signed.raw, .ok hash⟩] [] (.error fault)
  | pending {nonce hash : Datum} {signed : SignedTransaction} {isExpected : Bool}
      (isSigned : signer.sign (transaction.fields nonce) = .ok signed)
      (isCompared : confirms hash (Text.hexData signed.hash) = .ok isExpected) :
      Handed signer transaction
        [⟨.transactionCount (.text signer.address), .ok nonce⟩,
          ⟨.sendRawTransaction signed.raw, .ok hash⟩]
        (if isExpected then []
          else [.ok s!"Endpoint returned hash {hash.plain}, locally computed {Text.hexData signed.hash}"])
        (.ok ⟨hash, transaction.gasLimit⟩)

theorem Handed.submitted {signer : Signer} {transaction : DeploymentTransaction} {exchanges : List Exchange}
    {warnings : List Message} {result : Except Fault PendingDeployment}
    (handed : Handed signer transaction exchanges warnings result) :
    Submitted signer transaction exchanges result := by
  cases handed with
  | uncounted fault => exact .uncounted fault
  | unsigned isUnsigned => exact .unsigned _ _
  | untaken isSigned fault => exact .sent isSigned (by simp)
  | incomparable isSigned isIncomparable => exact .sent isSigned (by simp)
  | pending isSigned isCompared => exact .sent isSigned (by simp)

theorem Submitted.gasLimit {signer : Signer} {transaction : DeploymentTransaction}
    {exchanges : List Exchange} {pending : PendingDeployment}
    (submitted : Submitted signer transaction exchanges (.ok pending)) :
    pending.gasLimit = transaction.gasLimit := by
  cases submitted with
  | sent isSigned isPending => exact (isPending pending rfl).2

theorem ofKey_eq_ok {key chainId : Datum} {signer : Signer}
    (isSigner : Signer.ofKey key chainId = .ok signer) :
    Signer.readKey key = .ok signer.privateKey ∧ signer.chainId = chainId := by
  rcases bind_eq_ok isSigner with ⟨privateKey, isRead, made⟩
  cases made
  exact ⟨isRead, rfl⟩

theorem GasParameter.read_eq_ok_iff {parameter : GasParameter} {value : Datum} {number : Int} :
    parameter.read value = .ok number ↔ ∃ word : Nat, number = word ∧ value.IsWord word := by
  have isPower : (Nat.pow 2 64 : Int) = maxUInt64 + 1 := rfl
  constructor
  · intro isRead
    simp only [GasParameter.read] at isRead
    split at isRead
    · split at isRead
      · next bounds =>
        cases isRead
        have isNatural := Int.toNat_of_nonneg bounds.1
        exact ⟨number.toNat, isNatural.symm, by rw [isNatural], by omega⟩
      · exact absurd isRead (Datum.refuse_ne_ok _ _ _)
    · exact absurd isRead (Datum.refuse_ne_ok _ _ _)
  · rintro ⟨word, rfl, rfl, fits⟩
    exact if_pos ⟨by omega, by omega⟩

theorem readGas_eq_ok_iff {gasLimit gasPrice : Datum} {gas : Int × Int} :
    readGas gasLimit gasPrice = .ok gas ↔
      ∃ limit price : Nat, gas = (↑limit, ↑price) ∧ AcceptsGas gasLimit gasPrice limit price := by
  constructor
  · intro isRead
    rcases bind_eq_ok isRead with ⟨_, limitRead, isRead⟩
    rcases bind_eq_ok isRead with ⟨_, priceRead, isRead⟩
    rcases GasParameter.read_eq_ok_iff.mp limitRead with ⟨limit, rfl, isLimit⟩
    rcases GasParameter.read_eq_ok_iff.mp priceRead with ⟨price, rfl, isPrice⟩
    split at isRead
    · cases isRead
    · next positive =>
      cases isRead
      exact ⟨limit, price, rfl, isLimit, isPrice, by omega⟩
  · rintro ⟨limit, price, rfl, isLimit, isPrice, positive⟩
    have limitRead : GasParameter.limit.read gasLimit = .ok (limit : Int) :=
      GasParameter.read_eq_ok_iff.mpr ⟨limit, rfl, isLimit⟩
    have priceRead : GasParameter.price.read gasPrice = .ok (price : Int) :=
      GasParameter.read_eq_ok_iff.mpr ⟨price, rfl, isPrice⟩
    have nonzero : limit ≠ 0 := by omega
    simp [readGas, limitRead, priceRead, nonzero, bind, Except.bind, pure, Except.pure]

theorem settleGasPrice_yields (client : Client σ) (network : Network) (price : Int) :
    (settleGasPrice client network price).Yields world fun added result _ =>
      if price = 0 then exchangesOf added = [⟨.gasPrice, result⟩]
      else exchangesOf added = [] ∧ result = .ok (.int price) := by
  simp only [settleGasPrice]
  split
  · apply yields_record_bind
    apply yields_bind
    apply (client.ask_yields .gasPrice).mono
    rintro added (fault | price) middle asked
    · exact asked.exchanges
    · apply yields_record_bind
      apply yields_pure
      simpa using asked.exchanges
  · apply yields_record_bind
    apply yields_pure
    exact ⟨rfl, rfl⟩

theorem buildTransaction_priced (client : Client σ) (artifact : Bytes) (network : Network)
    (gasLimit gasPrice : Datum) :
    (buildTransaction client artifact network gasLimit gasPrice).Yields world fun added result _ =>
      Priced artifact network gasLimit gasPrice (exchangesOf added) result := by
  apply yields_lift_bind
  · intro fault isRefused
    exact .refused isRefused
  intro gas isRead
  rcases readGas_eq_ok_iff.mp isRead with ⟨limit, price, rfl, accepts⟩
  apply yields_bind
  apply (settleGasPrice_yields client network price).mono
  intro added result middle settled
  split at settled
  · next isZero =>
    obtain rfl : price = 0 := by exact_mod_cast isZero
    have priced : Priced artifact network gasLimit gasPrice _ _ := .asked accepts result
    cases result with
    | error fault => rwa [settled]
    | ok price =>
        apply yields_pure
        rwa [List.append_nil, settled]
  · next nonzero =>
    rcases settled with ⟨unasked, rfl⟩
    apply yields_pure
    rw [List.append_nil, unasked]
    exact .given accepts (by exact_mod_cast nonzero)

theorem Priced.built {artifact : Bytes} {network : Network} {gasLimit gasPrice : Datum}
    {exchanges : List Exchange} {result : Except Fault DeploymentTransaction}
    (priced : Priced artifact network gasLimit gasPrice exchanges result) :
    Built artifact network gasLimit gasPrice exchanges result := by
  cases priced with
  | refused isRefused => exact .refused _
  | given accepts nonzero =>
      have notZero : gasPrice ≠ .int 0 := by simpa [accepts.isPrice.1] using nonzero
      rw [← accepts.isLimit.1, ← accepts.isPrice.1]
      exact .built accepts.isLimit.1 (.given notZero)
  | asked accepts answer =>
      cases answer with
      | error fault => exact .unpriced _ fault accepts.isPrice.1
      | ok price =>
          rw [← accepts.isLimit.1]
          exact .built accepts.isLimit.1 (.asked price accepts.isPrice.1)

theorem buildTransaction_yields (client : Client σ) (artifact : Bytes) (network : Network)
    (gasLimit gasPrice : Datum) :
    (buildTransaction client artifact network gasLimit gasPrice).Yields world fun added result _ =>
      Built artifact network gasLimit gasPrice (exchangesOf added) result :=
  (buildTransaction_priced client artifact network gasLimit gasPrice).mono fun _ _ _ => Priced.built

theorem send_yields (client : Client σ) (raw : Bytes) :
    (send client raw).Yields world fun added result _ =>
      ∃ answer, exchangesOf added = [⟨.sendRawTransaction raw, answer⟩] ∧ warningsOf added = [] ∧
        ((∃ fault, answer = .error fault ∧ result = .error (refusal fault)) ∨
          ∃ hash, answer = .ok hash ∧ result = .ok hash) := by
  apply yields_tryCatch
  apply ((client.ask_yields (.sendRawTransaction raw)).and (client.ask_yields_silently _)).mono
  rintro added (fault | hash) middle ⟨asked, silent⟩
  · apply yields_throw
    rw [List.append_nil]
    exact ⟨_, asked.exchanges, silent, .inl ⟨fault, rfl, rfl⟩⟩
  · exact ⟨_, asked.exchanges, silent, .inr ⟨hash, rfl, rfl⟩⟩

theorem warnOfHash_yields (hash : Datum) (expected : String) (isExpected : Bool) :
    (warnOfHash hash expected isExpected : Run σ Unit).Yields world fun added result _ =>
      exchangesOf added = [] ∧ result = .ok () ∧ warningsOf added =
        if isExpected then [] else [.ok s!"Endpoint returned hash {hash.plain}, locally computed {expected}"] := by
  simp only [warnOfHash]
  split
  · exact yields_pure ⟨rfl, rfl, rfl⟩
  · exact yields_record ⟨rfl, rfl, rfl⟩

theorem submit_handed (client : Client σ) (signer : Signer) (transaction : DeploymentTransaction) :
    (submit client signer transaction).Yields world fun added result _ =>
      Handed signer transaction (exchangesOf added) (warningsOf added) result := by
  apply yields_bind
  apply ((client.ask_yields _).and (client.ask_yields_silently _)).mono
  rintro counted (fault | nonce) middle ⟨asked, silent⟩
  · rw [asked.exchanges, silent]
    exact .uncounted fault
  apply yields_lift_bind
  · intro fault isUnsigned
    rw [List.append_nil, asked.exchanges, silent]
    exact .unsigned isUnsigned
  intro signed isSigned
  apply yields_record_bind
  apply yields_bind
  apply (send_yields client signed.raw).mono
  rintro sent _ last ⟨_, exchanged, unwarned, ⟨fault, rfl, rfl⟩ | ⟨hash, rfl, rfl⟩⟩
  · simpa [asked.exchanges, exchanged, silent, unwarned] using Handed.untaken isSigned fault
  apply yields_lift_bind
  · intro fault isIncomparable
    simpa [asked.exchanges, exchanged, silent, unwarned] using Handed.incomparable isSigned isIncomparable
  intro isExpected isCompared
  apply yields_bind
  apply (warnOfHash_yields _ _ _).mono
  rintro warned _ final ⟨unasked, rfl, warns⟩
  apply yields_record_bind
  apply yields_pure
  simpa [asked.exchanges, exchanged, unasked, silent, unwarned, warns] using Handed.pending isSigned isCompared

theorem submit_yields (client : Client σ) (signer : Signer) (transaction : DeploymentTransaction) :
    (submit client signer transaction).Yields world fun added result _ =>
      Submitted signer transaction (exchangesOf added) result :=
  (submit_handed client signer transaction).mono fun _ _ _ => Handed.submitted

end WasmDeploy
