import WasmDeploy.Proofs.Deployment.Submission

/-!
# The gas of a transaction

This file tells how the gas of a transaction comes about. Whatever the caller gives has to be an unsigned integer
of 64 bits, the limit above zero, or nothing is asked of the endpoint. A price of zero stands for the endpoint's
own, and that one is taken as it comes: a transaction has a price of 64 bits if and only if the endpoint has named
no other.
-/

namespace WasmDeploy

open Run

variable {σ : Type}

/-! ## Gas that is refused -/

/-- A fault refuses what the caller gives as gas: it is invalid, or an integer that no message can show. -/
def Fault.RefusesGas (gasLimit gasPrice : Datum) (fault : Fault) : Prop :=
  (∃ cause, fault = .of cause ∧ cause.kind = .validation) ∨
    fault = .defect .tooManyDigits ∧ (gasLimit.isShowable = false ∨ gasPrice.isShowable = false)

theorem GasParameter.read_eq_error {parameter : GasParameter} {value : Datum} {fault : Fault}
    (isRefused : parameter.read value = .error fault) :
    (∃ cause, fault = .of cause ∧ cause.kind = .validation) ∨
      fault = .defect .tooManyDigits ∧ value.isShowable = false := by
  simp only [GasParameter.read] at isRefused
  split at isRefused
  · split at isRefused
    · cases isRefused
    · exact (refuse_eq_error isRefused).imp_left fun failed => ⟨_, failed, rfl⟩
  · exact (refuse_eq_error isRefused).imp_left fun failed => ⟨_, failed, rfl⟩

theorem readGas_eq_error {gasLimit gasPrice : Datum} {fault : Fault}
    (isRefused : readGas gasLimit gasPrice = .error fault) : fault.RefusesGas gasLimit gasPrice := by
  rw [readGas] at isRefused
  rcases isLimit : GasParameter.limit.read gasLimit with first | limit
  · rw [isLimit] at isRefused
    cases isRefused
    exact (GasParameter.read_eq_error isLimit).imp_right fun unshown => ⟨unshown.1, .inl unshown.2⟩
  rcases isPrice : GasParameter.price.read gasPrice with second | price
  · rw [isLimit, isPrice] at isRefused
    cases isRefused
    exact (GasParameter.read_eq_error isPrice).imp_right fun unshown => ⟨unshown.1, .inr unshown.2⟩
  · rw [isLimit, isPrice] at isRefused
    simp only [bind, Except.bind] at isRefused
    split at isRefused
    · cases isRefused
      exact .inl ⟨_, rfl, rfl⟩
    · cases isRefused

/-! ## Gas that is accepted -/

theorem AcceptsGas.unique {gasLimit gasPrice : Datum} {limit price limit' price' : Nat}
    (accepts : AcceptsGas gasLimit gasPrice limit price) (accepts' : AcceptsGas gasLimit gasPrice limit' price') :
    limit' = limit ∧ price' = price := by
  have sameLimit := Datum.int.inj (accepts.isLimit.1.symm.trans accepts'.isLimit.1)
  have samePrice := Datum.int.inj (accepts.isPrice.1.symm.trans accepts'.isPrice.1)
  omega

/-- What building a transaction comes to: gas that is not accepted ends it before anything is asked, a price that
the caller gives is kept, and one that the endpoint is asked for is taken as it comes. What is built is for the
network and carries the artifact, with a limit in its bounds, and its price is in bounds exactly when the endpoint
has named none that is not. -/
structure BuildsAsPriced (artifact : Bytes) (network : Network) (gasLimit gasPrice : Datum)
    (exchanges : List Exchange) (result : Except Fault DeploymentTransaction) : Prop where
  refused : (∀ limit price, ¬AcceptsGas gasLimit gasPrice limit price) →
    exchanges = [] ∧ ∃ fault, result = .error fault ∧ fault.RefusesGas gasLimit gasPrice
  given : ∀ limit price, AcceptsGas gasLimit gasPrice limit price → price ≠ 0 →
    exchanges = [] ∧ result = .ok ⟨.int network.chainId, .bytes artifact, .int limit, .int price⟩
  asked : ∀ limit, AcceptsGas gasLimit gasPrice limit 0 →
    ∃ answer, exchanges = [⟨.gasPrice, answer⟩] ∧ (∀ fault, answer = .error fault → result = .error fault) ∧
      ∀ price, answer = .ok price → result =
        .ok ⟨.int network.chainId, .bytes artifact, .int limit, price⟩
  returned : ∀ transaction, result = .ok transaction →
    transaction.chainId = .int network.chainId ∧ transaction.payload = .bytes artifact ∧
      ∃ limit, transaction.gasLimit.IsWord limit ∧ 1 ≤ limit
  bounded : ∀ transaction, result = .ok transaction →
    ((∃ price, transaction.gasPrice.IsWord price) ↔
      ∀ answer, ⟨.gasPrice, .ok answer⟩ ∈ exchanges → ∃ price, answer.IsWord price)

section

variable {artifact : Bytes} {network : Network} {gasLimit gasPrice : Datum}

theorem buildsAsPriced_of_refused {fault : Fault} (isRefused : readGas gasLimit gasPrice = .error fault) :
    BuildsAsPriced artifact network gasLimit gasPrice [] (.error fault) := by
  have notAccepted limit price : ¬AcceptsGas gasLimit gasPrice limit price := by
    intro accepts
    cases isRefused.symm.trans (readGas_eq_ok_iff.mpr ⟨limit, price, rfl, accepts⟩)
  exact {
    refused := fun _ => ⟨rfl, fault, rfl, readGas_eq_error isRefused⟩
    given := fun limit price accepts => absurd accepts (notAccepted limit price)
    asked := fun limit accepts => absurd accepts (notAccepted limit 0)
    returned := by rintro _ ⟨⟩
    bounded := by rintro _ ⟨⟩ }

theorem AcceptsGas.buildsAsPriced_given {limit price : Nat} (accepts : AcceptsGas gasLimit gasPrice limit price)
    (nonzero : price ≠ 0) :
    BuildsAsPriced artifact network gasLimit gasPrice []
      (.ok ⟨.int network.chainId, .bytes artifact, .int limit, .int price⟩) where
  refused notAccepted := absurd accepts (notAccepted limit price)
  given := by
    intro limit' price' accepts' _
    obtain ⟨rfl, rfl⟩ := accepts.unique accepts'
    exact ⟨rfl, rfl⟩
  asked limit' accepts' := absurd (accepts.unique accepts').2.symm nonzero
  returned := by
    rintro _ ⟨⟩
    exact ⟨rfl, rfl, limit, ⟨rfl, accepts.isLimit.2⟩, accepts.positive⟩
  bounded := by
    rintro _ ⟨⟩
    exact ⟨by simp, fun _ => ⟨price, rfl, accepts.isPrice.2⟩⟩

theorem AcceptsGas.buildsAsPriced_asked {limit : Nat} (accepts : AcceptsGas gasLimit gasPrice limit 0)
    (answer : Except Fault Datum) :
    BuildsAsPriced artifact network gasLimit gasPrice [⟨.gasPrice, answer⟩]
      (answer.map fun price => ⟨.int network.chainId, .bytes artifact, .int limit, price⟩) where
  refused notAccepted := absurd accepts (notAccepted limit 0)
  given limit' price' accepts' nonzero := absurd (accepts.unique accepts').2 nonzero
  asked := by
    intro limit' accepts'
    obtain ⟨rfl, -⟩ := accepts.unique accepts'
    refine ⟨answer, rfl, ?_, ?_⟩
    · rintro fault rfl
      rfl
    · rintro price rfl
      rfl
  returned := by
    intro transaction isBuilt
    rcases map_eq_ok isBuilt with ⟨price, _, rfl⟩
    exact ⟨rfl, rfl, limit, ⟨rfl, accepts.isLimit.2⟩, accepts.positive⟩
  bounded := by
    intro transaction isBuilt
    rcases map_eq_ok isBuilt with ⟨price, rfl, rfl⟩
    constructor
    · intro isWord other mem
      cases List.mem_singleton.mp mem
      exact isWord
    · intro areWords
      exact areWords price (List.mem_singleton_self _)

end

/-- Building a transaction uses gas as the caller or the endpoint prices it. -/
theorem buildTransaction_asPriced (client : Client σ) (artifact : Bytes) (network : Network)
    (gasLimit gasPrice : Datum) (world : World σ) :
    (buildTransaction client artifact network gasLimit gasPrice).Yields world fun added result _ =>
      BuildsAsPriced artifact network gasLimit gasPrice (exchangesOf added) result := by
  apply (buildTransaction_priced client artifact network gasLimit gasPrice).mono
  intro added result final priced
  generalize exchangesOf added = exchanges at priced
  cases priced with
  | refused isRefused => exact buildsAsPriced_of_refused isRefused
  | given accepts nonzero => exact accepts.buildsAsPriced_given nonzero
  | asked accepts answer => exact accepts.buildsAsPriced_asked answer

/-- A client that answers every question for the gas price with one price, and fails otherwise. -/
def pricingClient (price : Int) : Client Unit :=
  .direct fun request state =>
    match request with
    | .gasPrice => (.ok (.int price), state)
    | _ => (.error .unfinished, state)

/-- Not every price that is used has 64 bits: the endpoint may name one that has more. -/
theorem exists_price_beyond :
    ¬∀ (price : Int) artifact network gasLimit gasPrice world transaction,
      ((buildTransaction (pricingClient price) artifact network gasLimit gasPrice).outcome world).1 =
          .ok transaction →
        ∃ word, transaction.gasPrice.IsWord word := by
  intro bounded
  have isNamed : (match ((buildTransaction (pricingClient (Nat.pow 2 64)) Artifact.magic .localNode (.int 30000000)
      (.int 0)).outcome (World.steady 0 0)).1 with
    | .ok transaction => transaction.gasPrice.integer? == some (Nat.pow 2 64)
    | .error _ => false) = true := by decide +kernel
  split at isNamed
  · next transaction isBuilt =>
    rcases bounded _ _ _ _ _ _ _ isBuilt with ⟨word, isWord, fits⟩
    have isBeyond : (word : Int) = Nat.pow 2 64 := by simpa [isWord, Datum.integer?] using isNamed
    omega
  · cases isNamed

end WasmDeploy
