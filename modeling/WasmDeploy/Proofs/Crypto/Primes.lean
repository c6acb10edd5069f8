import Mathlib.FieldTheory.Finite.Basic
import Mathlib.Tactic.NormNum.Prime
import WasmDeploy.Crypto.Secp256k1

/-!
# The two primes of the curve

This file shows that the modulus of the field and the order of the generator are prime. A number is prime if some
power modulo it has an order that divides the number less one and is at least its square root: the order modulo the
least prime factor is the same, and it is below that factor. A certificate gives the prime factors of the order, which
have certificates of their own, down to primes that are found by trial division.
-/

namespace WasmDeploy.Crypto

/-! ## Powers modulo a number -/

/-- A power modulo a number, by squaring. -/
def powerModulo (modulus base exponent : Nat) : Nat :=
  if exponent = 0 then 1 % modulus
  else
    let root := powerModulo modulus base (exponent / 2)
    let square := root * root % modulus
    if exponent % 2 = 0 then square else square * base % modulus
termination_by exponent
decreasing_by omega

theorem powerModulo_eq (modulus base exponent : Nat) :
    powerModulo modulus base exponent = base ^ exponent % modulus := by
  induction exponent using powerModulo.induct modulus base with
  | case1 => simp [powerModulo]
  | case2 exponent positive isEven ih =>
      have halves : exponent / 2 + exponent / 2 = exponent := by omega
      rw [powerModulo, if_neg positive, if_pos isEven, ih, ← Nat.mul_mod, ← pow_add, halves]
  | case3 exponent positive isOdd ih =>
      have halves : exponent / 2 + exponent / 2 + 1 = exponent := by omega
      rw [powerModulo, if_neg positive, if_neg isOdd, ih, ← Nat.mul_mod, ← pow_add, Nat.mod_mul_mod,
        ← pow_succ, halves]

/-! ## Primality from an order -/

section

variable {number witness order : Nat}

/-- Reducing modulo a number changes nothing modulo a divisor of it. -/
theorem cast_mod_of_dvd {divisor : Nat} (divides : divisor ∣ number) (value : Nat) :
    ((value % number : Nat) : ZMod divisor) = value := by
  rw [ZMod.natCast_eq_natCast_iff', Nat.mod_mod_of_dvd value divides]

/-- A power has the same order modulo every prime factor of a number if none of its smaller powers is one modulo any of
them. -/
theorem orderOf_of_coprime {divisor : Nat} (isPrime : divisor.Prime) (divides : divisor ∣ number)
    (large : 1 < number) (orderDivides : order ∣ number - 1)
    (isOne : witness ^ (number - 1) % number = 1)
    (notOne : ∀ factor, factor.Prime → factor ∣ order →
      (witness ^ ((number - 1) / factor) % number + (number - 1)).Coprime number) :
    orderOf ((witness : ZMod divisor) ^ ((number - 1) / order)) = order := by
  have positive : 0 < order := Nat.pos_of_dvd_of_pos orderDivides (by omega)
  have isFact : Fact divisor.Prime := ⟨isPrime⟩
  apply orderOf_eq_of_pow_and_pow_div_prime positive
  · rw [← pow_mul, Nat.div_mul_cancel orderDivides, ← Nat.cast_pow, ← cast_mod_of_dvd divides, isOne,
      Nat.cast_one]
  · intro factor factorPrime factorDivides isOneBelow
    have exponent : (number - 1) / order * (order / factor) = (number - 1) / factor := by
      rw [Nat.div_mul_div_comm orderDivides factorDivides, mul_comm order,
        Nat.mul_div_mul_right _ _ positive]
    rw [← pow_mul, exponent, ← Nat.cast_pow, ← cast_mod_of_dvd divides] at isOneBelow
    -- The power less one would be a multiple of the divisor, which is coprime to it.
    apply isPrime.not_dvd_one
    rw [← notOne factor factorPrime factorDivides]
    refine Nat.dvd_gcd ((ZMod.natCast_eq_zero_iff _ _).mp ?_) divides
    rw [Nat.cast_add, isOneBelow, ← Nat.cast_one, ← Nat.cast_add, Nat.add_sub_cancel' large.le]
    exact (ZMod.natCast_eq_zero_iff _ _).mpr divides

/-- A number is prime if its predecessor has a divisor, not below its square root, that is the order of a power
modulo it. -/
theorem prime_of_order (large : 1 < number) (orderDivides : order ∣ number - 1)
    (enough : number ≤ order * order) (isOne : witness ^ (number - 1) % number = 1)
    (notOne : ∀ factor, factor.Prime → factor ∣ order →
      (witness ^ ((number - 1) / factor) % number + (number - 1)).Coprime number) :
    number.Prime := by
  by_contra notPrime
  have leastPrime : number.minFac.Prime := Nat.minFac_prime large.ne'
  have leastSquare : number.minFac ^ 2 ≤ number := Nat.minFac_sq_le_self (by omega) notPrime
  have isFact : Fact number.minFac.Prime := ⟨leastPrime⟩
  have isOrder := orderOf_of_coprime leastPrime number.minFac_dvd large orderDivides isOne notOne
  have positive : 0 < order := Nat.pos_of_dvd_of_pos orderDivides (by omega)
  have notZero : (witness : ZMod number.minFac) ^ ((number - 1) / order) ≠ 0 := by
    intro isZero
    rw [isZero, orderOf_zero] at isOrder
    omega
  have below : order < number.minFac := by
    have divides : order ∣ number.minFac - 1 := isOrder ▸ ZMod.orderOf_dvd_card_sub_one notZero
    have atMost := Nat.le_of_dvd (Nat.sub_pos_of_lt leastPrime.one_lt) divides
    omega
  have squares : order * order < number.minFac * number.minFac := Nat.mul_lt_mul'' below below
  rw [sq] at leastSquare
  omega

end

/-! ## Certificates -/

/-- A number, a base of powers modulo it, and the prime factors of the order of one of them. -/
structure PrimeCertificate where
  number : Nat
  witness : Nat
  factors : List Nat

namespace PrimeCertificate

/-- Whether a certificate holds, once some numbers are known to be prime. -/
def holds (known : List Nat) (certificate : PrimeCertificate) : Bool :=
  let number := certificate.number
  let order := certificate.factors.prod
  1 < number && (number - 1) % order == 0 && number ≤ order * order &&
    powerModulo number certificate.witness (number - 1) == 1 &&
    certificate.factors.all fun factor => known.contains factor &&
      (powerModulo number certificate.witness ((number - 1) / factor) + (number - 1)).gcd number == 1

/-- Whether certificates hold one after the other. -/
def allHold : (known : List Nat) → List PrimeCertificate → Bool
  | _, [] => true
  | known, certificate :: rest =>
      certificate.holds known && allHold (certificate.number :: known) rest

variable {known : List Nat}

theorem prime_of_holds (knownPrime : ∀ number ∈ known, number.Prime) {certificate : PrimeCertificate}
    (holding : certificate.holds known = true) : certificate.number.Prime := by
  simp only [holds, Bool.and_eq_true, decide_eq_true_eq, beq_iff_eq, List.all_eq_true,
    powerModulo_eq, List.contains_iff_mem] at holding
  obtain ⟨⟨⟨⟨large, divides⟩, enough⟩, isOne⟩, factors⟩ := holding
  apply prime_of_order large (Nat.dvd_of_mod_eq_zero divides) enough isOne
  intro factor isPrime factorDivides
  rcases (Prime.dvd_prod_iff isPrime.prime).mp factorDivides with ⟨listed, mem, listedDivides⟩
  have same : factor = listed :=
    (Nat.prime_dvd_prime_iff_eq isPrime (knownPrime listed (factors listed mem).1)).mp listedDivides
  rw [same]
  exact (factors listed mem).2

theorem prime_of_allHold {certificates : List PrimeCertificate}
    (knownPrime : ∀ number ∈ known, number.Prime) (holding : allHold known certificates = true) :
    ∀ number ∈ certificates.map PrimeCertificate.number, number.Prime := by
  induction certificates generalizing known with
  | nil => simp
  | cons certificate rest ih =>
      simp only [allHold, Bool.and_eq_true] at holding
      have isPrime := prime_of_holds knownPrime holding.1
      rw [List.map_cons, List.forall_mem_cons]
      exact ⟨isPrime, ih (List.forall_mem_cons.mpr ⟨isPrime, knownPrime⟩) holding.2⟩

end PrimeCertificate

namespace Secp256k1

/-- Primes that are found by trial division. -/
def smallPrimes : List Nat :=
  [28181, 96557, 120233, 1627771, 7240687, 44706919, 107590001]

theorem prime_of_mem_smallPrimes : ∀ number ∈ smallPrimes, number.Prime := by
  norm_num [smallPrimes]

/-- The certificates of the two primes, after those of the primes that they rest on. -/
def primeCertificates : List PrimeCertificate :=
  [⟨545358713, 2, [28181]⟩,
    ⟨297159362677, 2, [1627771]⟩,
    ⟨29047611873442575647497758179, 2, [297159362677, 545358713]⟩,
    ⟨341948486974166000522343609283189, 2, [29047611873442575647497758179]⟩,
    ⟨174723607534414371449, 2, [44706919, 120233]⟩,
    ⟨order, 2, [341948486974166000522343609283189, 174723607534414371449]⟩,
    ⟨255515944373312847190720520512484175977, 2, [107590001, 7240687, 96557]⟩,
    ⟨205115282021455665897114700593932402728804164701536103180137503955397371, 2,
      [255515944373312847190720520512484175977]⟩,
    ⟨fieldPrime, 2, [205115282021455665897114700593932402728804164701536103180137503955397371]⟩]

theorem allHold_primeCertificates : PrimeCertificate.allHold smallPrimes primeCertificates = true := by
  decide +kernel

theorem prime_fieldPrime : fieldPrime.Prime :=
  PrimeCertificate.prime_of_allHold prime_of_mem_smallPrimes allHold_primeCertificates fieldPrime
    (by simp [primeCertificates])

theorem prime_order : order.Prime :=
  PrimeCertificate.prime_of_allHold prime_of_mem_smallPrimes allHold_primeCertificates order
    (by simp [primeCertificates])

end Secp256k1

end WasmDeploy.Crypto
