import Mathlib.AlgebraicGeometry.EllipticCurve.Affine.Point
import WasmDeploy.Proofs.Crypto.Primes
import WasmDeploy.Proofs.Signing

/-!
# The group of the curve

This file shows that the points of the curve, as they are computed, are the group of the curve `y ^ 2 = x ^ 3 + 7`
over the field of the integers modulo a prime: sums, negatives and multiples are those of the group, and a point is
found from its abscissa and the parity of its ordinate.
-/

namespace WasmDeploy.Crypto.Secp256k1

/-! ## Arithmetic modulo a prime -/

instance fact_prime_fieldPrime : Fact fieldPrime.Prime :=
  ⟨prime_fieldPrime⟩

instance fact_prime_order : Fact order.Prime :=
  ⟨prime_order⟩

section

variable {modulus : Nat}

/-- The division steps keep what each remainder is a multiple of. -/
theorem cast_inverseFrom {value current next : Nat} {currentFactor nextFactor : Int}
    (isCurrent : (current : ZMod modulus) = currentFactor * value)
    (isNext : (next : ZMod modulus) = nextFactor * value) :
    (inverseFrom current next currentFactor nextFactor : ZMod modulus) * value =
      (current.gcd next : Nat) := by
  induction current, next, currentFactor, nextFactor using inverseFrom.induct with
  | case1 current currentFactor nextFactor =>
      rw [inverseFrom, if_pos rfl, Nat.gcd_zero_right, isCurrent]
  | case2 current next currentFactor nextFactor positive ih =>
      rw [inverseFrom, if_neg positive, Nat.gcd_comm, Nat.gcd_rec, Nat.gcd_comm]
      apply ih isNext
      have division : (next : ZMod modulus) * (current / next : Nat) + (current % next : Nat) = current := by
        rw [← Nat.cast_mul, ← Nat.cast_add, Nat.div_add_mod]
      rw [Int.cast_sub, Int.cast_mul, Int.cast_natCast]
      linear_combination division + isCurrent - (current / next : Nat) * isNext

theorem cast_inverse [isPrime : Fact modulus.Prime] {value : Nat} (notZero : (value : ZMod modulus) ≠ 0) :
    (inverse value modulus : ZMod modulus) = (value : ZMod modulus)⁻¹ := by
  have positive : (modulus : Int) ≠ 0 := by exact_mod_cast isPrime.out.ne_zero
  have reduced : ((inverse value modulus : Nat) : ZMod modulus) =
      (inverseFrom (value % modulus) modulus 1 0 : ZMod modulus) := by
    rw [inverse, ← Int.cast_natCast, Int.toNat_of_nonneg (Int.emod_nonneg _ positive),
      ZMod.intCast_mod]
  have coprime : (value % modulus).gcd modulus = 1 := by
    rw [← Nat.gcd_rec]
    apply (Nat.Prime.coprime_iff_not_dvd isPrime.out).mpr
    rwa [← ZMod.natCast_eq_zero_iff]
  rw [reduced]
  apply eq_inv_of_mul_eq_one_left
  rw [cast_inverseFrom (by simp) (by simp), coprime, Nat.cast_one]

end

/-- The integers modulo the prime of the field. -/
abbrev FieldElement : Type :=
  ZMod fieldPrime

theorem cast_minus (left right : Nat) : (minus left right : FieldElement) = left - right := by
  have below : right % fieldPrime ≤ left + fieldPrime :=
    (Nat.mod_lt _ prime_fieldPrime.pos).le.trans (Nat.le_add_left _ _)
  rw [minus, ZMod.natCast_mod, Nat.cast_sub below]
  simp

theorem minus_eq_val (left right : Nat) : minus left right = ((left - right : FieldElement)).val := by
  rw [← cast_minus, ZMod.val_natCast_of_lt (minus_lt left right)]

theorem minus_zero_val (value : FieldElement) : minus 0 value.val = (-value).val := by
  rw [minus_eq_val, ZMod.natCast_zmod_val, Nat.cast_zero, zero_sub]

theorem power_eq (base exponent : Nat) : power base exponent = base ^ exponent % fieldPrime := by
  rw [← powerModulo_eq]
  induction exponent using power.induct base with
  | case1 => rw [power, powerModulo, if_pos rfl, if_pos rfl, Nat.mod_eq_of_lt prime_fieldPrime.one_lt]
  | case2 exponent positive isEven ih =>
      rw [power, powerModulo, if_neg positive, if_neg positive, if_pos isEven, if_pos isEven, ih]
  | case3 exponent positive isOdd ih =>
      rw [power, powerModulo, if_neg positive, if_neg positive, if_neg isOdd, if_neg isOdd, ih]

/-! ## The curve -/

/-- The curve `y ^ 2 = x ^ 3 + 7`. -/
def curve : WeierstrassCurve.Affine FieldElement :=
  ⟨0, 0, 0, 0, 7⟩

theorem equation_iff (x y : FieldElement) : curve.Equation x y ↔ y * y = x * x * x + 7 := by
  rw [WeierstrassCurve.Affine.equation_iff]
  simp only [curve, zero_mul, add_zero]
  rw [sq, pow_succ, sq]

/-- The curve has no singular points. -/
theorem nonsingular_iff (x y : FieldElement) : curve.Nonsingular x y ↔ y * y = x * x * x + 7 := by
  have discriminant : curve.Δ = -(21168 : Nat) := by
    simp only [WeierstrassCurve.Δ, WeierstrassCurve.b₂, WeierstrassCurve.b₄, WeierstrassCurve.b₆,
      WeierstrassCurve.b₈, curve]
    norm_num
  have notZero : curve.Δ ≠ 0 := by
    rw [discriminant, neg_ne_zero, ne_eq, ZMod.natCast_eq_zero_iff]
    exact Nat.not_dvd_of_pos_of_lt (by decide) (by decide)
  rw [← equation_iff, WeierstrassCurve.Affine.equation_iff_nonsingular_of_Δ_ne_zero notZero]

/-- The point of the curve that has given numbers as its coordinates. -/
def curvePoint (x y : Nat) (isOn : y * y % fieldPrime = (x * x * x + 7) % fieldPrime) : curve.Point :=
  .some (x : FieldElement) (y : FieldElement) <| by
    rw [nonsingular_iff]
    exact_mod_cast (ZMod.natCast_eq_natCast_iff' _ _ _).mpr isOn

namespace Point

/-- The coordinates of a point of the curve. -/
def ofCurve : curve.Point → Point
  | .zero => .infinity
  | .some x y _ => .affine x.val y.val

@[simp]
theorem ofCurve_zero : ofCurve 0 = .infinity :=
  rfl

@[simp]
theorem ofCurve_some {x y : FieldElement} (isOn : curve.Nonsingular x y) :
    ofCurve (.some x y isOn) = .affine x.val y.val :=
  rfl

theorem ofCurve_curvePoint {x y : Nat} (xReduced : x < fieldPrime) (yReduced : y < fieldPrime)
    (isOn : y * y % fieldPrime = (x * x * x + 7) % fieldPrime) :
    ofCurve (curvePoint x y isOn) = .affine x y := by
  rw [curvePoint, ofCurve_some, ZMod.val_natCast_of_lt xReduced, ZMod.val_natCast_of_lt yReduced]

/-! ## Sums -/

theorem alongSlope_eq (slope x₁ y₁ x₂ : Nat) :
    alongSlope slope x₁ y₁ x₂ =
      .affine (curve.addX x₁ x₂ slope).val (curve.addY x₁ x₂ y₁ slope).val := by
  have isX : ((minus (minus (slope * slope) x₁) x₂ : Nat) : FieldElement) = curve.addX x₁ x₂ slope := by
    simp only [cast_minus, Nat.cast_mul, WeierstrassCurve.Affine.addX, curve]
    ring
  have isY : ((minus (slope * minus x₁ (minus (minus (slope * slope) x₁) x₂)) y₁ : Nat) : FieldElement) =
      curve.addY x₁ x₂ y₁ slope := by
    rw [cast_minus, Nat.cast_mul, cast_minus, isX]
    simp only [WeierstrassCurve.Affine.addY, WeierstrassCurve.Affine.negAddY,
      WeierstrassCurve.Affine.negY, curve]
    ring
  rw [alongSlope, ← isX, ← isY, ZMod.val_natCast_of_lt (minus_lt _ _),
    ZMod.val_natCast_of_lt (minus_lt _ _)]

variable {x x₁ y₁ x₂ y₂ y : FieldElement}

theorem negY_eq (x y : FieldElement) : curve.negY x y = -y := by
  simp [WeierstrassCurve.Affine.negY, curve]

/-- A number for the slope of the line through two points gives their sum. -/
theorem ofCurve_add_some {isOn₁ : curve.Nonsingular x₁ y₁} {isOn₂ : curve.Nonsingular x₂ y₂}
    (notOpposite : ¬(x₁ = x₂ ∧ y₁ = curve.negY x₂ y₂)) {slope : Nat}
    (isSlope : (slope : FieldElement) = curve.slope x₁ x₂ y₁ y₂) :
    ofCurve (.some x₁ y₁ isOn₁ + .some x₂ y₂ isOn₂) = alongSlope slope x₁.val y₁.val x₂.val := by
  rw [WeierstrassCurve.Affine.Point.add_some notOpposite, alongSlope_eq, isSlope, ofCurve_some]
  simp only [ZMod.natCast_zmod_val]

theorem two_ne_zero : (2 : FieldElement) ≠ 0 := by
  have notDivides : ¬fieldPrime ∣ 2 := Nat.not_dvd_of_pos_of_lt (by decide) (by decide)
  exact_mod_cast (ZMod.natCast_eq_zero_iff 2 fieldPrime).not.mpr notDivides

theorem ne_negY_of_ne_zero (notZero : y ≠ 0) : y ≠ curve.negY x y := by
  rw [negY_eq]
  intro isOpposite
  have isTwice : 2 * y = 0 := by linear_combination isOpposite
  exact mul_ne_zero two_ne_zero notZero isTwice

theorem slope_self_mul (notZero : y ≠ 0) : curve.slope x x y y * (2 * y) = 3 * x * x := by
  have twice : y - curve.negY x y = 2 * y := by
    rw [negY_eq]
    ring
  rw [WeierstrassCurve.Affine.slope_of_Y_ne rfl (ne_negY_of_ne_zero notZero), twice,
    div_mul_cancel₀ _ (mul_ne_zero two_ne_zero notZero)]
  simp only [curve]
  ring

theorem slope_mul_sub (notSame : x₁ ≠ x₂) : curve.slope x₁ x₂ y₁ y₂ * (x₂ - x₁) = y₂ - y₁ := by
  rw [WeierstrassCurve.Affine.slope_of_X_ne notSame, ← neg_sub x₁ x₂, mul_neg,
    div_mul_cancel₀ _ (sub_ne_zero.mpr notSame), neg_sub]

theorem cast_tangent (notZero : y ≠ 0) :
    ((3 * x.val * x.val * inverse (2 * y.val) fieldPrime % fieldPrime : Nat) : FieldElement) =
      curve.slope x x y y := by
  have isTwice : ((2 * y.val : Nat) : FieldElement) = 2 * y := by simp
  have twiceNotZero : (2 * y : FieldElement) ≠ 0 := mul_ne_zero two_ne_zero notZero
  rw [ZMod.natCast_mod, Nat.cast_mul, cast_inverse (isTwice ▸ twiceNotZero), isTwice,
    ← div_eq_mul_inv, div_eq_iff twiceNotZero, slope_self_mul notZero]
  simp

theorem cast_chord (notSame : x₁ ≠ x₂) :
    ((minus y₂.val y₁.val * inverse (minus x₂.val x₁.val) fieldPrime % fieldPrime : Nat) : FieldElement) =
      curve.slope x₁ x₂ y₁ y₂ := by
  have isDifference : (minus x₂.val x₁.val : FieldElement) = x₂ - x₁ := by simp [cast_minus]
  have differenceNotZero : x₂ - x₁ ≠ 0 := sub_ne_zero.mpr notSame.symm
  rw [ZMod.natCast_mod, Nat.cast_mul, cast_inverse (isDifference ▸ differenceNotZero), isDifference,
    ← div_eq_mul_inv, div_eq_iff differenceNotZero, slope_mul_sub notSame]
  simp [cast_minus]

/-- A point added to itself is the group's. -/
theorem double_ofCurve (point : curve.Point) : double (ofCurve point) = ofCurve (point + point) := by
  cases point with
  | zero => rfl
  | some x y isOn =>
      rw [ofCurve_some, double]
      split
      · next isZero =>
        rw [ZMod.val_eq_zero] at isZero
        have isOpposite : y = curve.negY x y := by rw [negY_eq, isZero, neg_zero]
        rw [WeierstrassCurve.Affine.Point.add_self_of_Y_eq isOpposite, ofCurve_zero]
      · next notZero =>
        rw [ZMod.val_eq_zero] at notZero
        have notOpposite : y ≠ curve.negY x y := ne_negY_of_ne_zero notZero
        rw [ofCurve_add_some (fun isOpposite => notOpposite isOpposite.2) (cast_tangent notZero)]

/-- The sum of two points is the group's. -/
theorem add_ofCurve (left right : curve.Point) :
    add (ofCurve left) (ofCurve right) = ofCurve (left + right) := by
  cases left with
  | zero => cases right <;> rfl
  | some x₁ y₁ isOn₁ =>
      cases right with
      | zero => rfl
      | some x₂ y₂ isOn₂ =>
          rw [ofCurve_some, ofCurve_some, add]
          split
          · next sameX =>
            obtain rfl := ZMod.val_injective _ sameX
            split
            · next sameY =>
              obtain rfl := ZMod.val_injective _ sameY
              exact double_ofCurve (.some x₁ y₁ isOn₁)
            · next otherY =>
              have isOpposite : y₁ = curve.negY x₁ y₂ :=
                (WeierstrassCurve.Affine.Y_eq_of_X_eq isOn₁.1 isOn₂.1 rfl).resolve_left
                  fun sameY => otherY (congrArg ZMod.val sameY)
              rw [WeierstrassCurve.Affine.Point.add_of_Y_eq rfl isOpposite, ofCurve_zero]
          · next otherX =>
            have notSame : x₁ ≠ x₂ := fun sameX => otherX (congrArg ZMod.val sameX)
            rw [ofCurve_add_some (fun isOpposite => notSame isOpposite.1) (cast_chord notSame)]

/-- The negative of a point is the group's. -/
theorem neg_ofCurve (point : curve.Point) : neg (ofCurve point) = ofCurve (-point) := by
  cases point with
  | zero => rfl
  | some x y isOn =>
      rw [ofCurve_some, neg, minus_zero_val, WeierstrassCurve.Affine.Point.neg_some, ofCurve_some, negY_eq]

/-- A multiple of a point is the group's. -/
theorem multiple_ofCurve (count : Nat) (point : curve.Point) :
    multiple count (ofCurve point) = ofCurve (count • point) := by
  induction count using multiple.induct (ofCurve point) with
  | case1 => rw [multiple, if_pos rfl, zero_nsmul, ofCurve_zero]
  | case2 count positive isEven ih =>
      have halves : count / 2 + count / 2 = count := by omega
      rw [multiple, if_neg positive]
      dsimp only
      rw [if_pos isEven, ih, double_ofCurve, ← add_nsmul, halves]
  | case3 count positive isOdd ih =>
      have halves : count / 2 + count / 2 + 1 = count := by omega
      rw [multiple, if_neg positive]
      dsimp only
      rw [if_neg isOdd, ih, double_ofCurve, add_ofCurve, ← add_nsmul, ← succ_nsmul, halves]

/-! ## Abscissas -/

/-- A power of a square is one of its roots. -/
theorem power_mul_power_of_square (y : FieldElement) :
    (y * y) ^ ((fieldPrime + 1) / 4) * (y * y) ^ ((fieldPrime + 1) / 4) = y * y := by
  have exponent : (fieldPrime + 1) / 4 + (fieldPrime + 1) / 4 + ((fieldPrime + 1) / 4 + (fieldPrime + 1) / 4) =
      fieldPrime + 1 := by decide
  rw [← pow_add, mul_pow, ← pow_add, exponent, pow_succ, ZMod.pow_card]

/-- The prime is odd, so a number and its negative differ in parity. -/
theorem val_neg_mod_two (notZero : y ≠ 0) : (-y).val % 2 ≠ y.val % 2 := by
  have isOdd : fieldPrime % 2 = 1 := by decide
  have below := y.val_lt
  rw [ZMod.neg_val, if_neg notZero]
  omega

/-- Of the two roots of a square, the one with a given parity is found from either. -/
theorem root_of_parity {root : FieldElement} (isRoot : root = y ∨ root = -y) {parity : Nat}
    (isParity : parity < 2) :
    (if root.val % 2 = parity then root.val else minus 0 root.val) =
      (if y.val % 2 = parity then y else -y).val := by
  rw [minus_zero_val, ← apply_ite ZMod.val]
  congr 1
  by_cases isZero : y = 0
  · have isRootZero : root = 0 := by simpa [isZero] using isRoot
    simp [isZero, isRootZero]
  · have differ := val_neg_mod_two isZero
    rcases isRoot with rfl | rfl
    · rfl
    · by_cases same : y.val % 2 = parity
      · have other : (-y).val % 2 ≠ parity := same ▸ differ
        rw [if_neg other, if_pos same, neg_neg]
      · have other : (-y).val % 2 = parity := by omega
        rw [if_pos other, if_neg same]

/-- The point with the abscissa of a point of the curve is that point if its ordinate has the given parity, and the
negative of that point otherwise. -/
theorem ofAbscissa?_eq {x y : FieldElement} (isOn : curve.Nonsingular x y) {parity : Nat}
    (isParity : parity < 2) :
    ofAbscissa? x.val parity =
      some (ofCurve (if y.val % 2 = parity then .some x y isOn else -.some x y isOn)) := by
  let root : FieldElement := (y * y) ^ ((fieldPrime + 1) / 4)
  have isSquare : (x.val * x.val * x.val + 7) % fieldPrime = (y * y).val := by
    rw [(nonsingular_iff x y).mp isOn, ← ZMod.val_natCast]
    simp
  have rootSquare : root * root = y * y := power_mul_power_of_square y
  have isRoot : power (y * y).val ((fieldPrime + 1) / 4) = root.val := by
    rw [power_eq, ← ZMod.val_natCast, Nat.cast_pow, ZMod.natCast_zmod_val]
  have isReduced : root.val * root.val % fieldPrime = (y * y).val := by
    rw [← ZMod.val_mul, rootSquare]
  have isEither : root = y ∨ root = -y := mul_self_eq_mul_self_iff.mp rootSquare
  rw [ofAbscissa?, isSquare, isRoot, if_pos isReduced, root_of_parity isEither isParity]
  split
  · rfl
  · rw [WeierstrassCurve.Affine.Point.neg_some, ofCurve_some, negY_eq]

end Point

end WasmDeploy.Crypto.Secp256k1
