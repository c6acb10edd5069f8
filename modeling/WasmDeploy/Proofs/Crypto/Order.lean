import WasmDeploy.Proofs.Crypto.Curve

/-!
# The order of the generator

This file shows that the order annihilates the generator, so that the multiples of the generator are the integers
modulo the order. The multiple is computed without inverses, in coordinates that are scaled by the powers of a factor:
a finite point is `x / z ^ 2` and `y / z ^ 3`. A factor that becomes zero stays zero, so if the last one is not, no point
on the way was infinite.
-/

namespace WasmDeploy.Crypto.Secp256k1

/-- The generator as a point of the curve. -/
def base : curve.Point :=
  curvePoint Point.generator.coordinates.1 Point.generator.coordinates.2 (by decide)

theorem ofCurve_base : Point.ofCurve base = Point.generator :=
  Point.ofCurve_curvePoint Point.isReduced_generator.1 Point.isReduced_generator.2 _

/-! ## Scaled coordinates -/

/-- Coordinates of a finite point, scaled by the powers of a factor. -/
structure Scaled where
  x : Nat
  y : Nat
  z : Nat

namespace Scaled

/-- The point added to itself. -/
def double (scaled : Scaled) : Scaled :=
  let tangent := 3 * scaled.x * scaled.x
  let square := scaled.y * scaled.y
  let middle := 4 * scaled.x * square
  let x := minus (tangent * tangent) (2 * middle)
  ⟨x, minus (tangent * minus middle x) (8 * square * square), 2 * scaled.y * scaled.z % fieldPrime⟩

/-- The point with the generator added to it. -/
def addBase (scaled : Scaled) : Scaled :=
  let square := scaled.z * scaled.z
  let across := minus (Point.generator.coordinates.1 * square) scaled.x
  let up := minus (Point.generator.coordinates.2 * square * scaled.z) scaled.y
  let cube := across * across * across
  let middle := scaled.x * across * across
  let x := minus (minus (up * up) cube) (2 * middle)
  ⟨x, minus (up * minus middle x) (scaled.y * cube), scaled.z * across % fieldPrime⟩

/-- Scaled coordinates are those of a point, unless their factor is zero. -/
def Represents (scaled : Scaled) (point : curve.Point) : Prop :=
  (scaled.z : FieldElement) ≠ 0 → ∃ x y isOn, point = .some x y isOn ∧
    (scaled.x : FieldElement) = x * scaled.z ^ 2 ∧ (scaled.y : FieldElement) = y * scaled.z ^ 3

variable {scaled : Scaled} {point : curve.Point}

theorem Represents.double (represents : scaled.Represents point) :
    scaled.double.Represents (point + point) := by
  intro isFinite
  have isZ : (scaled.double.z : FieldElement) = 2 * scaled.y * scaled.z := by simp [Scaled.double]
  have wasFinite : (scaled.z : FieldElement) ≠ 0 := right_ne_zero_of_mul (isZ ▸ isFinite)
  rcases represents wasFinite with ⟨x, y, isOn, rfl, isX, isY⟩
  have notZero : y ≠ 0 := by
    rintro rfl
    simp [isZ, isY] at isFinite
  have notOpposite : ¬(x = x ∧ y = curve.negY x y) :=
    fun isOpposite => Point.ne_negY_of_ne_zero notZero isOpposite.2
  have tangent : 3 * (x * (scaled.z : FieldElement) ^ 2) * (x * scaled.z ^ 2) =
      curve.slope x x y y * (2 * y) * scaled.z ^ 4 := by
    rw [Point.slope_self_mul notZero]
    ring
  refine ⟨_, _, _, WeierstrassCurve.Affine.Point.add_some notOpposite, ?_, ?_⟩
  all_goals
    simp only [Scaled.double, cast_minus, Nat.cast_mul, Nat.cast_ofNat, ZMod.natCast_mod, isX, isY,
      tangent, WeierstrassCurve.Affine.addX, WeierstrassCurve.Affine.addY,
      WeierstrassCurve.Affine.negAddY, WeierstrassCurve.Affine.negY, curve]
    ring

theorem Represents.addBase (represents : scaled.Represents point) :
    scaled.addBase.Represents (point + base) := by
  intro isFinite
  have wasFinite : (scaled.z : FieldElement) ≠ 0 := by
    intro isZero
    simp [Scaled.addBase, isZero] at isFinite
  rcases represents wasFinite with ⟨x, y, isOn, rfl, isX, isY⟩
  -- The factor of the sum is zero if the generator has the same abscissa, so this is the sum of different points.
  have notSame : x ≠ Point.generator.coordinates.1 := by
    rintro rfl
    simp [Scaled.addBase, cast_minus, isX, sq] at isFinite
  have notOpposite : ¬(x = Point.generator.coordinates.1 ∧
      y = curve.negY Point.generator.coordinates.1 Point.generator.coordinates.2) :=
    fun isOpposite => notSame isOpposite.1
  have up : Point.generator.coordinates.2 * (scaled.z * scaled.z) * scaled.z - y * scaled.z ^ 3 =
      curve.slope x Point.generator.coordinates.1 y Point.generator.coordinates.2 *
        (Point.generator.coordinates.1 - x) * (scaled.z : FieldElement) ^ 3 := by
    rw [Point.slope_mul_sub notSame]
    ring
  refine ⟨_, _, _, WeierstrassCurve.Affine.Point.add_some notOpposite, ?_, ?_⟩
  all_goals
    simp only [Scaled.addBase, cast_minus, Nat.cast_mul, Nat.cast_ofNat, ZMod.natCast_mod, isX, isY,
      up, WeierstrassCurve.Affine.addX, WeierstrassCurve.Affine.addY,
      WeierstrassCurve.Affine.negAddY, WeierstrassCurve.Affine.negY, curve]
    ring

/-! ## Climbing to a multiple -/

/-- The multiple of the generator by a count, from the one by the leading bits of the count. -/
def climb (count : Nat) : (remaining : Nat) → Scaled → Scaled
  | 0, scaled => scaled
  | remaining + 1, scaled =>
      if scaled.z = 0 then scaled
      else
        climb count remaining
          (if count / 2 ^ remaining % 2 = 0 then scaled.double else scaled.double.addBase)

theorem Represents.climb {count remaining : Nat}
    (represents : scaled.Represents ((count / 2 ^ remaining) • base)) :
    (climb count remaining scaled).Represents (count • base) := by
  induction remaining generalizing scaled with
  | zero => simpa [Scaled.climb] using represents
  | succ remaining ih =>
      rw [Scaled.climb]
      split
      -- A factor of zero is that of no point, so there is nothing to show of where the climb has stopped.
      · next isZero =>
        intro isFinite
        exact absurd (by simp [isZero]) isFinite
      · apply ih
        have bits : count / 2 ^ (remaining + 1) = count / 2 ^ remaining / 2 := by
          rw [pow_succ, Nat.div_div_eq_div_mul]
        rw [bits] at represents
        generalize count / 2 ^ remaining = leading at represents ⊢
        split
        · next isEven =>
          have halves : leading / 2 + leading / 2 = leading := by omega
          rw [← halves, add_nsmul]
          exact represents.double
        · next isOdd =>
          have halves : leading / 2 + leading / 2 + 1 = leading := by omega
          rw [← halves, succ_nsmul, add_nsmul]
          exact represents.double.addBase

/-- Whether scaled coordinates are finite, and those of the negative of the generator. -/
def isNegBase (scaled : Scaled) : Bool :=
  scaled.z % fieldPrime ≠ 0 &&
    minus (Point.generator.coordinates.1 * (scaled.z * scaled.z)) scaled.x = 0 &&
    minus 0 (Point.generator.coordinates.2 * (scaled.z * scaled.z * scaled.z)) = scaled.y % fieldPrime

theorem Represents.eq_neg_base (represents : scaled.Represents point)
    (isNegative : scaled.isNegBase = true) : point = -base := by
  simp only [isNegBase, Bool.and_eq_true, decide_eq_true_eq] at isNegative
  rcases isNegative with ⟨⟨notZero, sameX⟩, sameY⟩
  have isFinite : (scaled.z : FieldElement) ≠ 0 := by
    rwa [ne_eq, ZMod.natCast_eq_zero_iff, Nat.dvd_iff_mod_eq_zero]
  rcases represents isFinite with ⟨x, y, isOn, rfl, isX, isY⟩
  have castX := congrArg (Nat.cast : Nat → FieldElement) sameX
  have castY := congrArg (Nat.cast : Nat → FieldElement) sameY
  simp only [cast_minus, Nat.cast_mul, Nat.cast_zero, ZMod.natCast_mod, isX, isY] at castX castY
  have isBaseX : x = Point.generator.coordinates.1 := by
    apply mul_right_cancel₀ (pow_ne_zero 2 isFinite)
    linear_combination -castX
  have isBaseY : y = -Point.generator.coordinates.2 := by
    apply mul_right_cancel₀ (pow_ne_zero 3 isFinite)
    linear_combination -castY
  subst isBaseX isBaseY
  simp only [base, curvePoint, WeierstrassCurve.Affine.Point.neg_some, Point.negY_eq]

end Scaled

/-- The generator, as scaled coordinates. -/
def scaledBase : Scaled :=
  ⟨Point.generator.coordinates.1, Point.generator.coordinates.2, 1⟩

theorem represents_scaledBase : scaledBase.Represents base :=
  fun _ => ⟨_, _, _, rfl, by simp [scaledBase], by simp [scaledBase]⟩

theorem isNegBase_climb : (Scaled.climb (order - 1) 255 scaledBase).isNegBase = true := by
  decide +kernel

theorem order_nsmul_base : order • base = 0 := by
  have leading : (order - 1) / 2 ^ 255 = 1 := by decide
  have start : scaledBase.Represents (((order - 1) / 2 ^ 255) • base) := by
    rw [leading, one_nsmul]
    exact represents_scaledBase
  have last : (order - 1) • base = -base := start.climb.eq_neg_base isNegBase_climb
  have whole : order - 1 + 1 = order := by decide
  rw [← whole, succ_nsmul, last, neg_add_cancel]

/-! ## Multiples of the generator -/

/-- The multiples of the generator, by the integers modulo its order. -/
def multipleOfBase : ZMod order →+ curve.Point :=
  ZMod.lift order ⟨zmultiplesHom curve.Point base, by simpa using order_nsmul_base⟩

theorem multipleOfBase_natCast (count : Nat) : multipleOfBase count = count • base := by
  rw [← Int.cast_natCast, multipleOfBase, ZMod.lift_coe]
  exact natCast_zsmul base count

/-- The multiples of the generator that are computed are those of the group. -/
theorem multiple_generator (count : Nat) :
    Point.multiple count Point.generator = Point.ofCurve (multipleOfBase count) := by
  rw [multipleOfBase_natCast, ← Point.multiple_ofCurve, ofCurve_base]

theorem nsmul_multipleOfBase (count : Nat) (value : ZMod order) :
    count • multipleOfBase value = multipleOfBase (count * value) := by
  rw [← map_nsmul, nsmul_eq_mul]

theorem order_nsmul_multipleOfBase (value : ZMod order) : order • multipleOfBase value = 0 := by
  rw [nsmul_multipleOfBase, ZMod.natCast_self, zero_mul, map_zero]

end WasmDeploy.Crypto.Secp256k1
