import Mathlib
import WasmDeploy.Measure

/-!
# Binary64 arithmetic

The core library opens a float, calculates with what it finds, and closes the result. This file shows that the bits of
a float are read here as they are opened there, and from this what sums and differences come to: what does not end
still does not end after a sum or a difference, and a difference of finite numbers is not above zero if the exact one
is not.
-/

namespace WasmDeploy.Number.Binary64

open Float.Model Float.Model.UnpackedFloat

/-! ## Opened floats -/

/-- Whether a sign is the negative one. -/
def isNegative : Sign → Bool
  | .negative => true
  | .positive => false

/-- What an opened float stands for. -/
def ofUnpacked : UnpackedFloat → Binary64
  | .notANumber => .nan
  | .infinity sign => .infinite (isNegative sign)
  | .zero sign => .finite (isNegative sign) 0 (-1074)
  | .finite sign mantissa exponent _ => .finite (isNegative sign) mantissa exponent

theorem toNat_unpackExponent (bits : BitVec Format.binary64.numBits) :
    (unpackExponent bits).toNat = bits.toNat / leadingBit % 2048 := by
  simp [unpackExponent, Nat.shiftRight_eq_div_pow, leadingBit]

theorem toNat_unpackMantissa (bits : BitVec Format.binary64.numBits) :
    (unpackMantissa bits).toNat = bits.toNat % leadingBit := by
  simp [unpackMantissa, leadingBit]

theorem toNat_unpackSign (bits : BitVec Format.binary64.numBits) :
    (unpackSign bits).toNat = bits.toNat / signBit % 2 := by
  simp [unpackSign, Nat.shiftRight_eq_div_pow, signBit]

theorem isNegative_ofBitVec (sign : BitVec 1) : isNegative (.ofBitVec sign) = (sign.toNat == 1) := by
  revert sign
  decide

theorem ofBits_toNat (bits : BitVec Format.binary64.numBits) :
    ofBits bits.toNat = ofUnpacked (UnpackedFloat.unpack Format.binary64 bits) := by
  have negative : isNegative (.ofBitVec (unpackSign bits)) = (bits.toNat / signBit % 2 == 1) := by
    rw [isNegative_ofBitVec, toNat_unpackSign]
  have isAll : unpackExponent bits = -1#_ ↔ bits.toNat / leadingBit % 2048 = 2047 := by
    rw [← BitVec.toNat_inj, toNat_unpackExponent]
    rfl
  have isNone : unpackExponent bits = 0#_ ↔ bits.toNat / leadingBit % 2048 = 0 := by
    rw [← BitVec.toNat_inj, toNat_unpackExponent]
    rfl
  have isEmpty : unpackMantissa bits = 0#_ ↔ bits.toNat % leadingBit = 0 := by
    rw [← BitVec.toNat_inj, toNat_unpackMantissa]
    rfl
  have whole : (1#1 ++ unpackMantissa bits).toNat = leadingBit + bits.toNat % leadingBit := by
    have small : (unpackMantissa bits).toNat < Nat.pow 2 52 := (unpackMantissa bits).isLt
    rw [← toNat_unpackMantissa, BitVec.toNat_append, ← Nat.shiftLeft_add_eq_or_of_lt small]
    rfl
  simp only [ofBits, UnpackedFloat.unpack, isAll, isNone, isEmpty, ← negative]
  split
  · split <;> rfl
  · split
    · next isSubnormal =>
      split
      · next isZero => simp [ofUnpacked, isZero]
      · next notZero =>
        rw [ofUnpacked, toNat_unpackMantissa, toNat_unpackExponent, isSubnormal]
        rfl
    · next isNormal =>
      rw [ofUnpacked, whole, toNat_unpackExponent]
      rfl

/-- The bits of a float are read as the core library reads them. -/
theorem ofFloat_eq (value : Float) : ofFloat value = ofUnpacked value.toModel.unpack :=
  ofBits_toNat _

/-! ## Signs -/

/-- A number is of a sign: it is infinite or finite, and negative or not. -/
def IsOfSign (negative : Bool) (number : Binary64) : Prop :=
  number = .infinite negative ∨ ∃ significand exponent, number = .finite negative significand exponent

theorem isOfSign_packComponents {sign : Sign} {exponent : BitVec Format.binary64.exponentBits}
    {mantissa : BitVec Format.binary64.mantissaBitsWithoutImplicit} (isNumber : exponent = -1#_ → mantissa = 0#_) :
    IsOfSign (isNegative sign)
      (ofUnpacked (UnpackedFloat.unpack Format.binary64 (packComponents Format.binary64 sign exponent mantissa))) := by
  simp only [UnpackedFloat.unpack, unpackSign_packComponents, unpackExponent_packComponents,
    unpackMantissa_packComponents, Sign.ofBitVec_toBitVec]
  split
  · next isAll => exact .inl (by simp [isNumber isAll, ofUnpacked])
  · split
    · split
      · exact .inr ⟨_, _, rfl⟩
      · exact .inr ⟨_, _, rfl⟩
    · exact .inr ⟨_, _, rfl⟩

theorem isOfSign_pack_finite (sign : Sign) {mantissa : Nat} {exponent : Int} {positive : 0 < mantissa} :
    IsOfSign (isNegative sign) (ofUnpacked (UnpackedFloat.unpack Format.binary64
      (UnpackedFloat.pack Format.binary64 (.finite sign mantissa exponent positive)))) := by
  simp only [UnpackedFloat.pack]
  split
  · exact isOfSign_packComponents fun _ => rfl
  · next fits =>
    split
    · refine isOfSign_packComponents fun isAll => ?_
      have isLast := congrArg BitVec.toNat isAll
      have isGreatest : (-1#11).toNat = 2047 := rfl
      simp only [BitVec.toNat_ofNat, isGreatest] at isLast
      omega
    · exact isOfSign_packComponents fun isAll => absurd isAll (by decide)

/-! ## Closed floats -/

/-- What stands for an opened float once it is closed again. -/
def repacked (float : UnpackedFloat) : Binary64 :=
  ofUnpacked (UnpackedFloat.unpack Format.binary64 (UnpackedFloat.pack Format.binary64 float))

theorem repacked_notANumber : repacked .notANumber = .nan := by
  decide +kernel

theorem repacked_infinity (sign : Sign) : repacked (.infinity sign) = .infinite (isNegative sign) := by
  cases sign <;> decide +kernel

theorem repacked_zero (sign : Sign) : repacked (.zero sign) = .finite (isNegative sign) 0 (-1074) := by
  cases sign <;> decide +kernel

theorem ofFloat_add (left right : Float) : ofFloat (left + right) =
    repacked (UnpackedFloat.add Format.binary64 left.toModel.unpack right.toModel.unpack) :=
  ofFloat_eq _

theorem ofFloat_sub (left right : Float) : ofFloat (left - right) =
    repacked (UnpackedFloat.sub Format.binary64 left.toModel.unpack right.toModel.unpack) :=
  ofFloat_eq _

/-! ## Numbers that do not end -/

/-- A number does not end: it is positive infinity, or no number. -/
def IsUnending (number : Binary64) : Prop :=
  number = .nan ∨ number = .infinite false

theorem isUnending_ofFloat_iff {value : Float} :
    IsUnending (ofFloat value) ↔
      value.toModel.unpack = .notANumber ∨ value.toModel.unpack = .infinity .positive := by
  rw [ofFloat_eq, IsUnending]
  cases value.toModel.unpack with
  | infinity sign => cases sign <;> simp [ofUnpacked, isNegative]
  | notANumber => simp [ofUnpacked]
  | zero sign => simp [ofUnpacked]
  | finite sign mantissa exponent positive => simp [ofUnpacked]

theorem isUnending_repacked {float : UnpackedFloat} (isOne : float = .notANumber ∨ float = .infinity .positive) :
    IsUnending (repacked float) := by
  rcases isOne with rfl | rfl
  · exact .inl repacked_notANumber
  · exact .inr (repacked_infinity _)

/-- Whatever a number that does not end is added to, the sum does not end. -/
theorem IsUnending.add {right : Float} (unending : IsUnending (ofFloat right)) (left : Float) :
    IsUnending (ofFloat (left + right)) := by
  rw [ofFloat_add]
  apply isUnending_repacked
  rcases isUnending_ofFloat_iff.mp unending with isRight | isRight <;> rw [isRight]
  · cases left.toModel.unpack <;> exact .inl rfl
  · cases left.toModel.unpack with
    | infinity sign =>
        cases sign with
        | negative => exact .inl rfl
        | positive => exact .inr rfl
    | notANumber => exact .inl rfl
    | zero sign => exact .inr rfl
    | finite sign mantissa exponent positive => exact .inr rfl

theorem IsUnending.sub {left : Float} (unending : IsUnending (ofFloat left)) (right : Float) :
    IsUnending (ofFloat (left - right)) := by
  rw [ofFloat_sub]
  apply isUnending_repacked
  rcases isUnending_ofFloat_iff.mp unending with isLeft | isLeft <;> rw [isLeft]
  · exact .inl rfl
  · cases right.toModel.unpack with
    | infinity sign =>
        cases sign with
        | negative => exact .inr rfl
        | positive => exact .inl rfl
    | notANumber => exact .inl rfl
    | zero sign => exact .inr rfl
    | finite sign mantissa exponent positive => exact .inr rfl

/-! ## Differences of finite numbers -/

theorem mkRat_scaled (significand : Nat) (exponent : Int) :
    mkRat (scaled 2 significand exponent).1 (scaled 2 significand exponent).2 =
      (significand : Rat) * (2 : Rat) ^ exponent := by
  rw [scaled, Rat.mkRat_eq_div]
  split
  · next isNatural =>
    obtain ⟨power, rfl⟩ := Int.eq_ofNat_of_zero_le isNatural
    simp
  · next isNegative =>
    obtain ⟨power, isPower⟩ := Int.eq_ofNat_of_zero_le (show 0 ≤ -exponent by omega)
    obtain rfl : exponent = -power := by omega
    simp [div_eq_mul_inv]

theorem rational?_finite (negative : Bool) (significand : Nat) (exponent : Int) :
    (finite negative significand exponent).rational? =
      some (if negative then -(significand * (2 : Rat) ^ exponent) else significand * (2 : Rat) ^ exponent) := by
  simp only [rational?, mkRat_scaled]

theorem rational?_ofUnpacked_finite {sign : Sign} {mantissa : Nat} {exponent : Int} {positive : 0 < mantissa} :
    (ofUnpacked (.finite sign mantissa exponent positive)).rational? =
      some ((sign.apply mantissa : Int) * (2 : Rat) ^ exponent) := by
  cases sign <;> simp [ofUnpacked, rational?_finite, isNegative, Sign.apply]

theorem rational?_ofUnpacked_zero (sign : Sign) : (ofUnpacked (.zero sign)).rational? = some 0 := by
  cases sign <;> decide +kernel

/-- A number is not above zero: it is negative infinity, or finite and not above zero. -/
def IsNotAbove (number : Binary64) : Prop :=
  number = .infinite true ∨ ∃ value, number.rational? = some value ∧ value ≤ 0

theorem IsOfSign.isNotAbove {number : Binary64} (isOfSign : IsOfSign true number) : IsNotAbove number := by
  rcases isOfSign with rfl | ⟨significand, exponent, rfl⟩
  · exact .inl rfl
  · refine .inr ⟨_, rational?_finite _ _ _, ?_⟩
    rw [if_pos rfl, neg_nonpos]
    positivity

theorem isNotAbove_round {mantissa : Nat} {exponent : Int} :
    IsNotAbove (repacked (UnpackedFloat.round Format.binary64 .negative mantissa exponent)) := by
  simp only [UnpackedFloat.round, UnpackedFloat.roundWithAccuracy]
  split
  · rw [repacked_zero]
    exact IsOfSign.isNotAbove (.inr ⟨_, _, rfl⟩)
  · exact IsOfSign.isNotAbove (isOfSign_pack_finite .negative)

/-- A difference that is not above zero is not rounded to one that is. -/
theorem isNotAbove_normalize {mantissa exponent : Int} (notAbove : mantissa ≤ 0) :
    IsNotAbove (repacked (UnpackedFloat.normalize Format.binary64 mantissa exponent .positive)) := by
  rw [UnpackedFloat.normalize]
  split
  · exact isNotAbove_round
  · rw [repacked_zero]
    exact .inr ⟨0, by decide +kernel, le_rfl⟩
  · next isAbove =>
    rw [Int.compare_eq_gt] at isAbove
    omega

theorem cast_decreaseExponent {sign : Sign} {mantissa : Nat} {exponent lower : Int} (isLower : lower ≤ exponent) :
    ((sign.apply (decreaseExponent mantissa exponent lower).1 : Int) : Rat) * (2 : Rat) ^ lower =
      ((sign.apply mantissa : Int) : Rat) * (2 : Rat) ^ exponent := by
  obtain ⟨power, isPower⟩ := Int.eq_ofNat_of_zero_le (show 0 ≤ exponent - lower by omega)
  obtain rfl : exponent = lower + power := by omega
  have shifted : (decreaseExponent mantissa (lower + power) lower).1 = mantissa * 2 ^ power := by
    simp [decreaseExponent, Nat.shiftLeft_eq]
  rw [shifted, zpow_add₀ two_ne_zero, zpow_natCast]
  cases sign <;> simp [Sign.apply] <;> ring

theorem isNotAbove_zero {sign : Sign} : IsNotAbove (repacked (.zero sign)) := by
  rw [repacked_zero]
  exact .inr ⟨0, rational?_ofUnpacked_zero sign, le_rfl⟩

theorem isNotAbove_finite {sign : Sign} {mantissa : Nat} {exponent : Int} {positive : 0 < mantissa}
    (notAbove : ((sign.apply mantissa : Int) : Rat) * (2 : Rat) ^ exponent ≤ 0) :
    IsNotAbove (repacked (.finite sign mantissa exponent positive)) := by
  cases sign with
  | negative => exact IsOfSign.isNotAbove (isOfSign_pack_finite .negative)
  | positive =>
      have isAbove : 0 < ((Sign.positive.apply mantissa : Int) : Rat) * (2 : Rat) ^ exponent := by
        have : 0 < (mantissa : Rat) := by exact_mod_cast positive
        simp only [Sign.apply]
        positivity
      exact absurd isAbove (not_lt.mpr notAbove)

/-- What is taken away is no less than what it is taken from: then the difference is not above zero. -/
theorem isNotAbove_repacked_sub {left right : UnpackedFloat} {before after : Rat}
    (isLeft : (ofUnpacked left).rational? = some before) (isRight : (ofUnpacked right).rational? = some after)
    (notLess : before ≤ after) : IsNotAbove (repacked (UnpackedFloat.sub Format.binary64 left right)) := by
  cases left with
  | infinity => cases isLeft
  | notANumber => cases isLeft
  | zero sign =>
      rw [rational?_ofUnpacked_zero] at isLeft
      cases isLeft
      cases right with
      | infinity => cases isRight
      | notANumber => cases isRight
      | zero other =>
          rw [UnpackedFloat.sub]
          split <;> exact isNotAbove_zero
      | finite other mantissa exponent positive =>
          rw [rational?_ofUnpacked_finite, Option.some.injEq] at isRight
          apply isNotAbove_finite
          have opposite : (-other).apply mantissa = -other.apply mantissa := by
            cases other with
            | negative => exact (Int.neg_neg _).symm
            | positive => rfl
          rw [opposite]
          push_cast
          linarith
  | finite sign mantissa exponent positive =>
      rw [rational?_ofUnpacked_finite, Option.some.injEq] at isLeft
      cases right with
      | infinity => cases isRight
      | notANumber => cases isRight
      | zero other =>
          rw [rational?_ofUnpacked_zero, Option.some.injEq] at isRight
          apply isNotAbove_finite
          linarith
      | finite other otherMantissa otherExponent otherPositive =>
          rw [rational?_ofUnpacked_finite, Option.some.injEq] at isRight
          apply isNotAbove_normalize
          rw [← cast_decreaseExponent (min_le_left exponent otherExponent)] at isLeft
          rw [← cast_decreaseExponent (min_le_right exponent otherExponent)] at isRight
          have unit : 0 < (2 : Rat) ^ min exponent otherExponent := by positivity
          rw [← isLeft, ← isRight] at notLess
          have ordered := le_of_mul_le_mul_right notLess unit
          exact Int.sub_nonpos_of_le (Int.cast_le.mp ordered)

theorem isNotAbove_sub {left right : Float} {before after : Rat} (isLeft : (ofFloat left).rational? = some before)
    (isRight : (ofFloat right).rational? = some after) (notLess : before ≤ after) :
    IsNotAbove (ofFloat (left - right)) := by
  rw [ofFloat_eq] at isLeft isRight
  rw [ofFloat_sub]
  exact isNotAbove_repacked_sub isLeft isRight notLess

end WasmDeploy.Number.Binary64
