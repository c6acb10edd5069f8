import WasmDeploy.Crypto.Signature
import WasmDeploy.Proofs.Crypto.Order

/-!
# Recovery of the public point

This file shows that the public point of a key is recovered from what it signs. A signature fits its hash and its
key: a multiple of the point that it names is the sum of a multiple of the generator and one of the public point. The
two values of `s` that fit belong to opposite points, so the parity turns around when the other value is taken.
-/

namespace WasmDeploy.Crypto

open Secp256k1 Secp256k1.Point

namespace Signature

/-- The value of `s` that is taken is below half of the order, which is odd. -/
theorem two_mul_s_lower_lt (r s y : Nat) : 2 * (lower r s y).s < order := by
  have isOdd : order % 2 = 1 := by decide
  have positive : 0 < order := by decide
  simp only [lower]
  split
  · assumption
  · dsimp only
    omega

theorem two_mul_s_sign_lt (privateKey : Nat) (hash : Bytes) : 2 * (sign privateKey hash).s < order := by
  simp only [sign, ofSecret]
  exact two_mul_s_lower_lt _ _ _

@[simp]
theorem r_lower (r s y : Nat) : (lower r s y).r = r := by
  simp only [lower]
  split <;> rfl

/-- Whichever of the two values of `s` a signature has, it names a point whose multiple by that value is the
same. -/
theorem exists_point_lower {x y : FieldElement} {isOn : curve.Nonsingular x y} {s : Nat}
    (reduced : s < order) (torsion : order • (.some x y isOn : curve.Point) = 0) :
    ∃ point : curve.Point,
      ofAbscissa? x.val (lower x.val s y.val).parity = some (ofCurve point) ∧
        (lower x.val s y.val).s • point = s • (.some x y isOn : curve.Point) := by
  simp only [lower]
  split
  · refine ⟨.some x y isOn, ?_, rfl⟩
    rw [ofAbscissa?_eq isOn (Nat.mod_lt _ (by decide)), if_pos rfl]
  · -- The other value belongs to the opposite point, whose ordinate has the other parity.
    refine ⟨-.some x y isOn, ?_, ?_⟩
    · have turned : y.val % 2 ≠ (y.val + 1) % 2 := by omega
      rw [ofAbscissa?_eq isOn (Nat.mod_lt _ (by decide)), if_neg turned]
    · have whole : (order - s) • (.some x y isOn : curve.Point) + s • .some x y isOn = 0 := by
        rw [← add_nsmul, Nat.sub_add_cancel reduced.le, torsion]
      dsimp only
      rw [neg_nsmul]
      exact neg_eq_of_add_eq_zero_right whole

/-- A signature with a secret number fits: the multiple of its point by `s` is the sum of the multiples of the
generator by the hash and of the public point by `r`. -/
theorem exists_point_ofSecret {privateKey hash secret : Nat}
    (positive : 0 < (ofSecret privateKey hash secret).r) :
    ∃ point : curve.Point,
      ofAbscissa? (ofSecret privateKey hash secret).r (ofSecret privateKey hash secret).parity =
          some (ofCurve point) ∧
        (ofSecret privateKey hash secret).s • point =
          multipleOfBase (hash + (ofSecret privateKey hash secret).r * privateKey) := by
  have isMultiple : multiple (secret % order) generator = ofCurve (multipleOfBase secret) := by
    rw [multiple_generator, ZMod.natCast_mod]
  simp only [ofSecret, isMultiple, r_lower] at positive ⊢
  generalize isPoint : multipleOfBase (secret : ZMod order) = point at positive ⊢
  cases point with
  | zero => exact absurd positive (lt_irrefl 0)
  | some x y isOn =>
      -- The secret number can be inverted, since the multiple by it is not infinity.
      have notZero : (secret : ZMod order) ≠ 0 := by
        intro isZero
        rw [isZero, map_zero] at isPoint
        cases isPoint
      have torsion : order • (.some x y isOn : curve.Point) = 0 := by
        rw [← isPoint, order_nsmul_multipleOfBase]
      have reduced : inverse secret order * (hash + x.val * privateKey) % order < order :=
        Nat.mod_lt _ prime_order.pos
      rcases exists_point_lower reduced torsion with ⟨signed, isNamed, fits⟩
      rw [← isPoint, nsmul_multipleOfBase, ZMod.natCast_mod, Nat.cast_mul, cast_inverse notZero,
        inv_mul_eq_div, div_mul_cancel₀ _ notZero, Nat.cast_add, Nat.cast_mul] at fits
      exact ⟨signed, isNamed, fits⟩

/-- The public point is recovered from a signature with a secret number. -/
theorem recover?_ofSecret {privateKey secret : Nat} {hash : Bytes}
    (positive : 0 < (ofSecret privateKey (Bytes.toNumber hash) secret).r)
    (below : (ofSecret privateKey (Bytes.toNumber hash) secret).r < order) :
    (ofSecret privateKey (Bytes.toNumber hash) secret).recover? hash = some (publicPoint privateKey) := by
  rcases exists_point_ofSecret positive with ⟨point, isNamed, fits⟩
  generalize ofSecret privateKey (Bytes.toNumber hash) secret = signature at *
  have notZero : (signature.r : ZMod order) ≠ 0 := by
    rw [ne_eq, ZMod.natCast_eq_zero_iff]
    exact Nat.not_dvd_of_pos_of_lt positive below
  -- What the hash adds to the multiple of the point is subtracted again, and the rest is a multiple by `r`.
  have isRecovered : (signature.r : ZMod order)⁻¹ *
      (Bytes.toNumber hash + signature.r * privateKey - Bytes.toNumber hash) = privateKey := by
    rw [add_sub_cancel_left, inv_mul_cancel_left₀ notZero]
  rw [recover?, isNamed, Option.map_some, publicPoint]
  simp only [multiple_generator, neg_ofCurve, multiple_ofCurve, add_ofCurve, fits, ← sub_eq_add_neg,
    ← map_sub, nsmul_multipleOfBase, ZMod.natCast_mod, cast_inverse notZero, isRecovered]

/-- The public point of a key is recovered from every signature with it whose first number can be inverted. -/
theorem recover?_sign {privateKey : Nat} {hash : Bytes} (positive : 0 < (sign privateKey hash).r)
    (below : (sign privateKey hash).r < order) :
    (sign privateKey hash).recover? hash = some (publicPoint privateKey) :=
  recover?_ofSecret positive below

end Signature

end WasmDeploy.Crypto
