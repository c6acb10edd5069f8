import WasmDeploy.Proofs.Exact
import WasmDeploy.Proofs.Rlp
import WasmDeploy.Signer

/-!
# Every ordinary transaction is signed

This file shows that signing does not fail for want of space. The numbers of a signature take up 32 bytes each,
whatever is signed, so a transaction can be written with its signature unless it is itself too long.
-/

namespace WasmDeploy

namespace Crypto

/-! ## The numbers of a signature -/

namespace Secp256k1

theorem minus_lt (left right : Nat) : minus left right < fieldPrime :=
  Nat.mod_lt _ (by decide)

namespace Point

/-- The coordinates of a point are reduced modulo the prime of the field. -/
def IsReduced (point : Point) : Prop :=
  point.coordinates.1 < fieldPrime ∧ point.coordinates.2 < fieldPrime

theorem isReduced_infinity : infinity.IsReduced := by
  simp [IsReduced, coordinates, fieldPrime]

theorem isReduced_alongSlope (slope x₁ y₁ x₂ : Nat) : (alongSlope slope x₁ y₁ x₂).IsReduced :=
  ⟨minus_lt _ _, minus_lt _ _⟩

theorem isReduced_double (point : Point) : point.double.IsReduced := by
  cases point with
  | infinity => exact isReduced_infinity
  | affine x y =>
      simp only [double]
      split
      · exact isReduced_infinity
      · exact isReduced_alongSlope _ _ _ _

theorem IsReduced.add {left right : Point} (leftReduced : left.IsReduced)
    (rightReduced : right.IsReduced) : (left.add right).IsReduced := by
  cases left with
  | infinity => exact rightReduced
  | affine x₁ y₁ =>
      cases right with
      | infinity => exact leftReduced
      | affine x₂ y₂ =>
          simp only [Point.add]
          split
          · split
            · exact isReduced_double _
            · exact isReduced_infinity
          · exact isReduced_alongSlope _ _ _ _

theorem IsReduced.multiple {point : Point} (reduced : point.IsReduced) (count : Nat) :
    (point.multiple count).IsReduced := by
  rw [Point.multiple]
  split
  · exact isReduced_infinity
  · dsimp only
    split
    · exact isReduced_double _
    · exact (isReduced_double _).add reduced

theorem isReduced_generator : generator.IsReduced := by
  simp [IsReduced, generator, coordinates, fieldPrime]

end Point

end Secp256k1

open Secp256k1

namespace Signature

/-- The numbers of a signature take up 32 bytes each. -/
structure IsShort (signature : Signature) : Prop where
  r : signature.r < Nat.pow 256 32
  s : signature.s < Nat.pow 256 32
  parity : signature.parity < 2

theorem isShort_lower {r s : Nat} (rReduced : r < fieldPrime) (sReduced : s < order) (y : Nat) :
    (lower r s y).IsShort := by
  have primeShort : fieldPrime < Nat.pow 256 32 := by decide
  have orderShort : order < Nat.pow 256 32 := by decide
  simp only [lower]
  split
  · exact ⟨rReduced.trans primeShort, sReduced.trans orderShort, Nat.mod_lt _ (by decide)⟩
  · exact ⟨rReduced.trans primeShort, (Nat.sub_le _ _).trans_lt orderShort, Nat.mod_lt _ (by decide)⟩

/-- Whatever is signed, the signature is short. -/
theorem isShort_sign (privateKey : Nat) (hash : Bytes) : (sign privateKey hash).IsShort :=
  isShort_lower (Point.isReduced_generator.multiple _).1 (Nat.mod_lt _ (by decide)) _

end Signature

end Crypto

/-! ## The length of what is written -/

namespace Rlp

theorem length_header_le {mark length : Nat} (fits : length < lengthLimit) :
    (header mark length).length ≤ 9 := by
  simp only [header]
  split
  · simp
  · have bytes := (Bytes.length_ofNumber_le_iff length 8).mpr fits
    rw [List.length_cons]
    omega

theorem length_encodeString_le {content : Bytes} (fits : content.length < lengthLimit) :
    (encodeString content).length ≤ 9 + content.length := by
  unfold encodeString
  split
  · split <;> simp
  · rw [List.length_append]
    have header := @length_header_le stringMark _ fits
    omega

theorem length_encodeNumber_le {number width : Nat} (short : number < Nat.pow 256 width)
    (fits : width < lengthLimit) : (encodeNumber number).length ≤ 9 + width := by
  have bytes := (Bytes.length_ofNumber_le_iff number width).mpr short
  have length := length_encodeString_le (bytes.trans_lt fits)
  rw [encodeNumber]
  omega

end Rlp

/-! ## Signing -/

namespace TransactionNumbers

/-- Numbers that take up 31 bytes at most, with a payload whose length takes up 7 bytes at most. -/
structure IsOrdinary (numbers : TransactionNumbers) : Prop where
  nonce : numbers.nonce < Nat.pow 256 31
  gasPrice : numbers.gasPrice < Nat.pow 256 31
  gasLimit : numbers.gasLimit < Nat.pow 256 31
  payload : numbers.payload.length < Nat.pow 256 7
  chainId : ∀ chainId, numbers.chainId = some chainId → chainId < Nat.pow 256 31

/-- Numbers that leave room for a signature: three numbers of 32 bytes can be added to the parts, and the mark takes
up no more. -/
structure Fits (numbers : TransactionNumbers) : Prop where
  parts : numbers.parts.flatten.length + 123 < Rlp.lengthLimit
  chainId : ∀ chainId, numbers.chainId = some chainId → chainId < Nat.pow 256 31

variable {numbers : TransactionNumbers}

theorem length_parts_le {width : Nat} (nonce : numbers.nonce < Nat.pow 256 width)
    (gasPrice : numbers.gasPrice < Nat.pow 256 width) (gasLimit : numbers.gasLimit < Nat.pow 256 width)
    (payload : numbers.payload.length < Rlp.lengthLimit) (fits : width < Rlp.lengthLimit) :
    numbers.parts.flatten.length ≤ 46 + 3 * width + numbers.payload.length := by
  have nonce := Rlp.length_encodeNumber_le nonce fits
  have gasPrice := Rlp.length_encodeNumber_le gasPrice fits
  have gasLimit := Rlp.length_encodeNumber_le gasLimit fits
  have payload := Rlp.length_encodeString_le payload
  have recipient : (Rlp.encodeString []).length = 1 := rfl
  have value := Rlp.length_encodeNumber_le (show 0 < Nat.pow 256 0 by decide) (by decide)
  simp only [parts, List.flatten_cons, List.flatten_nil, List.length_append, List.length_nil]
  omega

/-- Ordinary numbers leave room for a signature. -/
theorem IsOrdinary.fits (ordinary : numbers.IsOrdinary) : numbers.Fits where
  parts := by
    have short := ordinary.payload
    have length := length_parts_le ordinary.nonce ordinary.gasPrice ordinary.gasLimit
      (short.trans (by decide)) (by decide)
    have room : 262 + Nat.pow 256 7 < Rlp.lengthLimit := by decide
    omega
  chainId := ordinary.chainId

theorem exists_listBytes {parts : List Bytes} (fits : parts.flatten.length < Rlp.lengthLimit) :
    ∃ bytes, listBytes parts = .ok bytes := by
  simp only [listBytes, Rlp.encodeList, if_pos fits]
  exact ⟨_, rfl⟩

/-- Three short numbers can be added to a transaction that leaves room for them. -/
theorem Fits.exists_listBytes_append (fits : numbers.Fits) {first second third : Nat}
    (firstShort : first < Nat.pow 256 32) (secondShort : second < Nat.pow 256 32)
    (thirdShort : third < Nat.pow 256 32) :
    ∃ bytes, listBytes (numbers.parts ++ [first, second, third].map Rlp.encodeNumber) = .ok bytes := by
  apply exists_listBytes
  have parts := fits.parts
  have first := Rlp.length_encodeNumber_le firstShort (by decide)
  have second := Rlp.length_encodeNumber_le secondShort (by decide)
  have third := Rlp.length_encodeNumber_le thirdShort (by decide)
  simp only [List.flatten_append, List.map_cons, List.map_nil, List.flatten_cons, List.flatten_nil,
    List.length_append, List.length_nil]
  omega

theorem Fits.exists_unsigned (fits : numbers.Fits) :
    ∃ bytes, listBytes numbers.unsignedParts = .ok bytes := by
  have zeroShort : 0 < Nat.pow 256 32 := by decide
  unfold unsignedParts
  split
  · apply exists_listBytes
    have parts := fits.parts
    omega
  · next chainId isChain =>
    have short := fits.chainId chainId isChain
    exact fits.exists_listBytes_append (short.trans (by decide)) zeroShort zeroShort

theorem Fits.mark_lt (fits : numbers.Fits) {parity : Nat} (isParity : parity < 2) :
    numbers.mark parity < Nat.pow 256 32 := by
  unfold mark
  split
  · exact Nat.lt_trans (show 27 + parity < 29 by omega) (by decide)
  · next chainId isChain =>
    have short := fits.chainId chainId isChain
    have room : 36 + 2 * Nat.pow 256 31 < Nat.pow 256 32 := by decide
    omega

/-- A transaction that leaves room for a signature is signed with every key. -/
theorem Fits.exists_signed (fits : numbers.Fits) (privateKey : Nat) :
    ∃ signed, numbers.sign privateKey = .ok signed := by
  rcases fits.exists_unsigned with ⟨unsigned, isUnsigned⟩
  have short := Crypto.Signature.isShort_sign privateKey (Crypto.Keccak.hash unsigned)
  rcases fits.exists_listBytes_append (fits.mark_lt short.parity) short.r short.s with ⟨raw, isRaw⟩
  simp only [sign, isUnsigned, isRaw, bind, Except.bind]
  exact ⟨_, rfl⟩

end TransactionNumbers

@[simp]
theorem TransactionFields.natural_natCast (name : String) (number : Nat) :
    natural name number = .ok number := by
  have nonneg : ¬(number : Int) < 0 := by omega
  simp [natural, nonneg]

/-- Fields that hold the numbers of a transaction are accepted as these numbers. -/
theorem TransactionFields.check_of_numbers (numbers : TransactionNumbers) {chainId : Nat}
    (isChain : numbers.chainId = some chainId) :
    check ⟨.int numbers.nonce, .int numbers.gasPrice, .int numbers.gasLimit, .bytes numbers.payload,
      .int chainId⟩ = .ok numbers := by
  rcases numbers with ⟨nonce, gasPrice, gasLimit, payload, _⟩
  obtain rfl := isChain
  simp [check, named, accepts, dataBytes, integer, Datum.isNull, bind, Except.bind, pure, Except.pure]

/-- A transaction that leaves room for a signature is signed by every signer for its chain. -/
theorem Signer.exists_signed_of_fits (signer : Signer) {numbers : TransactionNumbers} {chainId : Nat}
    (fits : numbers.Fits) (isChain : numbers.chainId = some chainId)
    (signerChain : signer.chainId = .int chainId) :
    ∃ signed, signer.sign ⟨.int numbers.nonce, .int numbers.gasPrice, .int numbers.gasLimit,
      .bytes numbers.payload, .int chainId⟩ = .ok signed := by
  rcases fits.exists_signed signer.privateKey with ⟨signed, isSigned⟩
  refine ⟨signed, ?_⟩
  simp [sign, signerChain, TransactionFields.check_of_numbers numbers isChain, bind, Except.bind, isSigned]

/-- A transaction with ordinary numbers is signed by every signer for its chain. -/
theorem Signer.exists_signed (signer : Signer) {numbers : TransactionNumbers} {chainId : Nat}
    (ordinary : numbers.IsOrdinary) (isChain : numbers.chainId = some chainId)
    (signerChain : signer.chainId = .int chainId) :
    ∃ signed, signer.sign ⟨.int numbers.nonce, .int numbers.gasPrice, .int numbers.gasLimit,
      .bytes numbers.payload, .int chainId⟩ = .ok signed :=
  signer.exists_signed_of_fits ordinary.fits isChain signerChain

end WasmDeploy
