import WasmDeploy.Proofs.Defects
import WasmDeploy.Proofs.Quantity
import WasmDeploy.Signer

/-!
# Private keys

This file compares the texts that are read as private keys with the way keys are written: 64 hexadecimal digits of
either case, optionally after `0x`. Exactly the texts that are so written and stand for a number below the order of
the curve give a signer; everything else is refused as a key. The signer is told by the number alone, so that neither
the mark nor the letter case shows in an address or a signature.
-/

namespace WasmDeploy

/-! ## Keys that are refused -/

namespace Signer

/-- A text has the form of a key: 64 hexadecimal digits, optionally after a mark. -/
def IsKeyText (text : Text) : Prop :=
  (keyDigits text.characters).length = 64 ∧
    ∀ digit ∈ keyDigits text.characters, (Text.hexDigitValue? digit).isSome = true

instance (text : Text) : Decidable (IsKeyText text) :=
  inferInstanceAs (Decidable (_ ∧ _))

/-- The number that hexadecimal digits stand for. -/
def keyNumber (text : Text) : Nat :=
  ((keyDigits text.characters).map Text.hexDigitValue?).foldl
    (fun number digit => number * 16 + digit.getD 0) 0

/-- Why a key is refused: it is no text, it does not have the form of a key, or its number is too large. -/
inductive Refuses : Datum → Failure → Prop where
  | notText {key : Datum} (isOther : ∀ text, key ≠ .text text) : Refuses key .keyNotText
  | malformed {text : Text} (isOther : ¬IsKeyText text) : Refuses (.text text) .keyMalformed
  | tooLarge {text : Text} (isKey : IsKeyText text)
      (isLarge : Crypto.Secp256k1.order ≤ keyNumber text) : Refuses (.text text) .keyTooLarge

theorem not_isKeyText_iff (text : Text) :
    ((keyDigits text.characters).map Text.hexDigitValue?).length ≠ 64 ∨
      ((keyDigits text.characters).map Text.hexDigitValue?).contains none = true ↔ ¬IsKeyText text := by
  have noneAt : ((keyDigits text.characters).map Text.hexDigitValue?).contains none = true ↔
      ¬∀ digit ∈ keyDigits text.characters, (Text.hexDigitValue? digit).isSome = true := by
    simp
  rw [noneAt, List.length_map, IsKeyText, not_and_or]

theorem readKey_text (text : Text) :
    readKey (.text text) = if ¬IsKeyText text then fail .keyMalformed
      else if keyNumber text < Crypto.Secp256k1.order then .ok (keyNumber text) else fail .keyTooLarge :=
  if_congr (not_isKeyText_iff text) rfl rfl

theorem readKey_of_refuses {key : Datum} {cause : Failure} (refuses : Refuses key cause) :
    readKey key = fail cause := by
  cases refuses with
  | notText isOther =>
      cases key with
      | text text => exact absurd rfl (isOther text)
      | _ => rfl
  | malformed isOther => rw [readKey_text, if_pos isOther]
  | tooLarge isKey isLarge =>
      rw [readKey_text, if_neg (not_not.mpr isKey), if_neg (Nat.not_lt.mpr isLarge)]

/-- There are no other reasons to refuse a key. -/
theorem readKey_eq_error_iff (key : Datum) (fault : Fault) :
    readKey key = .error fault ↔ ∃ cause, Refuses key cause ∧ fault = .of cause := by
  constructor
  · intro refused
    cases key with
    | text text =>
        rw [readKey_text] at refused
        split at refused
        · next isOther => exact ⟨_, .malformed isOther, (Except.error.inj refused).symm⟩
        split at refused
        · cases refused
        · next isKey isLarge =>
          exact ⟨_, .tooLarge (not_not.mp isKey) (Nat.not_lt.mp isLarge), (Except.error.inj refused).symm⟩
    | _ => exact ⟨_, .notText nofun, (Except.error.inj refused).symm⟩
  · rintro ⟨cause, refuses, rfl⟩
    exact readKey_of_refuses refuses

end Signer

/-! ## How keys are written -/

namespace Text

/-- A character is a hexadecimal digit of either case, and this is its value. -/
def IsHexDigit (character : Char) (value : Nat) : Prop :=
  "0123456789abcdef".toList[value]? = some character ∨ "0123456789ABCDEF".toList[value]? = some character

theorem hexDigitValue?_of_isHexDigit {character : Char} {value : Nat} (isDigit : IsHexDigit character value) :
    hexDigitValue? character = some value := by
  have each : ∀ value : Fin 16, hexDigitValue? ("0123456789abcdef".toList.get value) = some value.val ∧
      hexDigitValue? ("0123456789ABCDEF".toList.get value) = some value.val := by decide
  rcases isDigit with isLower | isUpper
  · rcases List.getElem?_eq_some_iff.mp isLower with ⟨small, rfl⟩
    exact (each ⟨value, small⟩).1
  · rcases List.getElem?_eq_some_iff.mp isUpper with ⟨small, rfl⟩
    exact (each ⟨value, small⟩).2

/-- The characters that are read as hexadecimal digits are the hexadecimal digits. -/
theorem hexDigitValue?_eq_some_iff {character : Char} {value : Nat} :
    hexDigitValue? character = some value ↔ IsHexDigit character value := by
  refine ⟨fun isRead => ?_, hexDigitValue?_of_isHexDigit⟩
  have each : ∀ codePoint : Fin 0x80, ∀ value ∈ hexDigitValue? (Char.ofNat codePoint),
      "0123456789abcdef".toList[value]? = some (Char.ofNat codePoint) ∨
        "0123456789ABCDEF".toList[value]? = some (Char.ofNat codePoint) := by decide
  exact forall_ascii (p := fun character => ∀ value ∈ hexDigitValue? character, IsHexDigit character value) each
    (Quantity.ascii_of_hexDigitValue? isRead) value isRead

end Text

namespace Signer

/-- A text is written as a key: 64 hexadecimal digits of either case, optionally after `0x`, which stand for the
number. -/
def IsKey (text : Text) (number : Nat) : Prop :=
  ∃ mark digits values, mark ∈ ["", "0x"] ∧ text = .ofCharacters (mark.toList ++ digits) ∧
    digits.length = 64 ∧ List.Forall₂ Text.IsHexDigit digits values ∧ number = Number.ofDigits 16 values

/-- A mark is told from the digits that it precedes. -/
theorem keyDigits_append {mark : String} (isMark : mark ∈ ["", "0x"]) {digits : List Char} {values : List Nat}
    (stand : List.Forall₂ Text.IsHexDigit digits values) : keyDigits (mark.toList ++ digits) = digits := by
  have noDigit {value : Nat} : ¬Text.IsHexDigit 'x' value := by
    intro isDigit
    cases Text.hexDigitValue?_of_isHexDigit isDigit
  rcases List.mem_pair.mp isMark with rfl | rfl
  · show keyDigits digits = digits
    unfold keyDigits
    split
    · rcases stand with _ | ⟨_, _ | ⟨isDigit, _⟩⟩
      exact absurd isDigit noDigit
    · rfl
  · rfl

/-- The mark and the digits of a key are the characters that it is written with. -/
theorem exists_mark (characters : List Char) :
    ∃ mark ∈ ["", "0x"], characters = mark.toList ++ keyDigits characters := by
  unfold keyDigits
  split
  · exact ⟨"0x", by simp, rfl⟩
  · exact ⟨"", by simp, rfl⟩

theorem map_hexDigitValue? {digits : List Char} {values : List Nat}
    (stand : List.Forall₂ Text.IsHexDigit digits values) :
    digits.map Text.hexDigitValue? = values.map some := by
  induction stand with
  | nil => rfl
  | cons isDigit _ ih => rw [List.map_cons, List.map_cons, Text.hexDigitValue?_of_isHexDigit isDigit, ih]

theorem exists_values {digits : List Char} (areDigits : ∀ digit ∈ digits, (Text.hexDigitValue? digit).isSome) :
    ∃ values, List.Forall₂ Text.IsHexDigit digits values := by
  induction digits with
  | nil => exact ⟨[], .nil⟩
  | cons digit rest ih =>
      rcases List.forall_mem_cons.mp areDigits with ⟨isDigit, areDigits⟩
      rcases Option.isSome_iff_exists.mp isDigit with ⟨value, isValue⟩
      rcases ih areDigits with ⟨values, stand⟩
      exact ⟨value :: values, .cons (Text.hexDigitValue?_eq_some_iff.mp isValue) stand⟩

theorem keyNumber_of_stand {text : Text} {values : List Nat}
    (stand : List.Forall₂ Text.IsHexDigit (keyDigits text.characters) values) :
    keyNumber text = Number.ofDigits 16 values := by
  rw [keyNumber, map_hexDigitValue? stand, List.foldl_map]
  rfl

theorem IsKey.isKeyText {text : Text} {number : Nat} (isKey : IsKey text number) :
    IsKeyText text ∧ keyNumber text = number := by
  rcases isKey with ⟨mark, digits, values, isMark, rfl, long, stand, rfl⟩
  have isDigits : keyDigits (Text.ofCharacters (mark.toList ++ digits)).characters = digits := by
    rw [Text.characters_ofCharacters, keyDigits_append isMark stand]
  refine ⟨⟨by rw [isDigits, long], ?_⟩, keyNumber_of_stand (by rwa [isDigits])⟩
  rw [isDigits]
  intro digit mem
  have isRead : Text.hexDigitValue? digit ∈ values.map some := by
    rw [← map_hexDigitValue? stand]
    exact List.mem_map_of_mem mem
  rcases List.mem_map.mp isRead with ⟨value, _, isValue⟩
  rw [← isValue]
  rfl

/-- A text that has the form of a key is written as one; no digit is shown as half a pair is. -/
theorem isKey_keyNumber {text : Text} (isKeyText : IsKeyText text) : IsKey text (keyNumber text) := by
  rcases isKeyText with ⟨long, areDigits⟩
  rcases exists_values areDigits with ⟨values, stand⟩
  rcases exists_mark text.characters with ⟨mark, isMark, written⟩
  refine ⟨mark, keyDigits text.characters, values, isMark, ?_, long, stand, keyNumber_of_stand stand⟩
  rw [← written]
  apply Text.eq_ofCharacters
  rw [written, List.mem_append, not_or]
  constructor
  · rcases List.mem_pair.mp isMark with rfl | rfl <;> decide
  · intro mem
    exact absurd (areDigits _ mem) (by decide)

theorem isKey_iff {text : Text} {number : Nat} : IsKey text number ↔ IsKeyText text ∧ keyNumber text = number := by
  refine ⟨IsKey.isKeyText, ?_⟩
  rintro ⟨isKeyText, rfl⟩
  exact isKey_keyNumber isKeyText

/-- Exactly the keys below the order of the curve are read. -/
theorem readKey_text_eq_ok_iff {text : Text} {number : Nat} :
    readKey (.text text) = .ok number ↔ IsKey text number ∧ number < Crypto.Secp256k1.order := by
  rw [isKey_iff, readKey_text]
  split
  · next isOther => exact ⟨nofun, fun isKey => absurd isKey.1.1 isOther⟩
  · next isKeyText =>
    rw [not_not] at isKeyText
    split
    · next small =>
      constructor
      · intro isRead
        cases isRead
        exact ⟨⟨isKeyText, rfl⟩, small⟩
      · rintro ⟨⟨_, rfl⟩, _⟩
        rfl
    · next isLarge =>
      refine ⟨nofun, ?_⟩
      rintro ⟨⟨_, rfl⟩, small⟩
      exact absurd small isLarge

/-- A text that is not read is refused as a key. -/
theorem readKey_text_refused {text : Text} (unread : ∀ number, readKey (.text text) ≠ .ok number) :
    ∃ cause, readKey (.text text) = fail cause ∧ cause.kind = .privateKey := by
  cases isRead : readKey (.text text) with
  | ok number => exact absurd isRead (unread number)
  | error fault =>
      rcases (readKey_eq_error_iff _ _).mp isRead with ⟨cause, refuses, rfl⟩
      refine ⟨cause, rfl, ?_⟩
      cases refuses <;> rfl

/-! ## The signer of a key -/

theorem ofKey_eq_map (key chainId : Datum) : ofKey key chainId = (readKey key).map (⟨·, chainId⟩) := by
  cases isRead : readKey key <;> simp [ofKey, isRead, Except.map, bind, Except.bind, pure, Except.pure]

/-- A signer signs the numbers of the fields, once they are checked. -/
theorem sign_eq_ok {signer : Signer} {fields : TransactionFields} {signed : SignedTransaction}
    (isSigned : signer.sign fields = .ok signed) :
    ∃ numbers, fields.check = .ok numbers ∧ numbers.sign signer.privateKey = .ok signed := by
  simp only [sign] at isSigned
  split at isSigned
  · rcases bind_eq_ok isSigned with ⟨_, ended, _⟩
    exact absurd ended (Datum.refuse_ne_ok _ _ _)
  · exact bind_eq_ok isSigned

/-- Two signers cannot be told apart: they have the same address, neither signs a transaction in another way than the
other, and if they are for the same chain they end alike with every transaction and nonce. -/
structure IsLike (signer other : Signer) : Prop where
  address : signer.address = other.address
  signed : ∀ (transaction : DeploymentTransaction) (nonce : Datum) (signed otherSigned : SignedTransaction),
    signer.sign (transaction.fields nonce) = .ok signed →
      other.sign (transaction.fields nonce) = .ok otherSigned → signed = otherSigned
  ends : signer.chainId = other.chainId → ∀ (transaction : DeploymentTransaction) (nonce : Datum),
    signer.sign (transaction.fields nonce) = other.sign (transaction.fields nonce)

theorem isLike_of_privateKey_eq {signer other : Signer} (same : signer.privateKey = other.privateKey) :
    signer.IsLike other where
  address := congrArg addressOfKey same
  signed := by
    intro transaction nonce signed otherSigned isSigned isOtherSigned
    rcases sign_eq_ok isSigned with ⟨numbers, isChecked, isSigned⟩
    rcases sign_eq_ok isOtherSigned with ⟨otherNumbers, isOtherChecked, isOtherSigned⟩
    cases isChecked.symm.trans isOtherChecked
    rw [same] at isSigned
    exact Except.ok.inj (isSigned.symm.trans isOtherSigned)
  ends := by
    intro sameChain transaction nonce
    rcases signer with ⟨privateKey, chainId⟩
    cases same
    cases sameChain
    rfl

/-- The texts that give a signer for a chain are the keys below the order of the curve, every other text is refused as
a key, and keys for the same number give signers that cannot be told apart. -/
structure TakesKeys (text : Text) (chainId : Datum) : Prop where
  accepted : ∀ signer, ofKey (.text text) chainId = .ok signer ↔
    ∃ number, IsKey text number ∧ number < Crypto.Secp256k1.order ∧ signer = ⟨number, chainId⟩
  refused : (∀ number, IsKey text number → Crypto.Secp256k1.order ≤ number) →
    ∃ cause, ofKey (.text text) chainId = fail cause ∧ cause.kind = .privateKey
  alike : ∀ other otherChain number, IsKey text number → IsKey other number → number < Crypto.Secp256k1.order →
    ∃ signer otherSigner, ofKey (.text text) chainId = .ok signer ∧
      ofKey (.text other) otherChain = .ok otherSigner ∧ signer.IsLike otherSigner

/-- Exactly the documented keys are accepted, whatever the chain. -/
theorem ofKey_takesKeys (text : Text) (chainId : Datum) : TakesKeys text chainId where
  accepted := by
    intro signer
    rw [ofKey_eq_map]
    constructor
    · intro isSigner
      rcases map_eq_ok isSigner with ⟨number, isRead, rfl⟩
      rcases readKey_text_eq_ok_iff.mp isRead with ⟨isKey, small⟩
      exact ⟨number, isKey, small, rfl⟩
    · rintro ⟨number, isKey, small, rfl⟩
      rw [readKey_text_eq_ok_iff.mpr ⟨isKey, small⟩]
      rfl
  refused := by
    intro isOther
    have unread (number : Nat) : readKey (.text text) ≠ .ok number := by
      intro isRead
      rcases readKey_text_eq_ok_iff.mp isRead with ⟨isKey, small⟩
      exact absurd small (Nat.not_lt.mpr (isOther number isKey))
    rcases readKey_text_refused unread with ⟨cause, isRefused, isKind⟩
    refine ⟨cause, ?_, isKind⟩
    rw [ofKey_eq_map, isRefused]
    rfl
  alike := by
    intro other otherChain number isKey isOtherKey small
    refine ⟨⟨number, chainId⟩, ⟨number, otherChain⟩, ?_, ?_, isLike_of_privateKey_eq rfl⟩
    · rw [ofKey_eq_map, readKey_text_eq_ok_iff.mpr ⟨isKey, small⟩]
      rfl
    · rw [ofKey_eq_map, readKey_text_eq_ok_iff.mpr ⟨isOtherKey, small⟩]
      rfl

end Signer

end WasmDeploy
