import WasmDeploy.Rlp

/-!
# Reading and writing the encoding

This file shows that reading and writing are inverse to each other: some bytes are read as a list of byte strings
if and only if they are what the list is written as. So each list has one encoding, nothing may follow it, and no
part of it has a longer form. The numbers of a list have no leading zeros, so they have one encoding as well.
-/

namespace WasmDeploy

namespace Bytes

/-- A number has at most so many bytes if and only if it is below the power of 256. -/
theorem length_ofNumber_le_iff (number width : Nat) :
    (ofNumber number).length ≤ width ↔ number < Nat.pow 256 width := by
  rw [Nat.pow_eq]
  induction number using ofNumber.induct generalizing width with
  | case1 =>
      rw [ofNumber]
      exact iff_of_true (Nat.zero_le _) (Nat.pow_pos (by decide))
  | case2 number positive ih =>
      rw [ofNumber, if_neg positive, List.length_append, List.length_singleton]
      cases width with
      | zero => simp [positive]
      | succ width =>
          rw [Nat.add_le_add_iff_right, ih, Nat.div_lt_iff_lt_mul (by decide), Nat.pow_succ]

/-- The first byte of a number is not zero. -/
theorem head?_ofNumber (number : Nat) : (ofNumber number).head? ≠ some 0 := by
  induction number using ofNumber.induct with
  | case1 => simp [ofNumber]
  | case2 number positive ih =>
      rw [ofNumber, if_neg positive]
      rcases below : ofNumber (number / 256) with _ | ⟨first, rest⟩
      · have small : number / 256 = 0 := by
          rw [← toNumber_ofNumber (number / 256), below]
          rfl
        intro isZero
        have asNumber : number % 256 = 0 := by
          simpa using congrArg (Option.map UInt8.toNat) isZero
        omega
      · simpa [below] using ih

end Bytes

namespace Rlp

/-! ## Headers -/

section

variable {mark length : Nat} {bytes rest : Bytes}

/-- The first byte of the header of a short part. -/
theorem toNat_shortMark (isMark : mark ≤ listMark) (isShort : length ≤ maxShortLength) :
    (UInt8.ofNat (mark + length)).toNat = mark + length := by
  simp only [listMark] at isMark
  simp only [maxShortLength] at isShort
  rw [UInt8.toNat_ofNat']
  omega

/-- The first byte of the header of a long part. -/
theorem toNat_longMark (isMark : mark ≤ listMark) (fits : length < lengthLimit) :
    (UInt8.ofNat (mark + maxShortLength + (Bytes.ofNumber length).length)).toNat =
      mark + maxShortLength + (Bytes.ofNumber length).length := by
  have wordFits : (Bytes.ofNumber length).length ≤ 8 := (Bytes.length_ofNumber_le_iff _ _).mpr fits
  simp only [listMark] at isMark
  simp only [maxShortLength]
  rw [UInt8.toNat_ofNat']
  omega

/-- A header starts with a byte that is not below its mark. -/
theorem header_eq_cons (isMark : mark ≤ listMark) (fits : length < lengthLimit) :
    ∃ first tail, header mark length = first :: tail ∧ mark ≤ first.toNat := by
  simp only [header]
  split
  · next isShort =>
    refine ⟨_, _, rfl, ?_⟩
    rw [toNat_shortMark isMark isShort]
    omega
  · refine ⟨_, _, rfl, ?_⟩
    rw [toNat_longMark isMark fits]
    omega

/-- What a header announces is read back. -/
theorem readHeader?_header (isMark : mark ≤ listMark) (fits : length < lengthLimit) :
    readHeader? mark (header mark length ++ rest) = some (length, rest) := by
  by_cases isShort : length ≤ maxShortLength
  · rw [header, if_pos isShort]
    simp only [List.singleton_append, readHeader?, toNat_shortMark isMark isShort]
    rw [if_neg, if_pos]
    · simp
    · omega
    · simp only [maxShortLength] at isShort
      omega
  · rw [header, if_neg isShort]
    have wordFits : (Bytes.ofNumber length).length ≤ 8 :=
      (Bytes.length_ofNumber_le_iff _ _).mpr fits
    have nonempty : 0 < (Bytes.ofNumber length).length := by
      rw [Nat.pos_iff_ne_zero]
      intro isEmpty
      have isZero : length < 1 := (Bytes.length_ofNumber_le_iff length 0).mp (Nat.le_of_eq isEmpty)
      simp only [maxShortLength] at isShort
      omega
    have announced : mark + maxShortLength + (Bytes.ofNumber length).length - mark - maxShortLength =
        (Bytes.ofNumber length).length := by omega
    simp only [List.cons_append, readHeader?, toNat_longMark isMark fits, announced]
    rw [if_neg, if_neg, List.take_left, List.drop_left, Bytes.toNumber_ofNumber, if_pos]
    · exact ⟨rfl, by omega, rfl⟩
    · omega
    · simp only [maxShortLength]
      omega

/-- Bytes that a header is read from start with that header. -/
theorem eq_header_append_of_readHeader? (isRead : readHeader? mark bytes = some (length, rest)) :
    bytes = header mark length ++ rest ∧ length < lengthLimit := by
  cases bytes with
  | nil => cases isRead
  | cons first tail =>
      simp only [readHeader?] at isRead
      split at isRead
      · cases isRead
      next inRange =>
      have firstByte : UInt8.ofNat first.toNat = first := UInt8.ofNat_toNat
      split at isRead
      · next isShort =>
        obtain ⟨rfl, rfl⟩ : first.toNat - mark = length ∧ tail = rest := by simpa using isRead
        rw [header, if_pos isShort, show mark + (first.toNat - mark) = first.toNat by omega, firstByte]
        have belowLimit : maxShortLength < lengthLimit := by decide
        exact ⟨rfl, Nat.lt_of_le_of_lt isShort belowLimit⟩
      · next isLong =>
        split at isRead
        · next canonical =>
          rcases canonical with ⟨isWord, aboveShort, isWhole⟩
          obtain ⟨isLength, rfl⟩ : _ = length ∧ _ = rest := by simpa using isRead
          rw [isLength] at isWord aboveShort
          constructor
          · rw [header, if_neg (by omega)]
            simp only [isWord, isWhole]
            rw [show mark + maxShortLength + (first.toNat - mark - maxShortLength) = first.toNat by omega,
              firstByte, List.cons_append, List.take_append_drop]
          · apply (Bytes.length_ofNumber_le_iff _ 8).mp
            rw [isWord, isWhole]
            simp only [maxShortLength]
            omega
        · cases isRead

end

/-! ## Byte strings -/

section

variable {content bytes rest : Bytes}

/-- A byte string that does not stand for itself is written with a header. -/
theorem encodeString_eq_header (notItself : ∀ byte : UInt8, content = [byte] → ¬byte < 0x80) :
    encodeString content = header stringMark content.length ++ content := by
  simp only [encodeString]
  split
  · next byte =>
    rw [if_neg (notItself byte rfl)]
    rfl
  · rfl

/-- A byte string that is written is read back. -/
theorem readString?_encodeString (fits : content.length < lengthLimit) :
    readString? (encodeString content ++ rest) = some (content, rest) := by
  by_cases itself : ∃ byte : UInt8, content = [byte] ∧ byte < 0x80
  · rcases itself with ⟨byte, rfl, isSmall⟩
    simp [encodeString, readString?, isSmall]
  · have notItself (byte : UInt8) (isByte : content = [byte]) : ¬byte < 0x80 :=
      fun isSmall => itself ⟨byte, isByte, isSmall⟩
    have isMark : stringMark ≤ listMark := by decide
    rw [encodeString_eq_header notItself, List.append_assoc]
    have header := @readHeader?_header stringMark content.length (content ++ rest) isMark fits
    rcases header_eq_cons isMark fits with ⟨first, tail, starts, isAbove⟩
    rw [starts, List.cons_append] at header ⊢
    have notSmall : ¬first < 0x80 := by
      rw [UInt8.lt_iff_toNat_lt]
      exact Nat.not_lt.mpr isAbove
    have wide : content.all (fun byte => content.length ≠ 1 ∨ 0x80 ≤ byte) = true := by
      rw [List.all_eq_true]
      intro byte mem
      rw [decide_eq_true_iff]
      by_cases isSingle : content.length = 1
      · rcases List.length_eq_one_iff.mp isSingle with ⟨only, isOnly⟩
        rw [isOnly, List.mem_singleton] at mem
        exact Or.inr (UInt8.not_lt.mp (mem ▸ notItself only isOnly))
      · exact Or.inl isSingle
    simp only [readString?, if_neg notSmall, header, List.take_left, List.drop_left, wide, and_self,
      if_true]

/-- Bytes that a byte string is read from start with what it is written as. -/
theorem eq_encodeString_append_of_readString? (isRead : readString? bytes = some (content, rest)) :
    bytes = encodeString content ++ rest ∧ content.length < lengthLimit := by
  cases bytes with
  | nil => cases isRead
  | cons first tail =>
      simp only [readString?] at isRead
      split at isRead
      · next isSmall =>
        obtain ⟨rfl, rfl⟩ : [first] = content ∧ tail = rest := by simpa using isRead
        simp [encodeString, isSmall, lengthLimit]
      · split at isRead
        · cases isRead
        · next _ length behind isHeader =>
          split at isRead
          · next whole =>
            obtain ⟨rfl, rfl⟩ : _ = content ∧ _ = rest := by simpa using isRead
            rcases eq_header_append_of_readHeader? isHeader with ⟨starts, fits⟩
            refine ⟨?_, by omega⟩
            rw [encodeString_eq_header, whole.1, starts, List.append_assoc, List.take_append_drop]
            intro byte isByte
            have isSingle : length = 1 := by simpa [isByte] using whole.1.symm
            have wide := whole.2
            rw [isByte, isSingle] at wide
            simpa using wide
          · cases isRead

/-- Byte strings that are written one after another are read back. -/
theorem readStrings?_encodeStrings {contents : List Bytes}
    (fit : ∀ content ∈ contents, content.length < lengthLimit) :
    readStrings? (contents.map encodeString).flatten = some contents := by
  induction contents with
  | nil =>
      rw [List.map_nil, List.flatten_nil, readStrings?]
      rfl
  | cons content contents ih =>
      have isRead := @readString?_encodeString content (contents.map encodeString).flatten
        (fit content List.mem_cons_self)
      have nonempty : (encodeString content ++ (contents.map encodeString).flatten).isEmpty = false := by
        rw [List.isEmpty_eq_false_iff]
        intro isEmpty
        rw [isEmpty] at isRead
        cases isRead
      rw [List.map_cons, List.flatten_cons, readStrings?, nonempty]
      simp only [Bool.false_eq_true, if_false]
      split
      · next isNone => simp [isRead] at isNone
      · next first behind isSome =>
        obtain ⟨rfl, rfl⟩ : content = first ∧ _ = behind := by simpa [isRead] using isSome
        rw [ih fun content mem => fit content (List.mem_cons_of_mem _ mem)]
        rfl

/-- Bytes that byte strings are read from are what these are written as. -/
theorem eq_encodeStrings_of_readStrings? {contents : List Bytes}
    (isRead : readStrings? bytes = some contents) :
    bytes = (contents.map encodeString).flatten ∧
      ∀ content ∈ contents, content.length < lengthLimit := by
  induction bytes using readStrings?.induct generalizing contents with
  | case1 bytes isEmpty =>
      rw [readStrings?, if_pos isEmpty] at isRead
      cases isRead
      simpa using isEmpty
  | case2 bytes nonempty isNone =>
      rw [readStrings?, if_neg nonempty] at isRead
      split at isRead
      · cases isRead
      · next isSome => simp [isNone] at isSome
  | case3 bytes nonempty content rest isSome ih =>
      rw [readStrings?, if_neg nonempty] at isRead
      split at isRead
      · cases isRead
      · next first behind isFirst =>
        obtain ⟨rfl, rfl⟩ : content = first ∧ rest = behind := by simpa [isSome] using isFirst
        rcases isRest : readStrings? rest with _ | others
        · simp [isRest] at isRead
        · obtain rfl : content :: others = contents := by simpa [isRest] using isRead
          rcases ih isRest with ⟨spelled, fit⟩
          rcases eq_encodeString_append_of_readString? isSome with ⟨starts, fits⟩
          constructor
          · rw [starts, spelled, List.map_cons, List.flatten_cons]
          · intro other mem
            rcases List.mem_cons.mp mem with rfl | mem
            · exact fits
            · exact fit other mem

end

/-! ## Lists -/

/-- Writing a byte string does not shorten it. -/
theorem length_le_length_encodeString (content : Bytes) :
    content.length ≤ (encodeString content).length := by
  simp only [encodeString]
  split
  · split <;> simp
  · simp

/-- Some bytes are read as a list of byte strings if and only if they are what the list is written as. -/
theorem decodeList?_eq_some_iff (bytes : Bytes) (contents : List Bytes) :
    decodeList? bytes = some contents ↔ encodeList (contents.map encodeString) = some bytes := by
  have isMark : listMark ≤ listMark := Nat.le_refl _
  constructor
  · intro isRead
    simp only [decodeList?] at isRead
    split at isRead
    · cases isRead
    next length body isHeader =>
    split at isRead
    · next isWhole =>
      rcases eq_header_append_of_readHeader? isHeader with ⟨starts, fits⟩
      rcases eq_encodeStrings_of_readStrings? isRead with ⟨spelled, _⟩
      rw [encodeList, ← spelled, isWhole, if_pos fits, starts]
    · cases isRead
  · intro isWritten
    simp only [encodeList] at isWritten
    split at isWritten
    · next fits =>
      have partsFit : ∀ content ∈ contents, content.length < lengthLimit := by
        intro content mem
        have part := List.mem_map_of_mem mem (f := encodeString)
        have shorter := (List.sublist_flatten_of_mem part).length_le
        have longer := length_le_length_encodeString content
        omega
      have spelled := Option.some.inj isWritten
      rw [decodeList?, ← spelled, readHeader?_header isMark fits]
      simp only [if_true]
      exact readStrings?_encodeStrings partsFit
    · cases isWritten

/-- A list has one encoding. -/
theorem decodeList?_inj {first second : Bytes} {contents : List Bytes}
    (firstRead : decodeList? first = some contents) (secondRead : decodeList? second = some contents) :
    first = second := by
  rw [decodeList?_eq_some_iff] at firstRead secondRead
  exact Option.some.inj (firstRead.symm.trans secondRead)

end Rlp

end WasmDeploy
