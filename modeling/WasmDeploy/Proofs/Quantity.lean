import Mathlib.Data.List.Forall2
import WasmDeploy.Proofs.Json
import WasmDeploy.Quantity

/-!
# The grammar of quantities

A quantity is written as `0x` and hexadecimal digits. This file compares that with what is read as a quantity.
Everything that is so written is read as the value of its digits, but more is read than is so written: a digit may
stand after an underscore, it may be one of any script, and blanks may follow the last one. What is not read as a
number is refused by the name of the member that it was found in. Every number that is spelled out is read back,
whatever its size.
-/

namespace WasmDeploy

/-! ## Runs of digits -/

namespace Number

/-- Digits in a row, each of them after an underscore or without one, and their values. -/
inductive Marked (digit : Char → Option Nat) : List Char → List Nat → Prop where
  | nil : Marked digit [] []
  | plain {character : Char} {value : Nat} {text : List Char} {values : List Nat}
      (isDigit : digit character = some value) (rest : Marked digit text values) :
      Marked digit (character :: text) (value :: values)
  | marked {character : Char} {value : Nat} {text : List Char} {values : List Nat}
      (isDigit : digit character = some value) (rest : Marked digit text values) :
      Marked digit ('_' :: character :: text) (value :: values)

variable {digit : Char → Option Nat}

/-- What is taken for a run of digits is one. -/
theorem exists_marked_of_digitTail (digit : Char → Option Nat) (text : List Char) :
    ∃ run, text = run ++ (digitTail digit text).2 ∧ Marked digit run (digitTail digit text).1 := by
  fun_induction digitTail digit text with
  | case1 => exact ⟨[], rfl, .nil⟩
  | case2 character rest value isDigit values remaining read ih =>
      rw [read] at ih
      rcases ih with ⟨run, rfl, marked⟩
      exact ⟨'_' :: character :: run, rfl, .marked isDigit marked⟩
  | case3 character rest noDigit => exact ⟨[], rfl, .nil⟩
  | case4 character rest unmarked value isDigit values remaining read ih =>
      rw [read] at ih
      rcases ih with ⟨run, rfl, marked⟩
      exact ⟨character :: run, rfl, .plain isDigit marked⟩
  | case5 character rest unmarked noDigit => exact ⟨[], rfl, .nil⟩

/-- A run of digits is taken to its end if nothing follows that could continue it. -/
theorem digitTail_append (noMark : digit '_' = none) {run : List Char} {values : List Nat}
    (marked : Marked digit run values) {rest : List Char}
    (stops : ∀ character ∈ rest.head?, digit character = none ∧ character ≠ '_') :
    digitTail digit (run ++ rest) = (values, rest) := by
  -- Only where the run ends is it looked at what follows; an underscore there would need a digit after it.
  induction marked with
  | nil =>
      cases rest with
      | nil => rfl
      | cons character rest =>
          rcases stops character rfl with ⟨noDigit, unmarked⟩
          rw [List.nil_append, digitTail.eq_3 _ _ _ fun _ _ isMark => absurd isMark unmarked, noDigit]
  | @plain character value run values isDigit marked ih =>
      have unmarked : character ≠ '_' := by
        rintro rfl
        cases noMark.symm.trans isDigit
      rw [List.cons_append, digitTail.eq_3 _ _ _ fun _ _ isMark => absurd isMark unmarked, isDigit, ih]
  | marked isDigit marked ih => rw [List.cons_append, List.cons_append, digitTail, isDigit, ih]

/-- A number is written with some digits that stand for it. -/
theorem exists_digits (number : Nat) :
    ∃ digits, digits ≠ [] ∧ (∀ digit ∈ digits, digit < 16) ∧
      Nat.toDigits 16 number = digits.map Nat.digitChar ∧ ofDigits 16 digits = number := by
  induction number using Nat.strongRecOn with
  | _ number ih =>
      rw [Nat.toDigits_eq_if (by decide)]
      split
      · next isDigit => exact ⟨[number], by simp, by simpa using isDigit, by simp, by simp [ofDigits]⟩
      · next isLonger =>
        rcases ih (number / 16) (by omega) with ⟨digits, _, small, isWritten, value⟩
        refine ⟨digits ++ [number % 16], by simp, ?_, by simp [isWritten], ?_⟩
        · simp only [List.mem_append, List.mem_singleton]
          rintro digit (mem | rfl)
          · exact small digit mem
          · omega
        · simp only [ofDigits, List.foldl_append, List.foldl_cons, List.foldl_nil] at value ⊢
          rw [value]
          omega

theorem ofDigits_replicate_append (base zeros : Nat) (values : List Nat) :
    ofDigits base (List.replicate zeros 0 ++ values) = ofDigits base values := by
  induction zeros with
  | zero => rfl
  | succ zeros ih => simpa [ofDigits, List.replicate_succ] using ih

end Number

/-! ## Characters -/

namespace Text

/-- A text that shows no replacement character is told by the characters that show it. -/
theorem eq_ofCharacters {text : Text} (faithful : CodePoint.replacement ∉ text.characters) :
    text = ofCharacters text.characters := by
  rcases text with ⟨points⟩
  rw [ofCharacters, Text.mk.injEq, characters, List.map_map]
  refine (List.map_id points).symm.trans (List.map_congr_left fun point mem => ?_)
  cases point with
  | char character => rfl
  | half unit => exact absurd (List.mem_map.mpr ⟨CodePoint.half unit, mem, rfl⟩) faithful

/-- What holds of every ASCII character is checked one by one. -/
theorem forall_ascii {p : Char → Prop} (each : ∀ codePoint : Fin 0x80, p (Char.ofNat codePoint)) {character : Char}
    (ascii : character.toNat < 0x80) : p character := by
  have holds := each ⟨character.toNat, ascii⟩
  rwa [Char.ofNat_toNat] at holds

/-- The code points of the blanks that may follow a number. -/
def numberBlanks : List Nat :=
  [0x09, 0x0a, 0x0b, 0x0c, 0x0d, 0x20, 0x85, 0xa0, 0x1680, 0x2000, 0x2001, 0x2002, 0x2003, 0x2004, 0x2005,
   0x2006, 0x2007, 0x2008, 0x2009, 0x200a, 0x2028, 0x2029, 0x202f, 0x205f, 0x3000]

theorem toNat_mem_numberBlanks {character : Char} (blank : isNumberBlank character = true) :
    character.toNat ∈ numberBlanks := by
  simp only [isNumberBlank, isBlank, Bool.and_eq_true, Bool.or_eq_true, decide_eq_true_eq, beq_iff_eq,
    Bool.not_eq_true', Bool.and_eq_false_iff, decide_eq_false_iff_not] at blank
  simp only [numberBlanks, List.mem_cons, List.not_mem_nil, or_false]
  omega

end Text

namespace Quantity

open Text

theorem not_digit_of_isNumberBlank {character : Char} (blank : isNumberBlank character = true) :
    digit? character = none ∧ character ≠ '_' := by
  have each : ∀ codePoint ∈ numberBlanks,
      digit? (Char.ofNat codePoint) = none ∧ Char.ofNat codePoint ≠ '_' := by decide
  simpa using each character.toNat (toNat_mem_numberBlanks blank)

/-- Among the ASCII characters the digits are the hexadecimal ones. -/
theorem digit?_of_ascii {character : Char} (ascii : character.toNat < 0x80) :
    digit? character = hexDigitValue? character :=
  forall_ascii (p := fun character => digit? character = hexDigitValue? character) (by decide) ascii

theorem ascii_of_hexDigitValue? {character : Char} {value : Nat}
    (isDigit : hexDigitValue? character = some value) : character.toNat < 0x80 := by
  simp only [hexDigitValue?] at isDigit
  split at isDigit
  · omega
  · split at isDigit
    · omega
    · split at isDigit
      · omega
      · cases isDigit

/-- What follows the mark of a quantity is a run of digits with blanks after it, in which an underscore may stand
before the first digit as well. -/
theorem readDigits?_eq (text : List Char) :
    readDigits? text =
      if (Number.digitTail digit? text).1.isEmpty || !(Number.digitTail digit? text).2.all isNumberBlank then none
      else some (Number.ofDigits 16 (Number.digitTail digit? text).1) := by
  rcases text with _ | ⟨character, rest⟩
  · rfl
  -- One underscore is skipped before the run is looked for; a run that has none at its start reads on as a tail.
  by_cases isMark : character = '_'
  · subst isMark
    rcases rest with _ | ⟨character, rest⟩
    · rfl
    · cases isDigit : digit? character <;> simp [readDigits?, Number.digitRun, Number.digitTail, isDigit]
  · rw [Number.digitTail.eq_3 _ _ _ fun _ _ marked => absurd marked isMark]
    simp only [readDigits?]
    split
    · next marked => exact absurd (List.cons.inj marked).1 isMark
    · rfl

/-- What is read after the mark of a quantity, in full. -/
theorem readDigits?_eq_some_iff {text : List Char} {number : Nat} :
    readDigits? text = some number ↔
      ∃ run blanks values, text = run ++ blanks ∧ values ≠ [] ∧ Number.Marked digit? run values ∧
        (∀ blank ∈ blanks, isNumberBlank blank = true) ∧ number = Number.ofDigits 16 values := by
  rw [readDigits?_eq]
  constructor
  · intro isRead
    rcases Number.exists_marked_of_digitTail digit? text with ⟨run, isText, marked⟩
    split at isRead
    · cases isRead
    · next complete =>
      simp only [Bool.or_eq_true, List.isEmpty_iff, Bool.not_eq_true', not_or, Bool.not_eq_false,
        List.all_eq_true] at complete
      exact ⟨run, _, _, isText, complete.1, marked, complete.2, (Option.some.inj isRead).symm⟩
  · rintro ⟨run, blanks, values, rfl, given, marked, blank, rfl⟩
    have taken : Number.digitTail digit? (run ++ blanks) = (values, blanks) :=
      Number.digitTail_append (by decide) marked fun character isHead =>
        not_digit_of_isNumberBlank (blank character (List.mem_of_mem_head? isHead))
    rw [taken, if_neg]
    simpa [given] using blank

/-! ## Texts that are read as quantities -/

/-- Hexadecimal digits of either case in a row, and their values. -/
def AreHexDigits (digits : List Char) (values : List Nat) : Prop :=
  List.Forall₂ (fun character value => hexDigitValue? character = some value) digits values

/-- A text is written as a quantity: `0x` and hexadecimal digits of either case, which stand for the number. -/
def IsNumeral (text : Text) (number : Nat) : Prop :=
  ∃ digits values, text = .ofCharacters ('0' :: 'x' :: digits) ∧ digits ≠ [] ∧
    AreHexDigits digits values ∧ number = Number.ofDigits 16 values

/-- A text reads as a quantity: `0x`, digits of any script or hexadecimal letters, each after an underscore or
without one, and blanks. -/
def Reads (text : Text) (number : Nat) : Prop :=
  ∃ run blanks values, text = .ofCharacters ('0' :: 'x' :: (run ++ blanks)) ∧ values ≠ [] ∧
    Number.Marked digit? run values ∧ (∀ blank ∈ blanks, isNumberBlank blank = true) ∧
    number = Number.ofDigits 16 values

/-- A text is plain: it holds ASCII characters only, and no underscore or blank among them. -/
def IsPlain (text : Text) : Prop :=
  ∀ character ∈ text.characters,
    character.toNat < 0x80 ∧ character ≠ '_' ∧ isNumberBlank character = false

theorem AreHexDigits.marked {digits : List Char} {values : List Nat} (stand : AreHexDigits digits values) :
    Number.Marked digit? digits values := by
  induction stand with
  | nil => exact .nil
  | cons isDigit _ ih =>
      exact .plain ((digit?_of_ascii (ascii_of_hexDigitValue? isDigit)).trans isDigit) ih

/-- In a plain text the digits are hexadecimal ones in a row. -/
theorem areHexDigits_of_marked {run : List Char} {values : List Nat} (marked : Number.Marked digit? run values)
    (plain : ∀ character ∈ run, character.toNat < 0x80 ∧ character ≠ '_') :
    AreHexDigits run values := by
  induction marked with
  | nil => exact .nil
  | plain isDigit _ ih =>
      rcases List.forall_mem_cons.mp plain with ⟨⟨ascii, _⟩, plain⟩
      exact .cons ((digit?_of_ascii ascii).symm.trans isDigit) (ih plain)
  | marked => exact absurd rfl (plain _ List.mem_cons_self).2

theorem IsNumeral.reads {text : Text} {number : Nat} (numeral : IsNumeral text number) : Reads text number := by
  rcases numeral with ⟨digits, values, rfl, given, stand, rfl⟩
  refine ⟨digits, [], values, by rw [List.append_nil], ?_, stand.marked, by simp, rfl⟩
  rintro rfl
  exact given (List.forall₂_nil_right_iff.mp stand)

/-- A plain text that reads as a quantity is written as one. -/
theorem Reads.isNumeral {text : Text} {number : Nat} (reads : Reads text number) (plain : IsPlain text) :
    IsNumeral text number := by
  rcases reads with ⟨run, blanks, values, rfl, given, marked, blank, rfl⟩
  simp only [IsPlain, characters_ofCharacters, List.forall_mem_cons, List.forall_mem_append] at plain
  rcases plain with ⟨_, _, plainRun, plainBlanks⟩
  obtain rfl : blanks = [] := List.eq_nil_iff_forall_not_mem.mpr fun character mem => by
    simpa [blank character mem] using (plainBlanks character mem).2.2
  have stand := areHexDigits_of_marked marked fun character mem =>
    ⟨(plainRun character mem).1, (plainRun character mem).2.1⟩
  refine ⟨run, values, by rw [List.append_nil], ?_, stand, rfl⟩
  rintro rfl
  exact given (List.forall₂_nil_left_iff.mp stand)

theorem replacement_not_mem_of_marked {run : List Char} {values : List Nat}
    (marked : Number.Marked digit? run values) : CodePoint.replacement ∉ run := by
  have noDigit {value : Nat} : digit? CodePoint.replacement ≠ some value := by
    rw [show digit? CodePoint.replacement = none by decide]
    exact Option.some_ne_none value |>.symm
  induction marked with
  | nil => exact List.not_mem_nil
  | plain isDigit _ ih =>
      rintro (_ | ⟨_, mem⟩)
      · exact noDigit isDigit
      · exact ih mem
  | marked isDigit _ ih =>
      rintro (_ | ⟨_, _ | ⟨_, mem⟩⟩)
      · exact noDigit isDigit
      · exact ih mem

/-! ## Decoding -/

/-- Exactly what reads as a quantity is decoded. -/
theorem decode_text_eq_ok_iff {field : String} {text : Text} {number : Int} :
    decode field (.text text) = .ok number ↔ ∃ natural : Nat, number = natural ∧ Reads text natural := by
  constructor
  · intro decoded
    simp only [decode] at decoded
    split at decoded
    · next digits shown =>
      split at decoded
      · next natural isRead =>
        rcases readDigits?_eq_some_iff.mp isRead with ⟨run, blanks, values, rfl, given, marked, blank, isValue⟩
        refine ⟨natural, (Except.ok.inj decoded).symm, run, blanks, values, ?_, given, marked, blank, isValue⟩
        -- No digit and no blank is shown as half a pair is, so the characters tell the text.
        rw [← shown]
        apply Text.eq_ofCharacters
        rw [shown]
        simp only [List.mem_cons, List.mem_append, not_or]
        refine ⟨by decide, by decide, replacement_not_mem_of_marked marked, fun mem => ?_⟩
        exact absurd (blank _ mem) (by decide)
      · cases decoded
    · cases decoded
  · rintro ⟨natural, rfl, run, blanks, values, rfl, given, marked, blank, isValue⟩
    have isRead : readDigits? (run ++ blanks) = some natural :=
      readDigits?_eq_some_iff.mpr ⟨run, blanks, values, rfl, given, marked, blank, isValue⟩
    simp [decode, isRead]

theorem decode_eq_refuse {field : String} {value : Datum} (noText : ∀ text, value ≠ .text text) :
    decode field value = value.refuse (.quantityExpected field value) := by
  cases value with
  | text text => exact absurd rfl (noText text)
  | _ => rfl

/-- Whatever is decoded is a text that reads as a quantity. -/
theorem decode_eq_ok_iff {field : String} {value : Datum} {number : Int} :
    decode field value = .ok number ↔
      ∃ text natural, value = .text text ∧ number = Int.ofNat natural ∧ Reads text natural := by
  by_cases isText : ∃ text, value = .text text
  · rcases isText with ⟨text, rfl⟩
    simp [decode_text_eq_ok_iff]
  · rw [decode_eq_refuse fun text isOne => isText ⟨text, isOne⟩]
    constructor
    · exact fun decoded => absurd decoded (Datum.refuse_ne_ok value _ _)
    · rintro ⟨text, _, isOne, _⟩
      exact absurd ⟨text, isOne⟩ isText

/-- A text is refused in one of two ways: the mark is missing, or what follows the mark is no number. -/
theorem decode_text_refused {field : String} {text : Text}
    (refused : ∀ number, decode field (.text text) ≠ .ok number) :
    decode field (.text text) = fail (.quantityExpected field (.text text)) ∨
      decode field (.text text) = fail (.quantityInvalid field text) := by
  simp only [decode] at refused ⊢
  split
  · next digits shown =>
    cases isRead : readDigits? digits with
    | some natural => simp [shown, isRead] at refused
    | none => exact .inr rfl
  · exact .inl rfl

/-! ## Numbers that are spelled out -/

/-- A text spells a number as a quantity: `0x`, any number of zeros and the hexadecimal digits of the number, each in
either letter case. -/
def Spells (text : Text) (number : Nat) : Prop :=
  ∃ zeros digits, text = .ofCharacters ('0' :: 'x' :: (List.replicate zeros '0' ++ digits)) ∧
    digits.map Char.toLower = Nat.toDigits 16 number

theorem hexDigitValue?_toLower (character : Char) :
    hexDigitValue? character.toLower = hexDigitValue? character := by
  by_cases ascii : character.toNat < 0x80
  · exact forall_ascii (p := fun character => hexDigitValue? character.toLower = hexDigitValue? character)
      (by decide) ascii
  · have same : character.toLower = character := dif_neg fun ⟨_, upper⟩ =>
      ascii (Nat.lt_of_le_of_lt (UInt32.le_iff_toNat_le.mp upper) (by decide))
    rw [same]

theorem hexDigitValue?_digitChar {digit : Nat} (small : digit < 16) :
    hexDigitValue? (Nat.digitChar digit) = some digit := by
  have each : ∀ digit : Fin 16, hexDigitValue? (Nat.digitChar digit.val) = some digit.val := by decide
  exact each ⟨digit, small⟩

theorem toLower_digitChar {digit : Nat} (small : digit < 16) :
    (Nat.digitChar digit).toLower = Nat.digitChar digit := by
  have each : ∀ digit : Fin 16, (Nat.digitChar digit.val).toLower = Nat.digitChar digit.val := by decide
  exact each ⟨digit, small⟩

theorem areHexDigits_of_map_toLower {digits : List Char} {values : List Nat} (small : ∀ value ∈ values, value < 16)
    (lower : digits.map Char.toLower = values.map Nat.digitChar) :
    AreHexDigits digits values := by
  induction values generalizing digits with
  | nil =>
      obtain rfl := List.map_eq_nil_iff.mp lower
      exact .nil
  | cons value values ih =>
      rcases List.map_eq_cons_iff.mp lower with ⟨character, digits, rfl, isDigit, lower⟩
      rcases List.forall_mem_cons.mp small with ⟨isSmall, small⟩
      refine .cons ?_ (ih small lower)
      rw [← hexDigitValue?_toLower, isDigit, hexDigitValue?_digitChar isSmall]

theorem areHexDigits_replicate_zero (zeros : Nat) :
    AreHexDigits (List.replicate zeros '0') (List.replicate zeros 0) := by
  induction zeros with
  | zero => exact .nil
  | succ zeros ih => exact .cons (by decide) ih

/-- What spells a number is written as a quantity. -/
theorem Spells.isNumeral {text : Text} {number : Nat} (spells : Spells text number) : IsNumeral text number := by
  rcases spells with ⟨zeros, digits, rfl, lower⟩
  rcases Number.exists_digits number with ⟨values, given, small, isWritten, isValue⟩
  have stand := areHexDigits_of_map_toLower small (lower.trans isWritten)
  refine ⟨_, List.replicate zeros 0 ++ values, rfl, ?_, ?_, ?_⟩
  · intro empty
    obtain rfl := (List.append_eq_nil_iff.mp empty).2
    exact given (List.forall₂_nil_left_iff.mp stand)
  · exact List.rel_append (areHexDigits_replicate_zero zeros) stand
  · rw [Number.ofDigits_replicate_append, isValue]

theorem Spells.decode {text : Text} {number : Nat} (spells : Spells text number) (field : String) :
    decode field (.text text) = .ok number :=
  decode_text_eq_ok_iff.mpr ⟨number, rfl, spells.isNumeral.reads⟩

theorem spells_hexQuantity (number : Nat) : Spells (Text.hexQuantity number) number := by
  have lower : (Nat.toDigits 16 number).map Char.toLower = Nat.toDigits 16 number := by
    rcases Number.exists_digits number with ⟨values, _, small, isWritten, _⟩
    rw [isWritten, List.map_map]
    exact List.map_congr_left fun value mem => toLower_digitChar (small value mem)
  exact ⟨0, Nat.toDigits 16 number, by simp [Text.ofString, Text.hexQuantity], lower⟩

/-- A number written as a quantity is read back. -/
theorem decode_hexQuantity (field : String) (number : Nat) :
    decode field (.text (Text.hexQuantity number)) = .ok number :=
  (spells_hexQuantity number).decode field

/-! ## What is decoded -/

/-- What is decoded from a value: exactly the texts that read as a quantity give a number, those that are plain if
and only if they are written as one, and any other value is refused as a malformed reply that names the member.
Only a value that no message can show is refused otherwise. -/
structure DecodesWhatReads (field : String) (value : Datum) : Prop where
  accepted : ∀ number, decode field value = .ok number ↔
    ∃ text natural, value = .text text ∧ number = Int.ofNat natural ∧ Reads text natural
  numeral : ∀ text natural, value = .text text → IsNumeral text natural → decode field value = .ok natural
  plain : ∀ text number, value = .text text → IsPlain text → decode field value = .ok number →
    ∃ natural, number = Int.ofNat natural ∧ IsNumeral text natural
  refused : (∀ number, decode field value ≠ .ok number) → value.isShowable = true →
    ∃ cause, decode field value = fail cause ∧ cause.kind = .malformedReply ∧
      (cause = .quantityExpected field value ∨ ∃ text, value = .text text ∧ cause = .quantityInvalid field text)
  unshowable : value.isShowable = false → decode field value = reject .tooManyDigits

theorem decodesWhatReads_text (field : String) (text : Text) : DecodesWhatReads field (.text text) where
  accepted _ := decode_eq_ok_iff
  numeral := by
    rintro _ natural ⟨⟩ numeral
    exact decode_text_eq_ok_iff.mpr ⟨natural, rfl, numeral.reads⟩
  plain := by
    rintro _ number ⟨⟩ plain decoded
    rcases decode_text_eq_ok_iff.mp decoded with ⟨natural, isNumber, reads⟩
    exact ⟨natural, isNumber, reads.isNumeral plain⟩
  refused := by
    intro refused _
    rcases decode_text_refused refused with ended | ended
    · exact ⟨_, ended, rfl, .inl rfl⟩
    · exact ⟨_, ended, rfl, .inr ⟨text, rfl, rfl⟩⟩
  unshowable := nofun

theorem decodesWhatReads_of_noText (field : String) {value : Datum} (noText : ∀ text, value ≠ .text text) :
    DecodesWhatReads field value where
  accepted _ := decode_eq_ok_iff
  numeral text _ isText := absurd isText (noText text)
  plain text _ isText := absurd isText (noText text)
  refused _ showable :=
    ⟨_, by rw [decode_eq_refuse noText, Datum.refuse, if_pos showable], rfl, .inl rfl⟩
  unshowable unshowable := by
    rw [decode_eq_refuse noText, Datum.refuse, if_neg (by simp [unshowable])]

/-- Every member of an answer is decoded by what reads as a quantity. -/
theorem decode_decodesWhatReads (field : String) (value : Datum) : DecodesWhatReads field value := by
  by_cases isText : ∃ text, value = .text text
  · rcases isText with ⟨text, rfl⟩
    exact decodesWhatReads_text field text
  · exact decodesWhatReads_of_noText field fun text isOne => isText ⟨text, isOne⟩

/-- Not all that is decoded is written as a quantity: an underscore may stand between two digits. -/
theorem exists_decoded_not_isNumeral :
    ¬∀ field text number, decode field (.text text) = .ok number ↔
      ∃ natural : Nat, number = natural ∧ IsNumeral text natural := by
  intro exact
  have decoded : decode "quantity" (.text "0x1_0") = .ok 16 := rfl
  rcases (exact _ _ _).mp decoded with ⟨natural, _, digits, values, isText, _, stand, _⟩
  obtain rfl : digits = ['1', '_', '0'] := by
    have shown := congrArg Text.characters isText
    rw [characters_ofCharacters] at shown
    exact (List.cons.inj (List.cons.inj shown).2).2.symm
  rcases stand with _ | ⟨_, _ | ⟨isDigit, _⟩⟩
  cases (show hexDigitValue? '_' = none by decide).symm.trans isDigit

end Quantity

end WasmDeploy
