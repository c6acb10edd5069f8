import Mathlib.Data.List.DropRight
import WasmDeploy.Proofs.Quantity

/-!
# The grammar of decimal integers

A decimal integer is written as a sign, or none, and digits of any script, of which each but the first may stand after
an underscore. This file shows that exactly what is so written is read, as the value of its digits, and what the blanks
do that are dropped from around a text before it is read.
-/

namespace WasmDeploy

/-! ## Blanks around a text -/

namespace Text

variable {blank : Char → Bool}

/-- What is left of a text stood between blanks. -/
theorem exists_blanks_trimBlanks (blank : Char → Bool) (text : List Char) :
    ∃ before after, text = before ++ trimBlanks blank text ++ after ∧
      (∀ character ∈ before, blank character = true) ∧ (∀ character ∈ after, blank character = true) := by
  refine ⟨text.takeWhile blank, (text.dropWhile blank).rtakeWhile blank, ?_, ?_, ?_⟩
  · have ends : trimBlanks blank text ++ (text.dropWhile blank).rtakeWhile blank = text.dropWhile blank :=
      List.rdropWhile_append_rtakeWhile
    rw [List.append_assoc, ends, List.takeWhile_append_dropWhile]
  · exact fun character mem => List.mem_takeWhile_imp mem
  · exact fun character mem => List.mem_rtakeWhile_imp mem

theorem dropWhile_append_of_solid {before solid : List Char} (isBefore : ∀ character ∈ before, blank character = true)
    (isSolid : ∀ character ∈ solid.head?, blank character = false) :
    (before ++ solid).dropWhile blank = solid := by
  rw [List.dropWhile_append_of_pos isBefore]
  cases solid with
  | nil => rfl
  | cons character rest => rw [List.dropWhile_cons_of_neg (by simp [isSolid character rfl])]

/-- Blanks around a text that holds none are dropped, and no more than these. -/
theorem trimBlanks_append {before solid after : List Char} (isBefore : ∀ character ∈ before, blank character = true)
    (isAfter : ∀ character ∈ after, blank character = true) (isSolid : ∀ character ∈ solid, blank character = false) :
    trimBlanks blank (before ++ solid ++ after) = solid := by
  cases solid with
  | nil =>
      have allBlank : (before ++ [] ++ after).dropWhile blank = [] :=
        List.dropWhile_eq_nil_iff.mpr (by simpa [or_imp, forall_and] using ⟨isBefore, isAfter⟩)
      rw [trimBlanks, allBlank]
      rfl
  | cons first rest =>
      have kept : (before ++ (first :: rest) ++ after).dropWhile blank = first :: rest ++ after := by
        rw [List.append_assoc]
        refine dropWhile_append_of_solid isBefore ?_
        rintro _ ⟨⟩
        exact isSolid first List.mem_cons_self
      rw [trimBlanks, kept, List.reverse_append, dropWhile_append_of_solid (by simpa using isAfter),
        List.reverse_reverse]
      exact fun character isHead => isSolid character (List.mem_reverse.mp (List.mem_of_mem_head? isHead))

theorem isBlank_of_isNumberBlank {character : Char} (isBlanked : isNumberBlank character = true) :
    isBlank character = true :=
  (Bool.and_eq_true_iff.mp isBlanked).1

/-- The code points of the blanks that are trimmed from a setting. -/
def blanks : List Nat :=
  [0x1c, 0x1d, 0x1e, 0x1f] ++ numberBlanks

theorem toNat_mem_blanks {character : Char} (isBlanked : isBlank character = true) : character.toNat ∈ blanks := by
  by_cases ends : isNumberBlank character = true
  · exact List.mem_append_right _ (toNat_mem_numberBlanks ends)
  · simp only [isNumberBlank, isBlanked, Bool.true_and, Bool.not_eq_true', Bool.not_eq_false, Bool.and_eq_true,
      decide_eq_true_eq] at ends
    simp only [blanks, List.mem_append, List.mem_cons, List.not_mem_nil, or_false]
    omega

end Text

/-! ## Integers -/

namespace Number

open Text

/-- A text is written as an unsigned integer: decimal digits of any script, of which each but the first may stand after
an underscore, and no more of them than an integer may have. -/
inductive IsMagnitude : List Char → Nat → Prop where
  | digits {first : Char} {value : Nat} {rest : List Char} {values : List Nat}
      (isDigit : digitValue? first = some value) (marked : Marked digitValue? rest values)
      (short : (value :: values).length ≤ maxIntegerDigits) :
      IsMagnitude (first :: rest) (ofDigits 10 (value :: values))

/-- A text is written as an integer: a sign, or none, and an unsigned integer. -/
inductive IsInteger : List Char → Int → Prop where
  | unsigned {text : List Char} {magnitude : Nat} (isMagnitude : IsMagnitude text magnitude) :
      IsInteger text magnitude
  | positive {text : List Char} {magnitude : Nat} (isMagnitude : IsMagnitude text magnitude) :
      IsInteger ('+' :: text) magnitude
  | negative {text : List Char} {magnitude : Nat} (isMagnitude : IsMagnitude text magnitude) :
      IsInteger ('-' :: text) (-magnitude)

/-- A text spells an integer: it is written as one, with blanks before and after it. -/
def Spells (blank : Char → Bool) (text : List Char) (value : Int) : Prop :=
  ∃ before written after, text = before ++ written ++ after ∧ (∀ character ∈ before, blank character = true) ∧
    (∀ character ∈ after, blank character = true) ∧ IsInteger written value

/-- The digits of an unsigned integer are the run at its start, and nothing follows them. -/
theorem isMagnitude_iff {text : List Char} {magnitude : Nat} :
    IsMagnitude text magnitude ↔
      ∃ digits, digitRun digitValue? text = (digits, []) ∧ digits ≠ [] ∧ digits.length ≤ maxIntegerDigits ∧
        magnitude = ofDigits 10 digits := by
  constructor
  · rintro ⟨isDigit, marked, short⟩
    have taken : digitTail digitValue? (_ ++ []) = (_, []) := digitTail_append (by decide) marked nofun
    rw [List.append_nil] at taken
    exact ⟨_, by simp [digitRun, isDigit, taken], by simp, short, rfl⟩
  · rintro ⟨digits, taken, given, short, rfl⟩
    cases text with
    | nil => cases taken; exact absurd rfl given
    | cons first rest =>
        rcases exists_marked_of_digitTail digitValue? rest with ⟨run, isRest, marked⟩
        cases isDigit : digitValue? first with
        | none => simp [digitRun, isDigit] at taken
        | some value =>
            simp only [digitRun, isDigit, Prod.mk.injEq] at taken
            rcases taken with ⟨rfl, ended⟩
            rw [ended, List.append_nil] at isRest
            exact .digits isDigit (isRest ▸ marked) short

/-- An unsigned integer starts with a digit, so with neither of the signs. -/
theorem IsMagnitude.readSign_eq {text : List Char} {magnitude : Nat} (isMagnitude : IsMagnitude text magnitude) :
    readSign text = (false, text) := by
  cases isMagnitude with
  | digits isDigit =>
      unfold readSign
      split
      · next isHead =>
        rw [(List.cons.inj isHead).1] at isDigit
        cases (show digitValue? '+' = none by decide).symm.trans isDigit
      · next isHead =>
        rw [(List.cons.inj isHead).1] at isDigit
        cases (show digitValue? '-' = none by decide).symm.trans isDigit
      · rfl

/-- An integer is read by its sign and by what its digits stand for. -/
theorem readInteger?_eq_some_iff_sign {text : List Char} {value : Int} :
    readInteger? text = some value ↔
      ∃ magnitude, IsMagnitude (readSign text).2 magnitude ∧
        value = if (readSign text).1 then -(magnitude : Int) else magnitude := by
  simp only [isMagnitude_iff, readInteger?]
  rcases taken : digitRun digitValue? (readSign text).2 with ⟨digits, rest⟩
  constructor
  · intro isRead
    split at isRead
    · cases isRead
    · next complete =>
      simp only [Bool.or_eq_true, List.isEmpty_iff, Bool.not_eq_true', decide_eq_true_eq, not_or, Bool.not_eq_false,
        not_lt] at complete
      rcases complete with ⟨⟨given, ended⟩, short⟩
      exact ⟨_, ⟨digits, by rw [ended], given, short, rfl⟩, (Option.some.inj isRead).symm⟩
  · rintro ⟨magnitude, ⟨_, isSame, given, short, rfl⟩, rfl⟩
    cases isSame
    rw [if_neg]
    simpa [given] using short

/-- Exactly what is written as an integer is read as one. -/
theorem readInteger?_eq_some_iff {text : List Char} {value : Int} :
    readInteger? text = some value ↔ IsInteger text value := by
  rw [readInteger?_eq_some_iff_sign]
  constructor
  · rintro ⟨magnitude, isMagnitude, rfl⟩
    unfold readSign at isMagnitude ⊢
    split at isMagnitude
    · exact .positive isMagnitude
    · exact .negative isMagnitude
    · exact .unsigned isMagnitude
  · rintro (⟨isMagnitude⟩ | ⟨isMagnitude⟩ | ⟨isMagnitude⟩)
    · exact ⟨_, by rwa [isMagnitude.readSign_eq], by simp [isMagnitude.readSign_eq]⟩
    · exact ⟨_, isMagnitude, rfl⟩
    · exact ⟨_, isMagnitude, rfl⟩

/-! ## Integers between blanks -/

/-- No blank is a part of an integer. -/
theorem not_part_of_isBlank {character : Char} (isBlanked : isBlank character = true) :
    digitValue? character = none ∧ character ≠ '_' ∧ character ≠ '+' ∧ character ≠ '-' := by
  have each : ∀ codePoint ∈ blanks, digitValue? (Char.ofNat codePoint) = none ∧ Char.ofNat codePoint ≠ '_' ∧
      Char.ofNat codePoint ≠ '+' ∧ Char.ofNat codePoint ≠ '-' := by decide
  simpa using each character.toNat (toNat_mem_blanks isBlanked)

theorem isBlank_of_digitValue? {character : Char} {value : Nat} (isDigit : digitValue? character = some value) :
    isBlank character = false := by
  rw [Bool.eq_false_iff]
  intro isBlanked
  cases (not_part_of_isBlank isBlanked).1.symm.trans isDigit

theorem Marked.solid {run : List Char} {values : List Nat} (marked : Marked digitValue? run values) :
    ∀ character ∈ run, isBlank character = false := by
  induction marked with
  | nil => nofun
  | plain isDigit _ ih => exact List.forall_mem_cons.mpr ⟨isBlank_of_digitValue? isDigit, ih⟩
  | marked isDigit _ ih =>
      exact List.forall_mem_cons.mpr ⟨by decide, List.forall_mem_cons.mpr ⟨isBlank_of_digitValue? isDigit, ih⟩⟩

theorem IsMagnitude.solid {text : List Char} {magnitude : Nat} (isMagnitude : IsMagnitude text magnitude) :
    ∀ character ∈ text, isBlank character = false := by
  cases isMagnitude with
  | digits isDigit marked => exact List.forall_mem_cons.mpr ⟨isBlank_of_digitValue? isDigit, marked.solid⟩

theorem IsInteger.solid {text : List Char} {value : Int} (isInteger : IsInteger text value) :
    ∀ character ∈ text, isBlank character = false := by
  cases isInteger with
  | unsigned isMagnitude => exact isMagnitude.solid
  | positive isMagnitude => exact List.forall_mem_cons.mpr ⟨by decide, isMagnitude.solid⟩
  | negative isMagnitude => exact List.forall_mem_cons.mpr ⟨by decide, isMagnitude.solid⟩

/-- What is left of a text without its blanks is read as an integer exactly if the text spells it. -/
theorem readInteger?_trimBlanks_eq_some_iff {blank : Char → Bool}
    (isBlanked : ∀ character, blank character = true → isBlank character = true) {text : List Char} {value : Int} :
    readInteger? (trimBlanks blank text) = some value ↔ Spells blank text value := by
  rw [readInteger?_eq_some_iff]
  constructor
  · intro isInteger
    rcases exists_blanks_trimBlanks blank text with ⟨before, after, isText, isBefore, isAfter⟩
    exact ⟨before, _, after, isText, isBefore, isAfter, isInteger⟩
  · rintro ⟨before, written, after, rfl, isBefore, isAfter, isInteger⟩
    rwa [trimBlanks_append isBefore isAfter fun character mem => ?_]
    rw [Bool.eq_false_iff]
    exact fun blanked => absurd (isBlanked character blanked) (by simp [isInteger.solid character mem])

/-- A text spells one integer at most, whatever is blank. -/
theorem Spells.unique {blank : Char → Bool}
    (isBlanked : ∀ character, blank character = true → isBlank character = true) {text : List Char}
    {value other : Int} (spells : Spells blank text value) (spellsToo : Spells blank text other) : value = other :=
  Option.some.inj (((readInteger?_trimBlanks_eq_some_iff isBlanked).mpr spells).symm.trans
    ((readInteger?_trimBlanks_eq_some_iff isBlanked).mpr spellsToo))

/-- Where fewer characters are blank, fewer texts spell an integer, but they spell the same one. -/
theorem Spells.mono {fewer more : Char → Bool} (implied : ∀ character, fewer character = true → more character = true)
    {text : List Char} {value : Int} (spells : Spells fewer text value) : Spells more text value := by
  rcases spells with ⟨before, written, after, isText, isBefore, isAfter, isInteger⟩
  exact ⟨before, written, after, isText, fun character mem => implied character (isBefore character mem),
    fun character mem => implied character (isAfter character mem), isInteger⟩

end Number

end WasmDeploy
