import Mathlib.Data.Nat.Digits.Lemmas
import WasmDeploy.Datum.Arithmetic
import WasmDeploy.Json.Reader

/-!
# What is read from JSON

A JSON text writes each integer digit by digit, and one with more digits than can be read back is no integer. So
whatever is read from a JSON text can be shown in a message. A text that opens more containers than may be open is
given up at the first one too many, whatever follows.
-/

namespace WasmDeploy

/-! ## Digits that were read -/

namespace Number

variable {digit : Char → Option Nat} {base : Nat}

theorem lt_of_mem_digitTail (isBase : ∀ character value, digit character = some value → value < base)
    (text : List Char) : ∀ value ∈ (digitTail digit text).1, value < base := by
  fun_induction digitTail digit text with
  | case1 => simp
  | case2 character rest value isDigit values remaining read ih =>
      rw [read] at ih
      exact List.forall_mem_cons.mpr ⟨isBase _ _ isDigit, ih⟩
  | case3 => simp
  | case4 character rest _ value isDigit values remaining read ih =>
      rw [read] at ih
      exact List.forall_mem_cons.mpr ⟨isBase _ _ isDigit, ih⟩
  | case5 => simp

theorem lt_of_mem_digitRun (isBase : ∀ character value, digit character = some value → value < base)
    (text : List Char) : ∀ value ∈ (digitRun digit text).1, value < base := by
  unfold digitRun
  split
  · simp
  · split
    · next isDigit => exact List.forall_mem_cons.mpr ⟨isBase _ _ isDigit, lt_of_mem_digitTail isBase _⟩
    · simp

/-- The library counts the digits of a number from the least significant one. -/
theorem ofDigits_eq (base : Nat) (digits : List Nat) :
    ofDigits base digits = Nat.ofDigits base digits.reverse := by
  rw [ofDigits, Nat.ofDigits_eq_foldr, List.foldr_reverse]
  congr 1
  funext value digit
  rw [Nat.cast_id, mul_comm, add_comm]

theorem natAbs_lt_of_readInteger? {text : List Char} {number : Int}
    (isRead : readInteger? text = some number) : number.natAbs < Nat.pow 10 maxIntegerDigits := by
  simp only [readInteger?] at isRead
  split at isRead
  · cases isRead
  · next fits =>
    simp only [Bool.or_eq_true, decide_eq_true_eq, not_or, not_lt] at fits
    have small := lt_of_mem_digitRun
      (fun character value (isDigit : Text.digitValue? character = some value) =>
        Text.digitValue?_lt_ten isDigit) (readSign text).2
    generalize (digitRun Text.digitValue? (readSign text).2).1 = digits at isRead fits small
    -- The bound stays a name: no proof should compute a power with thousands of digits.
    generalize maxIntegerDigits = most at fits ⊢
    have below : ofDigits 10 digits < Nat.pow 10 most := by
      rw [ofDigits_eq]
      apply (Nat.ofDigits_lt_base_pow_length (by decide) fun value mem =>
        small value (List.mem_reverse.mp mem)).trans_le
      rw [List.length_reverse]
      exact Nat.pow_le_pow_right (by decide) fits.2
    obtain rfl := Option.some.inj isRead
    split
    · rwa [Int.natAbs_neg, Int.natAbs_natCast]
    · rwa [Int.natAbs_natCast]

end Number

/-! ## Values that were read -/

namespace Datum

theorem areShowableMembers_insertMember {value : Datum} {members : List (Text × Datum)}
    (showable : value.isShowable = true) (others : areShowableMembers members = true) (key : Text) :
    areShowableMembers (insertMember key value members) = true := by
  induction members with
  | nil => simp [insertMember, areShowableMembers, showable]
  | cons member rest ih =>
      rcases member with ⟨other, old⟩
      simp only [areShowableMembers, Bool.and_eq_true] at others
      rw [insertMember]
      split
      · simp [areShowableMembers, showable, others.2]
      · simp [areShowableMembers, others.1, ih others.2]

theorem isShowable_of_member? {members : List (Text × Datum)} {key : Text} {value : Datum}
    (showable : areShowableMembers members = true) (isMember : member? members key = some value) :
    value.isShowable = true := by
  induction members with
  | nil => cases isMember
  | cons member rest ih =>
      rcases member with ⟨other, first⟩
      simp only [areShowableMembers, Bool.and_eq_true] at showable
      simp only [member?, List.lookup_cons] at isMember
      split at isMember
      · cases isMember
        exact showable.1
      · exact ih showable.2 isMember

/-- A member of an object can be shown if the object can, and so can null in the place of a missing one. -/
theorem isShowable_getD_member? {members : List (Text × Datum)} (showable : areShowableMembers members = true)
    (key : Text) : ((member? members key).getD .null).isShowable = true := by
  cases isMember : member? members key with
  | none => rfl
  | some value => exact isShowable_of_member? showable isMember

end Datum

namespace Json

theorem isShowable_of_readWord? {text rest : List Char} {value : Datum}
    (isRead : readWord? text = some (value, rest)) : value.isShowable = true := by
  rcases List.exists_of_findSome?_eq_some isRead with ⟨⟨word, meant⟩, isWord, found⟩
  obtain ⟨_, _, same⟩ := Option.map_eq_some_iff.mp found
  obtain ⟨rfl, _⟩ := Prod.mk.inj same
  simp only [words, List.mem_cons, Prod.mk.injEq, List.not_mem_nil, or_false] at isWord
  rcases isWord with ⟨_, rfl⟩ | ⟨_, rfl⟩ | ⟨_, rfl⟩ | ⟨_, rfl⟩ | ⟨_, rfl⟩ | ⟨_, rfl⟩ <;> rfl

theorem isShowable_of_readNumber? {text rest : List Char} {value : Datum}
    (isRead : readNumber? text = some (value, rest)) : value.isShowable = true := by
  simp only [readNumber?, Option.bind_eq_bind, Option.bind_eq_some_iff] at isRead
  rcases isRead with ⟨⟨whole, rest⟩, _, isRead⟩
  dsimp only at isRead
  split at isRead
  · rcases Option.bind_eq_some_iff.mp isRead with ⟨number, isInteger, made⟩
    cases made
    rw [Datum.isShowable, decide_eq_true_iff]
    exact Number.natAbs_lt_of_readInteger? isInteger
  · rcases Option.bind_eq_some_iff.mp isRead with ⟨number, _, made⟩
    cases made
    rfl

theorem isShowable_of_readPlain? {text rest : List Char} {value : Datum}
    (isRead : ((readWord? text).orElse fun _ => readNumber? text) = some (value, rest)) :
    value.isShowable = true := by
  cases isWord : readWord? text with
  | some read =>
      rw [isWord] at isRead
      exact isShowable_of_readWord? (isWord.trans isRead)
  | none =>
      rw [isWord] at isRead
      exact isShowable_of_readNumber? isRead

theorem eq_some_of_orMalformed {α : Type} {found : Option α} {value : α}
    (isFound : orMalformed found = .ok value) : found = some value := by
  cases found with
  | none => cases isFound
  | some value => exact congrArg some (Except.ok.inj isFound)

theorem eq_ok_of_map_eq_ok {α β : Type} {result : Except Refusal α} {change : α → β} {value : β}
    (ends : result.map change = .ok value) : ∃ before, result = .ok before ∧ change before = value := by
  cases result with
  | error refusal => cases ends
  | ok before => exact ⟨before, rfl, Except.ok.inj ends⟩

/-- Whatever the readers of parts read can be shown, however many steps they take. -/
theorem areShowable_of_read (steps : Nat) :
    (∀ room text value rest, readValue steps room text = .ok (value, rest) → value.isShowable = true) ∧
      (∀ room text items rest, readItems steps room text = .ok (items, rest) →
        Datum.areShowable items = true) ∧
      ∀ room before text members rest, Datum.areShowableMembers before = true →
        readMembers steps room before text = .ok (members, rest) →
          Datum.areShowableMembers members = true := by
  induction steps with
  | zero => simp [readValue, readItems, readMembers]
  | succ steps ih =>
      rcases ih with ⟨ofValue, ofItems, ofMembers⟩
      refine ⟨?value, ?items, ?members⟩
      case value =>
        intro room text value rest isRead
        unfold readValue at isRead
        split at isRead
        · rcases eq_ok_of_map_eq_ok isRead with ⟨_, _, made⟩
          cases made
          rfl
        · split at isRead
          · cases isRead
          · split at isRead
            · cases isRead
              rfl
            · rcases eq_ok_of_map_eq_ok isRead with ⟨⟨items, after⟩, itemsRead, made⟩
              cases made
              exact ofItems _ _ _ _ itemsRead
        · split at isRead
          · cases isRead
          · split at isRead
            · cases isRead
              rfl
            · rcases eq_ok_of_map_eq_ok isRead with ⟨⟨members, after⟩, membersRead, made⟩
              cases made
              exact ofMembers _ _ _ _ _ rfl membersRead
        · exact isShowable_of_readPlain? (eq_some_of_orMalformed isRead)
      case items =>
        intro room text items rest isRead
        unfold readItems at isRead
        split at isRead
        · cases isRead
        · next item after itemRead =>
          have first := ofValue _ _ _ _ itemRead
          split at isRead
          · rcases eq_ok_of_map_eq_ok isRead with ⟨⟨others, after⟩, othersRead, made⟩
            cases made
            simp [Datum.areShowable, first, ofItems _ _ _ _ othersRead]
          · cases isRead
            simp [Datum.areShowable, first]
          · cases isRead
      case members =>
        intro room before text members rest showable isRead
        unfold readMembers at isRead
        split at isRead
        · split at isRead
          · cases isRead
          · split at isRead
            · split at isRead
              · cases isRead
              · next valueRead =>
                have inserted := Datum.areShowableMembers_insertMember (ofValue _ _ _ _ valueRead) showable
                split at isRead
                · exact ofMembers _ _ _ _ _ (inserted _) isRead
                · cases isRead
                  exact inserted _
                · cases isRead
            · cases isRead
        · cases isRead

/-- Whatever is read from a JSON text can be shown in a message. -/
theorem isShowable_of_read {text : String} {value : Datum} (isRead : read text = .ok value) :
    value.isShowable = true := by
  simp only [read] at isRead
  split at isRead
  · cases isRead
  · next valueRead =>
    split at isRead
    · cases isRead
      exact (areShowable_of_read _).1 _ _ _ _ valueRead
    · cases isRead

/-! ## Texts that are nested too deep -/

/-- There is no room for one bracket more, and each step into a list takes two steps. -/
theorem readValue_brackets {room steps : Nat} (enough : 2 * room < steps) (rest : List Char) :
    readValue steps room (List.replicate (room + 1) '[' ++ rest) = .error (.tooDeep .array) := by
  induction room generalizing steps with
  | zero =>
      obtain ⟨steps, rfl⟩ := Nat.exists_eq_add_of_lt enough
      simp [readValue]
  | succ room ih =>
      obtain ⟨steps, rfl⟩ : ∃ more, steps = more + 2 := ⟨steps - 2, by omega⟩
      have inner := @ih steps (by omega)
      simp only [List.replicate_succ, List.cons_append] at inner ⊢
      simp [readValue, readItems, skipSpace, isSpace, inner, Except.map]

/-- A text that starts with more brackets than may be open is not read. -/
theorem read_brackets (rest : List Char) :
    read (String.ofList (List.replicate (maxDepth + 1) '[' ++ rest)) = .error (.tooDeep .array) := by
  have starts : skipSpace (List.replicate (maxDepth + 1) '[' ++ rest) =
      List.replicate (maxDepth + 1) '[' ++ rest := by
    simp [skipSpace, List.replicate_succ, isSpace]
  simp only [read, String.toList_ofList, starts]
  rw [readValue_brackets (by simp; omega)]

end Json

end WasmDeploy
