import Mathlib.Data.List.TakeWhile
import WasmDeploy.Url

/-!
# URLs that lead to an endpoint

This file tells from the characters of a URL whether it leads to an endpoint: past what is skipped there are the
scheme, in any letter case, two slashes, and an authority that is not empty. The parts are found where they stand.
No parts are found at all if the authority is unsound, and only a bracket or a character that stands for a delimiter
makes it so.
-/

namespace WasmDeploy

namespace Url

/-- A character ends an authority. -/
def IsDelimiter (character : Char) : Prop :=
  character = '/' ∨ character = '?' ∨ character = '#'

/-- The characters of a URL that count are a scheme for the web in any letter case, two slashes, an authority that is
not empty, and then nothing or what starts with a delimiter. -/
def Leads (url authority : List Char) : Prop :=
  ∃ scheme rest, clean url = scheme ++ ':' :: '/' :: '/' :: (authority ++ rest) ∧
    scheme.map Char.toLower ∈ ["http".toList, "https".toList] ∧ authority ≠ [] ∧
    (∀ character ∈ authority, ¬IsDelimiter character) ∧ ∀ character ∈ rest.head?, IsDelimiter character

/-- An authority is sound: its brackets hold an address, and none of its characters stands for a delimiter. -/
def IsSound (authority : List Char) : Prop :=
  checkBrackets authority = .ok () ∧ ∀ character ∈ authority, character.toNat ∉ lookalikes

/-- A URL leads to an endpoint whose authority is sound. -/
def LeadsToEndpoint (url : List Char) : Prop :=
  ∃ authority, Leads url authority ∧ IsSound authority

/-! ## Parts of a text -/

/-- What is taken from the start of a text ends where the first character stands that is not taken. -/
theorem takeWhile_append_of_stops {taken : Char → Bool} {front rest : List Char}
    (all : ∀ character ∈ front, taken character = true)
    (stops : ∀ character ∈ rest.head?, taken character = false) :
    (front ++ rest).takeWhile taken = front := by
  rw [List.takeWhile_append_of_pos all]
  cases rest with
  | nil => simp
  | cons character rest => simp [stops character rfl]

theorem exists_eq_takeWhile_append (taken : Char → Bool) (text : List Char) :
    ∃ rest, text = text.takeWhile taken ++ rest ∧ ∀ character ∈ rest.head?, taken character = false := by
  refine ⟨text.dropWhile taken, List.takeWhile_append_dropWhile.symm, ?_⟩
  intro character isHead
  have stops := List.head?_dropWhile_not taken text
  rwa [Option.mem_def.mp isHead] at stops

/-! ## Schemes -/

theorem isAlpha_of_isAlpha_toLower {character : Char} (lower : character.toLower.isAlpha = true) :
    character.isAlpha = true := by
  by_cases upper : character.val ≥ 'A'.val ∧ character.val ≤ 'Z'.val
  · have isUpper : character.isUpper = true := decide_eq_true upper
    exact Bool.or_eq_true_iff.mpr (.inl isUpper)
  · have same : character.toLower = character := dif_neg upper
    rwa [same] at lower

theorem isAlpha_of_web {scheme : List Char}
    (isWeb : scheme.map Char.toLower ∈ ["http".toList, "https".toList]) :
    scheme ≠ [] ∧ ∀ character ∈ scheme, character.isAlpha = true := by
  constructor
  · rintro rfl
    exact absurd isWeb (by decide)
  · intro character mem
    have allLetters : (["http".toList, "https".toList].all fun web => web.all Char.isAlpha) = true := by decide
    have letters := List.all_eq_true.mp (List.all_eq_true.mp allLetters _ isWeb)
    exact isAlpha_of_isAlpha_toLower (letters _ (List.mem_map_of_mem mem))

/-- A scheme for the web ends at the colon after it. -/
theorem splitScheme_of_web {scheme : List Char}
    (isWeb : scheme.map Char.toLower ∈ ["http".toList, "https".toList]) (rest : List Char) :
    splitScheme (scheme ++ ':' :: rest) = (scheme.map Char.toLower, rest) := by
  rcases isAlpha_of_web isWeb with ⟨given, letters⟩
  have noColon : ∀ character ∈ scheme, (character != ':') = true := by
    intro character mem
    rw [bne_iff_ne]
    rintro rfl
    exact absurd (letters ':' mem) (by decide)
  have taken : (scheme ++ ':' :: rest).takeWhile (· != ':') = scheme :=
    takeWhile_append_of_stops noColon (by simp)
  have isHead : scheme.head?.any Char.isAlpha = true := by
    cases scheme with
    | nil => exact absurd rfl given
    | cons first scheme => exact letters first List.mem_cons_self
  have allScheme : scheme.all isSchemeChar = true := by
    rw [List.all_eq_true]
    intro character mem
    have isAlphanum : character.isAlphanum = true := Bool.or_eq_true_iff.mpr (.inl (letters character mem))
    simp [isSchemeChar, isAlphanum]
  simp [splitScheme, taken, isHead, allScheme]

/-- What is found as a scheme stands before a colon. -/
theorem exists_of_splitScheme {url : List Char} (given : (splitScheme url).1 ≠ []) :
    ∃ spelled, url = spelled ++ ':' :: (splitScheme url).2 ∧ spelled.map Char.toLower = (splitScheme url).1 := by
  simp only [splitScheme] at given ⊢
  split at given
  · exact absurd rfl given
  · next isScheme =>
    rw [if_neg isScheme]
    simp only [Bool.or_eq_true, beq_iff_eq, not_or] at isScheme
    refine ⟨url.takeWhile (· != ':'), ?_, rfl⟩
    rcases exists_eq_takeWhile_append (· != ':') url with ⟨after, isUrl, stops⟩
    generalize url.takeWhile (· != ':') = spelled at isUrl isScheme
    subst isUrl
    cases after with
    | nil => exact absurd (by simp) isScheme.1
    | cons character after =>
        obtain rfl : character = ':' := by simpa using stops character rfl
        simp

/-! ## Authorities -/

theorem continues_iff {character : Char} :
    (character != '/' && character != '?' && character != '#') = true ↔ ¬IsDelimiter character := by
  simp [IsDelimiter, not_or, and_assoc]

theorem stops_iff {character : Char} :
    (character != '/' && character != '?' && character != '#') = false ↔ IsDelimiter character := by
  rw [← Bool.not_eq_true, continues_iff, not_not]

theorem authorityOf_append {authority rest : List Char} (all : ∀ character ∈ authority, ¬IsDelimiter character)
    (stops : ∀ character ∈ rest.head?, IsDelimiter character) :
    authorityOf ('/' :: '/' :: (authority ++ rest)) = authority :=
  takeWhile_append_of_stops (fun character mem => continues_iff.mpr (all character mem))
    fun character isHead => stops_iff.mpr (stops character isHead)

/-- An authority that is found stands after two slashes. -/
theorem exists_of_authorityOf {text : List Char} (given : authorityOf text ≠ []) :
    ∃ rest, text = '/' :: '/' :: (authorityOf text ++ rest) ∧
      (∀ character ∈ authorityOf text, ¬IsDelimiter character) ∧
      ∀ character ∈ rest.head?, IsDelimiter character := by
  unfold authorityOf at given ⊢
  split at given
  · next after =>
    rcases exists_eq_takeWhile_append
      (fun character => character != '/' && character != '?' && character != '#') after with ⟨rest, isText, stops⟩
    refine ⟨rest, congrArg ('/' :: '/' :: ·) isText, ?_, ?_⟩
    · intro character mem
      have taken := List.mem_takeWhile_imp mem
      exact continues_iff.mp taken
    · exact fun character isHead => stops_iff.mp (stops character isHead)
  · exact absurd rfl given

theorem mem_of_mem_authorityOf {url : List Char} {character : Char}
    (mem : character ∈ authorityOf (splitScheme (clean url)).2) : character ∈ url := by
  have inRest : character ∈ (splitScheme (clean url)).2 := by
    unfold authorityOf at mem
    split at mem
    · next rest isRest =>
      rw [isRest]
      exact List.mem_cons_of_mem _ (List.mem_cons_of_mem _ (List.takeWhile_subset _ mem))
    · cases mem
  have inClean : character ∈ clean url := by
    simp only [splitScheme] at inRest
    split at inRest
    · exact inRest
    · exact List.mem_of_mem_drop inRest
  exact (List.dropWhile_sublist _).subset (List.mem_filter.mp inClean).1

/-! ## Reading a URL -/

/-- The parts of a URL are read if and only if its authority is sound. -/
theorem parse_eq_ok_iff {url : List Char} {parts : Parts} :
    parse url = .ok parts ↔
      parts = ⟨(splitScheme (clean url)).1, authorityOf (splitScheme (clean url)).2⟩ ∧
        IsSound parts.authority := by
  simp only [parse, IsSound]
  generalize splitScheme (clean url) = split
  generalize authorityOf split.2 = authority
  cases checked : checkBrackets authority with
  | error defect =>
      constructor
      · intro isRead
        cases isRead
      · rintro ⟨rfl, sound, _⟩
        cases checked.symm.trans sound
  | ok _ =>
      simp only [bind, Except.bind]
      split
      · next dubious =>
        rcases List.any_eq_true.mp dubious with ⟨character, mem, isLookalike⟩
        constructor
        · intro isRead
          cases isRead
        · rintro ⟨rfl, _, plain⟩
          exact absurd (List.contains_iff_mem.mp isLookalike) (plain character mem)
      · next plain =>
        constructor
        · intro isRead
          cases isRead
          refine ⟨rfl, checked, fun character mem isLookalike => plain ?_⟩
          exact List.any_eq_true.mpr ⟨character, mem, List.contains_iff_mem.mpr isLookalike⟩
        · rintro ⟨rfl, _⟩
          rfl

/-- The parts of a URL lead to an endpoint if and only if the URL does. -/
theorem exists_parts_iff {url : List Char} :
    (∃ parts, parse url = .ok parts ∧ parts.scheme ∈ ["http".toList, "https".toList] ∧
      parts.authority ≠ []) ↔ LeadsToEndpoint url := by
  constructor
  · rintro ⟨parts, isRead, isWeb, given⟩
    rcases parse_eq_ok_iff.mp isRead with ⟨rfl, sound⟩
    have isScheme : (splitScheme (clean url)).1 ≠ [] := by
      intro isEmpty
      simp only [isEmpty] at isWeb
      exact absurd isWeb (by decide)
    rcases exists_of_splitScheme isScheme with ⟨spelled, isUrl, lower⟩
    rcases exists_of_authorityOf given with ⟨rest, isRest, all, stops⟩
    exact ⟨_, ⟨spelled, rest, by rw [← isRest, ← isUrl], lower ▸ isWeb, given, all, stops⟩, sound⟩
  · rintro ⟨authority, ⟨scheme, rest, isUrl, isWeb, given, all, stops⟩, sound⟩
    have split : splitScheme (clean url) = (scheme.map Char.toLower, '/' :: '/' :: (authority ++ rest)) := by
      rw [isUrl, splitScheme_of_web isWeb]
    refine ⟨⟨scheme.map Char.toLower, authority⟩, parse_eq_ok_iff.mpr ⟨?_, sound⟩, isWeb, given⟩
    rw [split, authorityOf_append all stops]

/-- A character can make an authority unsound: a bracket, or one that stands for a delimiter. -/
def IsDubious (character : Char) : Prop :=
  character = '[' ∨ character = ']' ∨ character.toNat ∈ lookalikes

theorem isSound_of_plain {authority : List Char} (plain : ∀ character ∈ authority, ¬IsDubious character) :
    IsSound authority := by
  have noOpening : authority.contains '[' = false := by
    rw [← Bool.not_eq_true, List.contains_iff_mem]
    exact fun mem => plain _ mem (.inl rfl)
  have noClosing : authority.contains ']' = false := by
    rw [← Bool.not_eq_true, List.contains_iff_mem]
    exact fun mem => plain _ mem (.inr (.inl rfl))
  exact ⟨by rw [checkBrackets, noOpening, noClosing],
    fun character mem isLookalike => plain character mem (.inr (.inr isLookalike))⟩

/-- The parts of a URL without a dubious character are read. -/
theorem exists_dubious_of_parse {url : List Char} {defect : UrlDefect} (isRefused : parse url = .error defect) :
    ∃ character ∈ url, IsDubious character := by
  -- Characters are only ever left out on the way to the authority, so a plain URL has a plain authority.
  by_contra noDubious
  have plain : ∀ character ∈ authorityOf (splitScheme (clean url)).2, ¬IsDubious character := by
    intro character mem isDubious
    exact noDubious ⟨character, mem_of_mem_authorityOf mem, isDubious⟩
  cases isRefused.symm.trans (parse_eq_ok_iff.mpr ⟨rfl, isSound_of_plain plain⟩)

end Url

end WasmDeploy
