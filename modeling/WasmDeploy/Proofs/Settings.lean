import WasmDeploy.Proofs.Integer
import WasmDeploy.Settings

/-!
# Where a setting comes from

An explicit setting goes before a variable of the environment, and a variable before the default. This file shows that
a request follows this order in each of its settings, and that what is wrong is reported in an order as well: first a
variable that is malformed, then a name that no setting has, then a private key that is wanting. The integers of the
environment are those that their texts spell with blanks around them. These are more texts than stand for an integer
by themselves, as an information separator is a blank here and none there.
-/

namespace WasmDeploy

/-- The environment of some variables that are bound to texts. -/
def Environment.ofTexts (bindings : List (String × Text)) : Environment :=
  bindings.map fun binding => (binding.1, .text binding.2)

theorem Environment.lookup_ofTexts (bindings : List (String × Text)) (name : String) :
    (ofTexts bindings).lookup name = (bindings.lookup name).map .text := by
  induction bindings with
  | nil => rfl
  | cons binding rest ih =>
      rcases binding with ⟨variableName, text⟩
      simp only [ofTexts, List.map_cons, List.lookup_cons]
      split
      · rfl
      · exact ih

namespace Setting

/-! ## Names -/

/-- A name is the name of a setting. -/
def IsName (name : String) : Prop :=
  ∃ setting : Setting, setting.name = name

theorem ofName?_name (setting : Setting) : ofName? setting.name = some setting := by
  cases setting <;> decide

theorem name_injective : Function.Injective name := fun first second same =>
  Option.some.inj (by rw [← ofName?_name first, same, ofName?_name second])

theorem ofName?_eq_none {name : String} (noName : ¬IsName name) : ofName? name = none := by
  rw [ofName?, List.find?_eq_none]
  exact fun setting _ isName => noName ⟨setting, by simpa using isName⟩

/-! ## Variables -/

variable {bindings : List (String × Text)} {setting : Setting} {text : Text} {value : Datum}

/-- The settings that an environment gives as texts. -/
def texts : List Setting :=
  [.privateKey, .rpcUrl]

/-- The settings that an environment gives as integers. -/
def counts : List Setting :=
  [.gasLimit, .gasPrice, .confirmations, .chainId]

/-- The settings that an environment gives as durations. -/
def durations : List Setting :=
  [.timeout, .pollInterval]

/-- An environment gives a text for a setting: the variable of the setting is set, and not to the empty text. -/
structure Given (bindings : List (String × Text)) (setting : Setting) (text : Text) : Prop where
  inTable : setting ∈ fromEnvironment
  isSet : bindings.lookup setting.environmentName = some text
  filled : text.isEmpty = false

/-- A text reads as the value of a setting: as it is, as an integer of 64 bits, or as a duration that is not zero or
below. -/
inductive Reads (setting : Setting) (text : Text) : Datum → Prop where
  | text (isText : setting ∈ texts) : Reads setting text (.text text)
  | count {number : Int} (isCount : setting ∈ counts) (spells : Number.Spells Text.isBlank text.characters number)
      (natural : 0 ≤ number) (fits : number < Nat.pow 2 64) : Reads setting text (.int number)
  | duration {seconds : Float} (isDuration : setting ∈ durations)
      (isRead : Number.readFloat? (Text.trimBlanks Text.isBlank text.characters) = some seconds)
      (lasts : (Measure.float seconds).isNonPositive = false) : Reads setting text (.float seconds)

/-- The variable of a setting is malformed: it is given, and its text reads as no value. -/
def IsMalformed (bindings : List (String × Text)) (setting : Setting) : Prop :=
  ∃ text, setting.Given bindings text ∧ ∀ value, ¬setting.Reads text value

/-- The variable of a setting is the first one in the table that is malformed. -/
def IsFirstMalformed (bindings : List (String × Text)) (setting : Setting) : Prop :=
  setting.IsMalformed bindings ∧ ∃ before after, fromEnvironment = before ++ setting :: after ∧
    ∀ earlier ∈ before, ¬earlier.IsMalformed bindings

theorem Given.exists_reads (given : setting.Given bindings text) (sound : ¬setting.IsMalformed bindings) :
    ∃ value, setting.Reads text value := by
  by_contra noValue
  exact sound ⟨text, given, fun value reads => noValue ⟨value, reads⟩⟩

theorem Given.unique {other : Text} (given : setting.Given bindings text) (givenToo : setting.Given bindings other) :
    other = text :=
  Option.some.inj (givenToo.isSet.symm.trans given.isSet)

/-! ## Reading a variable -/

theorem readUnsigned_text_eq_ok_iff {variableName : String} :
    readUnsigned variableName (.text text) = .ok value ↔
      ∃ number : Int, value = .int number ∧ Number.Spells Text.isBlank text.characters number ∧ 0 ≤ number ∧
        number < Nat.pow 2 64 := by
  have isPower : (Nat.pow 2 64 : Int) = maxUInt64 + 1 := rfl
  simp only [← Number.readInteger?_trimBlanks_eq_some_iff fun _ blanked => blanked, readUnsigned, trimmed, bind,
    Except.bind]
  cases isRead : Number.readInteger? (Text.trimBlanks Text.isBlank text.characters) with
  | none => simp [fail]
  | some number =>
      simp only [Option.some.injEq, isPower]
      split
      · next bounds =>
        constructor
        · rintro ⟨⟩
          exact ⟨number, rfl, rfl, bounds.1, by omega⟩
        · rintro ⟨_, rfl, rfl, _⟩
          rfl
      · next outside =>
        constructor
        · rintro ⟨⟩
        · rintro ⟨_, rfl, rfl, natural, fits⟩
          exact absurd ⟨natural, by omega⟩ outside

theorem readSeconds_text_eq_ok_iff {variableName : String} :
    readSeconds variableName (.text text) = .ok value ↔
      ∃ seconds, value = .float seconds ∧
        Number.readFloat? (Text.trimBlanks Text.isBlank text.characters) = some seconds ∧
        (Measure.float seconds).isNonPositive = false := by
  simp only [readSeconds, trimmed, bind, Except.bind]
  cases isRead : Number.readFloat? (Text.trimBlanks Text.isBlank text.characters) with
  | none => simp [fail]
  | some seconds =>
      simp only [Option.some.injEq]
      split
      · next ends => simp [fail, ends]
      · next lasts =>
        simp only [pure, Except.pure, Except.ok.injEq]
        constructor
        · rintro rfl
          exact ⟨seconds, rfl, rfl, by simpa using lasts⟩
        · rintro ⟨_, rfl, rfl, _⟩
          rfl

theorem reads_iff_of_text (isText : setting ∈ texts) : setting.Reads text value ↔ value = .text text := by
  have others : setting ∉ counts ∧ setting ∉ durations := by
    revert isText
    cases setting <;> decide
  constructor
  · rintro (_ | isCount | isDuration)
    · rfl
    · exact absurd isCount others.1
    · exact absurd isDuration others.2
  · rintro rfl
    exact .text isText

theorem reads_iff_of_count (isCount : setting ∈ counts) :
    setting.Reads text value ↔
      ∃ number : Int, value = .int number ∧ Number.Spells Text.isBlank text.characters number ∧ 0 ≤ number ∧
        number < Nat.pow 2 64 := by
  have others : setting ∉ texts ∧ setting ∉ durations := by
    revert isCount
    cases setting <;> decide
  constructor
  · rintro (isText | ⟨_, spells, natural, fits⟩ | isDuration)
    · exact absurd isText others.1
    · exact ⟨_, rfl, spells, natural, fits⟩
    · exact absurd isDuration others.2
  · rintro ⟨number, rfl, spells, natural, fits⟩
    exact .count isCount spells natural fits

theorem reads_iff_of_duration (isDuration : setting ∈ durations) :
    setting.Reads text value ↔
      ∃ seconds, value = .float seconds ∧
        Number.readFloat? (Text.trimBlanks Text.isBlank text.characters) = some seconds ∧
        (Measure.float seconds).isNonPositive = false := by
  have others : setting ∉ texts ∧ setting ∉ counts := by
    revert isDuration
    cases setting <;> decide
  constructor
  · rintro (isText | isCount | ⟨_, isRead, lasts⟩)
    · exact absurd isText others.1
    · exact absurd isCount others.2
    · exact ⟨_, rfl, isRead, lasts⟩
  · rintro ⟨seconds, rfl, isRead, lasts⟩
    exact .duration isDuration isRead lasts

/-- Each setting of the table is read in one of three ways. -/
theorem read_cases (inTable : setting ∈ fromEnvironment) :
    (setting ∈ texts ∧ ∀ raw, setting.read raw = .ok raw) ∨
      (setting ∈ counts ∧ ∀ raw, setting.read raw = readUnsigned setting.environmentName raw) ∨
      (setting ∈ durations ∧ ∀ raw, setting.read raw = readSeconds setting.environmentName raw) := by
  cases setting <;> first
    | exact absurd inTable (by decide)
    | exact .inl ⟨by decide, fun _ => rfl⟩
    | exact .inr (.inl ⟨by decide, fun _ => rfl⟩)
    | exact .inr (.inr ⟨by decide, fun _ => rfl⟩)

/-- Exactly the value that a text reads as is taken from it. -/
theorem read_text_eq_ok_iff (inTable : setting ∈ fromEnvironment) :
    setting.read (.text text) = .ok value ↔ setting.Reads text value := by
  rcases read_cases inTable with ⟨isText, isRead⟩ | ⟨isCount, isRead⟩ | ⟨isDuration, isRead⟩
  · rw [isRead, reads_iff_of_text isText, Except.ok.injEq, eq_comm]
  · rw [isRead, reads_iff_of_count isCount, readUnsigned_text_eq_ok_iff]
  · rw [isRead, reads_iff_of_duration isDuration, readSeconds_text_eq_ok_iff]

theorem Given.reads_unique {other : Datum} (given : setting.Given bindings text) (reads : setting.Reads text value)
    (readsToo : setting.Reads text other) : other = value := by
  have taken := (read_text_eq_ok_iff given.inTable).mpr reads
  have takenToo := (read_text_eq_ok_iff given.inTable).mpr readsToo
  exact Except.ok.inj (takenToo.symm.trans taken)

/-- A failure is a matter of configuration and names a variable. -/
def Blames (variableName : String) (cause : Failure) : Prop :=
  cause.kind = .configuration ∧ ∃ rest, cause.message = variableName ++ rest

theorem readUnsigned_text_cases (variableName : String) (text : Text) :
    (∃ value, readUnsigned variableName (.text text) = .ok value) ∨
      ∃ cause, readUnsigned variableName (.text text) = fail cause ∧ Blames variableName cause := by
  simp only [readUnsigned, trimmed, bind, Except.bind]
  split
  · split
    · exact .inl ⟨_, rfl⟩
    · exact .inr ⟨_, rfl, rfl, _, String.append_assoc ..⟩
  · exact .inr ⟨_, rfl, rfl, _, String.append_assoc ..⟩

theorem readSeconds_text_cases (variableName : String) (text : Text) :
    (∃ value, readSeconds variableName (.text text) = .ok value) ∨
      ∃ cause, readSeconds variableName (.text text) = fail cause ∧ Blames variableName cause := by
  simp only [readSeconds, trimmed, bind, Except.bind]
  split
  · split
    · exact .inr ⟨_, rfl, rfl, _, String.append_assoc ..⟩
    · exact .inl ⟨_, rfl⟩
  · exact .inr ⟨_, rfl, rfl, _, String.append_assoc ..⟩

/-- A text that reads as no value is refused by the name of the variable that holds it. -/
theorem read_text_of_not_reads (inTable : setting ∈ fromEnvironment) (noValue : ∀ value, ¬setting.Reads text value) :
    ∃ cause, setting.read (.text text) = fail cause ∧ Blames setting.environmentName cause := by
  have refused : ∀ value, setting.read (.text text) ≠ .ok value := fun value taken =>
    noValue value ((read_text_eq_ok_iff inTable).mp taken)
  rcases read_cases inTable with ⟨_, isRead⟩ | ⟨_, isRead⟩ | ⟨_, isRead⟩
  · exact absurd (isRead _) (refused _)
  · simp only [isRead] at refused ⊢
    exact (readUnsigned_text_cases _ text).resolve_left fun ⟨value, taken⟩ => refused value taken
  · simp only [isRead] at refused ⊢
    exact (readSeconds_text_cases _ text).resolve_left fun ⟨value, taken⟩ => refused value taken

end Setting

/-! ## Reading an environment -/

namespace Settings

open Setting

variable {bindings : List (String × Text)} {setting : Setting} {text : Text} {value : Datum}

theorem readFrom_cons_of_given (given : setting.Given bindings text) (rest : List Setting) :
    readFrom (.ofTexts bindings) (setting :: rest) = (do
      let value ← setting.read (.text text)
      let others ← readFrom (.ofTexts bindings) rest
      return (setting, value) :: others) := by
  simp [readFrom, Environment.lookup_ofTexts, given.isSet, isSet, given.filled]

theorem readFrom_cons_of_not_given (inTable : setting ∈ fromEnvironment)
    (notGiven : ∀ text, ¬setting.Given bindings text) (rest : List Setting) :
    readFrom (.ofTexts bindings) (setting :: rest) = readFrom (.ofTexts bindings) rest := by
  rw [readFrom, Environment.lookup_ofTexts]
  cases found : bindings.lookup setting.environmentName with
  | none => rfl
  | some text =>
      have empty : text.isEmpty = true := by
        by_contra filled
        exact notGiven text ⟨inTable, found, by simpa using filled⟩
      simp [isSet, empty]

/-- A variable that is not malformed is read and put before the others if it is given, and passed over if not. -/
theorem readFrom_cons_cases (inTable : setting ∈ fromEnvironment) (sound : ¬setting.IsMalformed bindings)
    (rest : List Setting) :
    (∃ text value, setting.Given bindings text ∧ setting.Reads text value ∧
        readFrom (.ofTexts bindings) (setting :: rest) =
          (readFrom (.ofTexts bindings) rest).map ((setting, value) :: ·)) ∨
      (∀ text, ¬setting.Given bindings text) ∧
        readFrom (.ofTexts bindings) (setting :: rest) = readFrom (.ofTexts bindings) rest := by
  by_cases isGiven : ∃ text, setting.Given bindings text
  · rcases isGiven with ⟨text, given⟩
    rcases given.exists_reads sound with ⟨value, reads⟩
    refine .inl ⟨text, value, given, reads, ?_⟩
    rw [readFrom_cons_of_given given, (read_text_eq_ok_iff inTable).mpr reads]
    rfl
  · have notGiven : ∀ text, ¬setting.Given bindings text := fun text given => isGiven ⟨text, given⟩
    exact .inr ⟨notGiven, readFrom_cons_of_not_given inTable notGiven rest⟩

/-- If none of the variables is malformed, each one that is given is read, and no other. -/
theorem exists_readFrom_eq_ok {table : List Setting} (inTable : ∀ setting ∈ table, setting ∈ fromEnvironment)
    (sound : ∀ setting ∈ table, ¬setting.IsMalformed bindings) :
    ∃ settings, readFrom (.ofTexts bindings) table = .ok settings ∧
      ∀ setting value, settings.get? setting = some value ↔
        setting ∈ table ∧ ∃ text, setting.Given bindings text ∧ setting.Reads text value := by
  induction table with
  | nil => exact ⟨[], rfl, by simp [get?]⟩
  | cons first rest ih =>
      rcases List.forall_mem_cons.mp inTable with ⟨firstInTable, inTable⟩
      rcases List.forall_mem_cons.mp sound with ⟨firstSound, sound⟩
      rcases ih inTable sound with ⟨settings, isRead, holds⟩
      rcases readFrom_cons_cases firstInTable firstSound rest with ⟨text, value, given, reads, next⟩ | ⟨notGiven, next⟩
      · refine ⟨(first, value) :: settings, by rw [next, isRead]; rfl, fun setting other => ?_⟩
        by_cases isFirst : setting = first
        · subst isFirst
          simp only [get?, List.lookup_cons_self, Option.some.injEq, List.mem_cons, true_or, true_and]
          constructor
          · rintro rfl
            exact ⟨text, given, reads⟩
          · rintro ⟨_, givenToo, readsToo⟩
            obtain rfl := given.unique givenToo
            exact (given.reads_unique reads readsToo).symm
        · simpa [get?, List.lookup_cons, beq_eq_false_iff_ne.mpr isFirst, isFirst] using holds setting other
      · refine ⟨settings, by rw [next, isRead], fun setting other => ?_⟩
        rw [holds, List.mem_cons]
        constructor
        · rintro ⟨mem, given⟩
          exact ⟨.inr mem, given⟩
        · rintro ⟨rfl | mem, text, given, reads⟩
          · exact absurd given (notGiven text)
          · exact ⟨mem, text, given, reads⟩

/-- The first variable that is malformed is reported, whatever stands after it. -/
theorem exists_readFrom_eq_fail {before : List Setting} (inTable : ∀ earlier ∈ before, earlier ∈ fromEnvironment)
    (sound : ∀ earlier ∈ before, ¬earlier.IsMalformed bindings) (malformed : setting.IsMalformed bindings)
    (after : List Setting) :
    ∃ cause, readFrom (.ofTexts bindings) (before ++ setting :: after) = fail cause ∧
      Blames setting.environmentName cause := by
  induction before with
  | nil =>
      rcases malformed with ⟨text, given, noValue⟩
      rcases read_text_of_not_reads given.inTable noValue with ⟨cause, refused, blames⟩
      refine ⟨cause, ?_, blames⟩
      rw [List.nil_append, readFrom_cons_of_given given, refused]
      rfl
  | cons first rest ih =>
      rcases List.forall_mem_cons.mp inTable with ⟨firstInTable, inTable⟩
      rcases List.forall_mem_cons.mp sound with ⟨firstSound, sound⟩
      rcases ih inTable sound with ⟨cause, refused, blames⟩
      refine ⟨cause, ?_, blames⟩
      rcases readFrom_cons_cases firstInTable firstSound (rest ++ setting :: after) with ⟨_, _, _, _, next⟩ | ⟨_, next⟩
      · rw [List.cons_append, next, refused]
        rfl
      · rw [List.cons_append, next, refused]

/-- No variable of an environment is malformed. -/
def AreSound (bindings : List (String × Text)) : Prop :=
  ∀ setting : Setting, ¬setting.IsMalformed bindings

/-- Among malformed variables there is a first one. -/
theorem exists_isFirstMalformed (malformed : ∃ setting : Setting, setting.IsMalformed bindings) :
    ∃ setting : Setting, setting.IsFirstMalformed bindings := by
  classical
  rcases malformed with ⟨setting, isMalformed⟩
  have inTable : setting ∈ fromEnvironment := isMalformed.choose_spec.1.inTable
  cases found : fromEnvironment.find? fun setting => setting.IsMalformed bindings with
  | none => exact absurd isMalformed (by simpa using List.find?_eq_none.mp found setting inTable)
  | some first =>
      rcases List.find?_eq_some_iff_append.mp found with ⟨isFirst, before, after, isTable, sound⟩
      exact ⟨first, by simpa using isFirst, before, after, isTable, by simpa using sound⟩

/-- Of the variables that are malformed the first one is reported. -/
theorem ofEnvironment_of_malformed (isFirst : setting.IsFirstMalformed bindings) :
    ∃ cause, ofEnvironment (.ofTexts bindings) = fail cause ∧ Blames setting.environmentName cause := by
  rcases isFirst with ⟨malformed, before, after, isTable, sound⟩
  have inTable : ∀ earlier ∈ before, earlier ∈ fromEnvironment := fun earlier mem => by simp [isTable, mem]
  rcases exists_readFrom_eq_fail inTable sound malformed after with ⟨cause, refused, blames⟩
  exact ⟨cause, by rw [ofEnvironment, isTable, refused], blames⟩

/-- If no variable is malformed, each one that is given is read. -/
theorem ofEnvironment_of_sound (sound : AreSound bindings) :
    ∃ settings, ofEnvironment (.ofTexts bindings) = .ok settings ∧
      ∀ setting value, settings.get? setting = some value ↔
        ∃ text, setting.Given bindings text ∧ setting.Reads text value := by
  rcases exists_readFrom_eq_ok (fun _ mem => mem) (fun setting _ => sound setting) with ⟨settings, isRead, holds⟩
  refine ⟨settings, isRead, fun setting value => (holds setting value).trans ⟨And.right, fun reads => ?_⟩⟩
  rcases reads with ⟨text, given, reads⟩
  exact ⟨given.inTable, text, given, reads⟩

/-- An environment is read if and only if it is sound. -/
theorem areSound_iff : AreSound bindings ↔ (ofEnvironment (.ofTexts bindings)).isOk = true := by
  constructor
  · intro sound
    rcases ofEnvironment_of_sound sound with ⟨settings, isRead, _⟩
    rw [isRead]
    rfl
  · intro isRead setting isMalformed
    rcases exists_isFirstMalformed ⟨setting, isMalformed⟩ with ⟨first, isFirst⟩
    rcases ofEnvironment_of_malformed isFirst with ⟨cause, refused, _⟩
    rw [refused] at isRead
    cases isRead

theorem readFrom_congr {environment other : Environment} {table : List Setting}
    (agree : ∀ setting ∈ table,
      other.lookup setting.environmentName = environment.lookup setting.environmentName) :
    readFrom other table = readFrom environment table := by
  induction table with
  | nil => rfl
  | cons first rest ih =>
      rcases List.forall_mem_cons.mp agree with ⟨firstAgrees, agree⟩
      simp only [readFrom, firstAgrees, ih agree]

/-! ## Explicit settings -/

variable {overrides : List (String × Datum)}

/-- An explicit setting that counts: one that is not null. -/
def IsOverridden (overrides : List (String × Datum)) (setting : Setting) (value : Datum) : Prop :=
  (setting.name, value) ∈ overrides ∧ value ≠ .null

theorem isNull_iff {value : Datum} : value.isNull = true ↔ value = .null := by
  cases value <;> simp [Datum.isNull]

/-- If all names are known, each explicit setting that counts is put over the settings, and no other. -/
theorem exists_override_eq_ok (distinct : (overrides.map Prod.fst).Nodup)
    (known : ∀ name value, (name, value) ∈ overrides → IsName name) (settings : Settings) :
    ∃ joined, settings.override overrides = .ok joined ∧
      ∀ setting value, joined.get? setting = some value ↔
        IsOverridden overrides setting value ∨
          (∀ other, ¬IsOverridden overrides setting other) ∧ settings.get? setting = some value := by
  induction overrides generalizing settings with
  | nil => exact ⟨settings, rfl, by simp [IsOverridden]⟩
  | cons entry rest ih =>
      rcases entry with ⟨name, value⟩
      rcases known name value List.mem_cons_self with ⟨named, rfl⟩
      simp only [List.map_cons, List.nodup_cons, List.mem_map, Prod.exists, exists_and_right, exists_eq_right] at distinct
      rcases distinct with ⟨notAgain, distinct⟩
      rcases ih distinct (fun name value mem => known name value (List.mem_cons_of_mem _ mem))
        (if value.isNull then settings else settings.set named value) with ⟨joined, isJoined, holds⟩
      refine ⟨joined, by rw [override, ofName?_name]; exact isJoined, fun setting other => ?_⟩
      rw [holds]
      by_cases isNamed : setting = named
      · -- No later entry has this name, so this one alone decides.
        subst isNamed
        have notLater : ∀ other, ¬IsOverridden rest setting other := fun other later => notAgain ⟨other, later.1⟩
        have isHere : ∀ other, IsOverridden ((setting.name, value) :: rest) setting other ↔
            other = value ∧ value ≠ .null := by
          intro other
          constructor
          · rintro ⟨here | ⟨_, later⟩, notNull⟩
            · exact ⟨rfl, notNull⟩
            · exact absurd ⟨other, later⟩ notAgain
          · rintro ⟨rfl, notNull⟩
            exact ⟨List.mem_cons_self, notNull⟩
        simp only [isHere, notLater, false_or, not_false_eq_true, implies_true, true_and]
        by_cases isNull : value = .null
        · simp [isNull, Datum.isNull]
        · have counts : value.isNull = false := by simpa [← isNull_iff] using isNull
          simp [counts, isNull, set, get?, eq_comm]
      · have same : ∀ other, IsOverridden ((named.name, value) :: rest) setting other ↔
            IsOverridden rest setting other := by
          intro other
          have differs : setting.name ≠ named.name := fun same => isNamed (name_injective same)
          simp [IsOverridden, differs]
        have kept : (if value.isNull then settings else settings.set named value).get? setting =
            settings.get? setting := by
          split
          · rfl
          · simp [set, get?, List.lookup_cons, beq_eq_false_iff_ne.mpr isNamed]
        simp only [same, kept]

/-- The first name that no setting has is reported, even with a value of null. -/
theorem exists_override_eq_fail (unknown : ∃ name value, (name, value) ∈ overrides ∧ ¬IsName name)
    (settings : Settings) :
    ∃ name value, (name, value) ∈ overrides ∧ ¬IsName name ∧
      settings.override overrides = fail (.settingUnknown name) := by
  induction overrides generalizing settings with
  | nil => simp at unknown
  | cons entry rest ih =>
      rcases entry with ⟨name, value⟩
      by_cases isName : IsName name
      · rcases isName with ⟨named, rfl⟩
        obtain ⟨name, other, mem, noName⟩ : ∃ name value, (name, value) ∈ rest ∧ ¬IsName name := by
          rcases unknown with ⟨name, other, _ | ⟨_, mem⟩, noName⟩
          · exact absurd ⟨named, rfl⟩ noName
          · exact ⟨name, other, mem, noName⟩
        rcases ih ⟨name, other, mem, noName⟩ (if value.isNull then settings else settings.set named value) with
          ⟨name, other, mem, noName, failed⟩
        refine ⟨name, other, List.mem_cons_of_mem _ mem, noName, ?_⟩
        rw [override, ofName?_name]
        exact failed
      · exact ⟨name, value, List.mem_cons_self, isName, by rw [override, ofName?_eq_none isName]⟩

end Settings

/-! ## Requests -/

namespace DeploymentRequest

open Setting Settings

/-- What a request holds for a setting. -/
def get (request : DeploymentRequest) : Setting → Datum
  | .privateKey => request.privateKey
  | .gasLimit => request.gasLimit
  | .gasPrice => request.gasPrice
  | .confirmations => request.confirmations
  | .rpcUrl => request.rpcUrl
  | .chainId => request.chainId
  | .timeout => request.timeout
  | .pollInterval => request.pollInterval
  | .localNode => request.localNode
  | .development => request.development

/-- What a request holds for a setting that is left open. There is no private key then. -/
def defaultOf : Setting → Datum :=
  (standard .null .null).get

variable {bindings : List (String × Text)} {overrides : List (String × Datum)} {wasmFile : Datum}
  {setting : Setting} {value : Datum}

/-- The value of a setting comes from where it is looked for first: from the explicit settings, from the environment,
or from the defaults. -/
inductive Effective (bindings : List (String × Text)) (overrides : List (String × Datum)) (setting : Setting) :
    Datum → Prop where
  | overridden {value : Datum} (isOverridden : IsOverridden overrides setting value) :
      Effective bindings overrides setting value
  | parsed {text : Text} {value : Datum} (notOverridden : ∀ other, ¬IsOverridden overrides setting other)
      (given : setting.Given bindings text) (reads : setting.Reads text value) :
      Effective bindings overrides setting value
  | default (notOverridden : ∀ other, ¬IsOverridden overrides setting other)
      (notGiven : ∀ text, ¬setting.Given bindings text) :
      Effective bindings overrides setting (defaultOf setting)

/-- Every name among the explicit settings is the name of a setting. -/
def AreKnown (overrides : List (String × Datum)) : Prop :=
  ∀ name value, (name, value) ∈ overrides → IsName name

theorem get_ofSettings (wasmFile : Datum) (settings : Settings) (setting : Setting) :
    (ofSettings wasmFile settings).get setting = settings.getD setting (defaultOf setting) := by
  cases setting <;> rfl

/-- A request is told by its file and its settings. -/
theorem eq_of_get {first second : DeploymentRequest} (sameFile : first.wasmFile = second.wasmFile)
    (same : ∀ setting, first.get setting = second.get setting) : first = second := by
  rcases first
  rcases second
  simp only [mk.injEq]
  exact ⟨sameFile, same .privateKey, same .gasLimit, same .gasPrice, same .confirmations, same .localNode,
    same .development, same .rpcUrl, same .chainId, same .timeout, same .pollInterval⟩

theorem isOverridden_unique {other : Datum} (distinct : (overrides.map Prod.fst).Nodup)
    (isOne : IsOverridden overrides setting value) (isOther : IsOverridden overrides setting other) :
    other = value :=
  congrArg Prod.snd (List.inj_on_of_nodup_map distinct isOther.1 isOne.1 rfl)

/-- A setting has one value. -/
theorem Effective.unique {other : Datum} (distinct : (overrides.map Prod.fst).Nodup)
    (isOne : Effective bindings overrides setting value) (isOther : Effective bindings overrides setting other) :
    other = value := by
  cases isOne with
  | overridden isOverridden =>
      cases isOther with
      | overridden isOverriddenToo => exact isOverridden_unique distinct isOverridden isOverriddenToo
      | parsed notOverridden => exact absurd isOverridden (notOverridden _)
      | default notOverridden => exact absurd isOverridden (notOverridden _)
  | parsed notOverridden given reads =>
      cases isOther with
      | overridden isOverridden => exact absurd isOverridden (notOverridden _)
      | parsed _ givenToo readsToo =>
          obtain rfl := given.unique givenToo
          exact given.reads_unique reads readsToo
      | default _ notGiven => exact absurd given (notGiven _)
  | default notOverridden notGiven =>
      cases isOther with
      | overridden isOverridden => exact absurd isOverridden (notOverridden _)
      | parsed _ given => exact absurd given (notGiven _)
      | default => rfl

/-- It is told by the entries alone which value of a setting is effective, not by their order. -/
theorem Effective.congr {others : List (String × Datum)} (effective : Effective bindings overrides setting value)
    (same : ∀ entry, entry ∈ others ↔ entry ∈ overrides) : Effective bindings others setting value := by
  have isOverridden_iff : ∀ other, IsOverridden others setting other ↔ IsOverridden overrides setting other :=
    fun other => and_congr_left fun _ => same _
  cases effective with
  | overridden isOverridden => exact .overridden ((isOverridden_iff _).mpr isOverridden)
  | parsed notOverridden given reads =>
      exact .parsed (fun other => (isOverridden_iff other).not.mpr (notOverridden other)) given reads
  | default notOverridden notGiven =>
      exact .default (fun other => (isOverridden_iff other).not.mpr (notOverridden other)) notGiven

/-! ## The order of checks -/

/-- A malformed variable is reported before anything else is looked at. -/
theorem ofEnvironment_of_malformed (wasmFile : Datum) (overrides : List (String × Datum))
    (isFirst : setting.IsFirstMalformed bindings) :
    ∃ cause, ofEnvironment wasmFile (.ofTexts bindings) overrides = fail cause ∧
      Blames setting.environmentName cause := by
  rcases Settings.ofEnvironment_of_malformed isFirst with ⟨cause, refused, blames⟩
  refine ⟨cause, ?_, blames⟩
  rw [ofEnvironment, refused]
  rfl

/-- With sound variables an unknown name is reported before the private key is looked at. -/
theorem ofEnvironment_of_unknown (wasmFile : Datum) (sound : AreSound bindings) (unknown : ¬AreKnown overrides) :
    ∃ name value, (name, value) ∈ overrides ∧ ¬IsName name ∧
      ofEnvironment wasmFile (.ofTexts bindings) overrides = fail (.settingUnknown name) := by
  rcases ofEnvironment_of_sound sound with ⟨settings, isRead, _⟩
  have unknown : ∃ name value, (name, value) ∈ overrides ∧ ¬IsName name := by
    simpa [AreKnown] using unknown
  rcases exists_override_eq_fail unknown settings with ⟨name, value, mem, noName, failed⟩
  refine ⟨name, value, mem, noName, ?_⟩
  rw [ofEnvironment, isRead]
  simp only [bind, Except.bind, failed]
  rfl

/-- With sound variables and known names the request holds the effective settings, unless it lacks a private key. -/
theorem exists_ofEnvironment_eq (wasmFile : Datum) (distinct : (overrides.map Prod.fst).Nodup)
    (sound : AreSound bindings) (known : AreKnown overrides) :
    ∃ settings, (∀ setting, Effective bindings overrides setting ((ofSettings wasmFile settings).get setting)) ∧
      ofEnvironment wasmFile (.ofTexts bindings) overrides =
        if ((ofSettings wasmFile settings).get .privateKey).isTruthy then .ok (ofSettings wasmFile settings)
        else fail .keyUnset := by
  rcases ofEnvironment_of_sound sound with ⟨settings, isRead, parsed⟩
  rcases exists_override_eq_ok distinct known settings with ⟨joined, isJoined, holds⟩
  refine ⟨joined, fun setting => ?_, ?_⟩
  · rw [get_ofSettings, getD]
    cases found : joined.get? setting with
    | some value =>
        rcases (holds setting value).mp found with isOverridden | ⟨notOverridden, isParsed⟩
        · exact .overridden isOverridden
        · rcases (parsed setting value).mp isParsed with ⟨text, given, reads⟩
          exact .parsed notOverridden given reads
    | none =>
        have noValue : ∀ value, joined.get? setting ≠ some value := fun value => by simp [found]
        have notOverridden : ∀ other, ¬IsOverridden overrides setting other := fun other isOverridden =>
          noValue other ((holds setting other).mpr (.inl isOverridden))
        refine .default notOverridden fun text given => ?_
        rcases given.exists_reads (sound setting) with ⟨value, reads⟩
        exact noValue value ((holds setting value).mpr
          (.inr ⟨notOverridden, (parsed setting value).mpr ⟨text, given, reads⟩⟩))
  · rw [ofEnvironment, isRead]
    simp only [bind, Except.bind, isJoined]
    rw [show joined.getD .privateKey .null = (ofSettings wasmFile joined).get .privateKey from
      (get_ofSettings wasmFile joined .privateKey).symm]
    cases ((ofSettings wasmFile joined).get .privateKey).isTruthy <;> rfl

/-- Exactly one request is made of an environment and explicit settings, and only if nothing is wrong with them. -/
theorem ofEnvironment_eq_ok_iff {request : DeploymentRequest} (distinct : (overrides.map Prod.fst).Nodup) :
    ofEnvironment wasmFile (.ofTexts bindings) overrides = .ok request ↔
      AreSound bindings ∧ AreKnown overrides ∧ request.privateKey.isTruthy = true ∧ request.wasmFile = wasmFile ∧
        ∀ setting, Effective bindings overrides setting (request.get setting) := by
  by_cases sound : AreSound bindings
  · by_cases known : AreKnown overrides
    · rcases exists_ofEnvironment_eq wasmFile distinct sound known with ⟨settings, effective, isMade⟩
      rw [isMade]
      constructor
      · intro made
        split at made
        · next isKey =>
          cases made
          exact ⟨sound, known, isKey, rfl, effective⟩
        · cases made
      · rintro ⟨_, _, isKey, isFile, effectiveToo⟩
        obtain rfl : request = ofSettings wasmFile settings :=
          eq_of_get isFile fun setting => (effective setting).unique distinct (effectiveToo setting)
        exact if_pos isKey
    · rcases ofEnvironment_of_unknown wasmFile sound known with ⟨_, _, _, _, failed⟩
      simp [failed, fail, known]
  · have malformed : ∃ setting : Setting, setting.IsMalformed bindings := by simpa [AreSound] using sound
    rcases exists_isFirstMalformed malformed with ⟨setting, isFirst⟩
    rcases ofEnvironment_of_malformed wasmFile overrides isFirst with ⟨cause, failed, _⟩
    simp [failed, fail, sound]

/-! ## The order of sources -/

/-- How a request is made of an environment and explicit settings: what is wrong is reported in its order, and the
request holds the effective settings. It does not depend on the order of the explicit settings, nor on a variable
outside the table; an integer of the environment is the one that its text spells, blanks apart, and so the one that
the text stands for by itself if it does. -/
structure FollowsPrecedence (wasmFile : Datum) (bindings : List (String × Text))
    (overrides : List (String × Datum)) : Prop where
  malformed : ¬AreSound bindings →
    ∃ setting : Setting, setting.IsFirstMalformed bindings ∧
      ∃ cause, ofEnvironment wasmFile (.ofTexts bindings) overrides = fail cause ∧
        Blames setting.environmentName cause
  unknown : AreSound bindings → ¬AreKnown overrides →
    ∃ name value, (name, value) ∈ overrides ∧ ¬IsName name ∧
      ofEnvironment wasmFile (.ofTexts bindings) overrides = fail (.settingUnknown name)
  effective : AreSound bindings → ∀ setting, ∃! value, Effective bindings overrides setting value
  keyless : AreSound bindings → AreKnown overrides → ∀ key, Effective bindings overrides .privateKey key →
    key.isTruthy = false → ofEnvironment wasmFile (.ofTexts bindings) overrides = fail .keyUnset
  returned : AreSound bindings → AreKnown overrides → ∀ key, Effective bindings overrides .privateKey key →
    key.isTruthy = true →
      ∃ request, ofEnvironment wasmFile (.ofTexts bindings) overrides = .ok request ∧ request.wasmFile = wasmFile ∧
        ∀ setting, Effective bindings overrides setting (request.get setting)
  unordered : ∀ reordered, reordered.Perm overrides → ∀ request,
    ofEnvironment wasmFile (.ofTexts bindings) overrides = .ok request →
      ofEnvironment wasmFile (.ofTexts bindings) reordered = .ok request
  outside : ∀ others : List (String × Text),
    (∀ setting ∈ fromEnvironment, others.lookup setting.environmentName = bindings.lookup setting.environmentName) →
      ofEnvironment wasmFile (.ofTexts others) overrides = ofEnvironment wasmFile (.ofTexts bindings) overrides
  counts : ∀ request, ofEnvironment wasmFile (.ofTexts bindings) overrides = .ok request →
    ∀ setting ∈ counts, ∀ text, setting.Given bindings text → (∀ value, ¬IsOverridden overrides setting value) →
      ∃ number : Int, request.get setting = .int number ∧ 0 ≤ number ∧ number < Nat.pow 2 64 ∧
        Number.Spells Text.isBlank text.characters number ∧
        ∀ integer, Number.Spells Text.isNumberBlank text.characters integer → number = integer

/-- The integers of an environment are those that their texts spell. -/
theorem Effective.exists_count (effective : Effective bindings overrides setting value) (isCount : setting ∈ counts)
    {text : Text} (given : setting.Given bindings text)
    (notOverridden : ∀ other, ¬IsOverridden overrides setting other) :
    ∃ number : Int, value = .int number ∧ 0 ≤ number ∧ number < Nat.pow 2 64 ∧
      Number.Spells Text.isBlank text.characters number := by
  cases effective with
  | overridden isOverridden => exact absurd isOverridden (notOverridden _)
  | default _ notGiven => exact absurd given (notGiven _)
  | parsed _ givenToo reads =>
      obtain rfl := given.unique givenToo
      rcases (reads_iff_of_count isCount).mp reads with ⟨number, rfl, spells, natural, fits⟩
      exact ⟨number, rfl, natural, fits, spells⟩

theorem exists_effective (sound : AreSound bindings) (overrides : List (String × Datum)) (setting : Setting) :
    ∃ value, Effective bindings overrides setting value := by
  by_cases isOverridden : ∃ value, IsOverridden overrides setting value
  · rcases isOverridden with ⟨value, isOverridden⟩
    exact ⟨value, .overridden isOverridden⟩
  · have notOverridden : ∀ other, ¬IsOverridden overrides setting other := fun other isOne => isOverridden ⟨other, isOne⟩
    by_cases isGiven : ∃ text, setting.Given bindings text
    · rcases isGiven with ⟨text, given⟩
      rcases given.exists_reads (sound setting) with ⟨value, reads⟩
      exact ⟨value, .parsed notOverridden given reads⟩
    · exact ⟨_, .default notOverridden fun text given => isGiven ⟨text, given⟩⟩

/-- Every request is made in the order of its sources. -/
theorem ofEnvironment_followsPrecedence (wasmFile : Datum) (bindings : List (String × Text))
    (overrides : List (String × Datum)) (distinct : (overrides.map Prod.fst).Nodup) :
    FollowsPrecedence wasmFile bindings overrides where
  malformed unsound := by
    rcases exists_isFirstMalformed (by simpa [AreSound] using unsound) with ⟨setting, isFirst⟩
    exact ⟨setting, isFirst, ofEnvironment_of_malformed wasmFile overrides isFirst⟩
  unknown sound unknown := ofEnvironment_of_unknown wasmFile sound unknown
  effective sound setting := by
    rcases exists_effective sound overrides setting with ⟨value, effective⟩
    exact ⟨value, effective, fun other effectiveToo => effective.unique distinct effectiveToo⟩
  keyless sound known key isKey noKey := by
    rcases exists_ofEnvironment_eq wasmFile distinct sound known with ⟨settings, effective, isMade⟩
    rw [isMade, isKey.unique distinct (effective .privateKey), if_neg (by simp [noKey])]
  returned sound known key isKey given := by
    rcases exists_ofEnvironment_eq wasmFile distinct sound known with ⟨settings, effective, isMade⟩
    refine ⟨ofSettings wasmFile settings, ?_, rfl, effective⟩
    rw [isMade, isKey.unique distinct (effective .privateKey), if_pos given]
  unordered reordered same request := by
    have mem : ∀ entry, entry ∈ reordered ↔ entry ∈ overrides := fun entry => same.mem_iff
    rw [ofEnvironment_eq_ok_iff distinct, ofEnvironment_eq_ok_iff ((same.map Prod.fst).nodup_iff.mpr distinct)]
    rintro ⟨sound, known, isKey, isFile, effective⟩
    exact ⟨sound, fun name value isIn => known name value ((mem _).mp isIn), isKey, isFile,
      fun setting => (effective setting).congr mem⟩
  outside others agree := by
    have same : Settings.ofEnvironment (.ofTexts others) = Settings.ofEnvironment (.ofTexts bindings) :=
      readFrom_congr fun setting mem => by
        rw [Environment.lookup_ofTexts, Environment.lookup_ofTexts, agree setting mem]
    rw [ofEnvironment, ofEnvironment, same]
  counts request made setting isCount text given notOverridden := by
    have effective := ((ofEnvironment_eq_ok_iff distinct).mp made).2.2.2.2 setting
    rcases effective.exists_count isCount given notOverridden with ⟨number, isNumber, natural, fits, spells⟩
    exact ⟨number, isNumber, natural, fits, spells, fun integer spelled =>
      spells.unique (fun _ blanked => blanked) (spelled.mono fun _ => Text.isBlank_of_isNumberBlank)⟩

/-- An environment with a private key, a gas limit between blanks and an empty duration. -/
def keyed : List (String × Text) :=
  [("DEPLOY_PRIVATE_KEY", "0x01"), ("DEPLOY_GAS_LIMIT", " 5 "), ("DEPLOY_TIMEOUT", "")]

/-- Explicit settings with an empty private key. -/
def masking : List (String × Datum) :=
  [("chain_id", .null), ("private_key", .text "")]

/-- An empty private key masks the one of the environment. -/
theorem ofEnvironment_followsPrecedence_masked :
    (masking.map Prod.fst).Nodup ∧
      ofEnvironment (.text "a.wasm") (.ofTexts keyed) masking = fail .keyUnset := by
  have distinct : (masking.map Prod.fst).Nodup := by decide
  have known : AreKnown masking := by
    simp only [AreKnown, masking, List.mem_cons, List.not_mem_nil, or_false, Prod.mk.injEq]
    rintro _ _ (⟨rfl, _⟩ | ⟨rfl, _⟩)
    · exact ⟨.chainId, rfl⟩
    · exact ⟨.privateKey, rfl⟩
  have masked : Effective keyed masking .privateKey (.text "") := .overridden ⟨by simp [masking, name], by simp⟩
  have follows := ofEnvironment_followsPrecedence (.text "a.wasm") keyed masking distinct
  exact ⟨distinct, follows.keyless (areSound_iff.mpr (by decide +kernel)) known _ masked rfl⟩

/-- An environment whose gas limit stands after an information separator. -/
def separated : List (String × Text) :=
  [("DEPLOY_PRIVATE_KEY", "0x01"), ("DEPLOY_GAS_LIMIT", "\x1c5")]

/-- Not every text that is taken for an integer stands for one: an information separator may stand before it. -/
theorem exists_count_not_integer :
    ¬∀ wasmFile bindings request, ofEnvironment wasmFile (.ofTexts bindings) [] = .ok request →
      ∀ setting ∈ counts, ∀ text, setting.Given bindings text →
        ∃ number, request.get setting = .int number ∧ Number.Spells Text.isNumberBlank text.characters number := by
  intro spelled
  have given : Given separated .gasLimit "\x1c5" := ⟨by decide, by decide +kernel, by decide⟩
  have isMade : (ofEnvironment .null (.ofTexts separated) []).isOk = true := by decide +kernel
  cases made : ofEnvironment .null (.ofTexts separated) [] with
  | error fault => simp [made, Except.isOk, Except.toBool] at isMade
  | ok request =>
      rcases spelled _ _ _ made _ (by decide) _ given with ⟨number, _, spells⟩
      cases (Number.readInteger?_trimBlanks_eq_some_iff fun _ => Text.isBlank_of_isNumberBlank).mpr spells

end DeploymentRequest

end WasmDeploy
