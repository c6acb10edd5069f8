/-!
# Texts

This file gives the texts of values that are not checked yet. A text is a sequence of code points. An
endpoint may send a text in which one half of a surrogate pair stands alone: no character stands for it, but
texts that differ in it differ.
-/

namespace WasmDeploy

/-- A code point of a text: a character, or a half of a surrogate pair that stands alone. -/
inductive CodePoint where
  | char (character : Char)
  | half (unit : Nat)
deriving DecidableEq, Repr, Inhabited

/-- A text as a sequence of code points. -/
structure Text where
  points : List CodePoint
deriving DecidableEq, Repr, Inhabited

/-- What stands for a code point that no character stands for. -/
def CodePoint.replacement : Char := '\ufffd'

/-- The number of a code point. -/
def CodePoint.number : CodePoint → Nat
  | .char character => character.toNat
  | .half unit => unit

/-- The character that shows a code point. -/
def CodePoint.character : CodePoint → Char
  | .char character => character
  | .half _ => replacement

namespace Text

/-- The text of some characters. -/
def ofCharacters (characters : List Char) : Text :=
  ⟨characters.map .char⟩

/-- The text of a string. -/
def ofString (string : String) : Text :=
  ofCharacters string.toList

instance : Coe String Text := ⟨ofString⟩

/-- The characters that show a text. The replacement character is no digit, no blank and no delimiter, so
a text with half a pair reads as one with a foreign character in its place. -/
def characters (text : Text) : List Char :=
  text.points.map CodePoint.character

/-- The string that shows a text. -/
def shown (text : Text) : String :=
  String.ofList text.characters

/-- How many code points a text has. -/
def length (text : Text) : Nat :=
  text.points.length

/-- Whether a text has no code points. -/
def isEmpty (text : Text) : Bool :=
  text.points.isEmpty

/-- Whether a text comes before another in the order of the numbers of their code points. -/
def isBefore (left right : Text) : Bool :=
  left.points.map CodePoint.number < right.points.map CodePoint.number

/-- Characters show themselves. -/
@[simp] theorem characters_ofCharacters (characters : List Char) :
    (ofCharacters characters).characters = characters := by
  induction characters with
  | nil => rfl
  | cons character rest ih => exact congrArg (character :: ·) ih

/-- A string shows itself. -/
@[simp] theorem shown_ofString (string : String) : (ofString string).shown = string := by
  simp [shown, ofString]

end Text

end WasmDeploy
