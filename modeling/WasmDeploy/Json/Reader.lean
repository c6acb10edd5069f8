import WasmDeploy.Datum
import WasmDeploy.Number.Read
import WasmDeploy.Text.Hex

/-!
# Reading JSON

This file reads a JSON text that fills the whole input. Beyond the standard it takes the names of infinity
and of the float that is no number. An integer is read exactly if it is not too long, and a number with a
fraction or an exponent is the nearest float. A repeated key of an object keeps its first place and its last
value. Containers may be nested up to a depth.
-/

namespace WasmDeploy.Json

/-- A blank between tokens. -/
def isSpace (character : Char) : Bool :=
  character == ' ' || character == '\t' || character == '\n' || character == '\r'

/-- What follows the blanks at the start. -/
def skipSpace (text : List Char) : List Char :=
  text.dropWhile isSpace

/-- The number that four hexadecimal digits write. -/
def codeUnit? (first second third fourth : Char) : Option Nat := do
  let first ← Text.hexDigitValue? first
  let second ← Text.hexDigitValue? second
  let third ← Text.hexDigitValue? third
  let fourth ← Text.hexDigitValue? fourth
  return ((first * 16 + second) * 16 + third) * 16 + fourth

/-- Whether a code unit is the first one of a pair. -/
def isHighUnit (unit : Nat) : Bool :=
  0xd800 ≤ unit && unit ≤ 0xdbff

/-- Whether a code unit is the second one of a pair. -/
def isLowUnit (unit : Nat) : Bool :=
  0xdc00 ≤ unit && unit ≤ 0xdfff

/-- The code point of a code unit that stands alone. -/
def pointOfUnit (unit : Nat) : CodePoint :=
  if isHighUnit unit || isLowUnit unit then .half unit else .char (Char.ofNat unit)

/-- The character that an escape of one letter stands for. -/
def escaped? : Char → Option Char
  | '"' => some '"'
  | '\\' => some '\\'
  | '/' => some '/'
  | 'b' => some '\x08'
  | 'f' => some '\x0c'
  | 'n' => some '\n'
  | 'r' => some '\r'
  | 't' => some '\t'
  | _ => none

/-- The code points up to the closing quote, and what follows it. Two escapes in a row that make a pair give
one character. -/
def readString : List Char → Option (List CodePoint × List Char)
  | [] => none
  | '"' :: rest => some ([], rest)
  | '\\' :: 'u' :: a :: b :: c :: d :: rest =>
      match codeUnit? a b c d with
      | none => none
      | some unit =>
          match rest with
          | '\\' :: 'u' :: e :: f :: g :: h :: after =>
              match codeUnit? e f g h with
              | some low =>
                  if isHighUnit unit && isLowUnit low then
                    let joined := 0x10000 + (unit - 0xd800) * 0x400 + (low - 0xdc00)
                    (readString after).map fun (points, rest) =>
                      (.char (Char.ofNat joined) :: points, rest)
                  else
                    (readString ('\\' :: 'u' :: e :: f :: g :: h :: after)).map
                      fun (points, rest) => (pointOfUnit unit :: points, rest)
              | none => none
          | other =>
              (readString other).map fun (points, rest) => (pointOfUnit unit :: points, rest)
  | '\\' :: mark :: rest =>
      match escaped? mark with
      | some character =>
          (readString rest).map fun (points, rest) => (.char character :: points, rest)
      | none => none
  | character :: rest =>
      if character.toNat < 0x20 || character == '\\' then none
      else (readString rest).map fun (points, rest) => (.char character :: points, rest)

/-- The ASCII digits at the start, and what follows them. -/
def readDigits (text : List Char) : List Char × List Char :=
  (text.takeWhile Char.isDigit, text.dropWhile Char.isDigit)

/-- The digits of the whole part of a number, and what follows them: one zero, or digits that do not start
with zero. -/
def readWhole? (text : List Char) : Option (List Char × List Char) :=
  match text with
  | '0' :: rest => some (['0'], rest)
  | other =>
      let (digits, rest) := readDigits other
      if digits.isEmpty then none else some (digits, rest)

/-- The characters of a fraction, and what follows it; a point without digits is no fraction. -/
def readFraction (text : List Char) : List Char × List Char :=
  match text with
  | '.' :: rest =>
      let (digits, after) := readDigits rest
      if digits.isEmpty then ([], text) else ('.' :: digits, after)
  | _ => ([], text)

/-- The characters of an exponent, and what follows it; a mark without digits is no exponent. -/
def readExponent (text : List Char) : List Char × List Char :=
  match text with
  | mark :: rest =>
      if mark = 'e' ∨ mark = 'E' then
        let (sign, unsigned) :=
          match rest with
          | '+' :: after => (['+'], after)
          | '-' :: after => (['-'], after)
          | after => ([], after)
        let (digits, after) := readDigits unsigned
        if digits.isEmpty then ([], text) else (mark :: sign ++ digits, after)
      else ([], text)
  | [] => ([], text)

/-- A number, and what follows it. -/
def readNumber? (text : List Char) : Option (Datum × List Char) := do
  let (sign, unsigned) :=
    match text with
    | '-' :: rest => (['-'], rest)
    | rest => ([], rest)
  let (whole, rest) ← readWhole? unsigned
  let (fraction, rest) := readFraction rest
  let (exponent, rest) := readExponent rest
  if fraction.isEmpty && exponent.isEmpty then
    let value ← Number.readInteger? (sign ++ whole)
    return (.int value, rest)
  else
    let value ← Number.readFloat? (sign ++ whole ++ fraction ++ exponent)
    return (.float value, rest)

/-- What follows a word at the start of a text. -/
def afterWord? (word : String) (text : List Char) : Option (List Char) :=
  if word.toList.isPrefixOf text then some (text.drop word.length) else none

/-- The words that stand for values. -/
def words : List (String × Datum) :=
  [("null", .null), ("true", .bool true), ("false", .bool false), ("NaN", .float (0.0 / 0.0)),
    ("Infinity", .float (1.0 / 0.0)), ("-Infinity", .float (-1.0 / 0.0))]

/-- A value that is written as a word, and what follows it. -/
def readWord? (text : List Char) : Option (Datum × List Char) :=
  words.findSome? fun (word, value) => (afterWord? word text).map fun rest => (value, rest)

/-- The parts of a JSON text that hold others. -/
inductive Container where
  | array
  | object
deriving DecidableEq, Repr

/-- The name of a kind of container. -/
def Container.name : Container → String
  | .array => "array"
  | .object => "object"

/-- Why a JSON text is refused: it is none, or it nests too many containers. -/
inductive Refusal where
  | malformed
  | tooDeep (container : Container)
deriving DecidableEq, Repr

/-- How many containers may be open at a time. -/
def maxDepth : Nat := 985

/-- What was read, a text without it being malformed. -/
def orMalformed {α : Type} : Option α → Except Refusal α
  | some result => .ok result
  | none => .error .malformed

mutual

/-- A value at the start of a text, and what follows it. Each step into a part uses up one of `steps`, and
each container that is opened one of `room`. -/
def readValue : (steps room : Nat) → List Char → Except Refusal (Datum × List Char)
  | 0, _, _ => .error .malformed
  | steps + 1, room, text =>
      match text with
      | '"' :: rest =>
          (orMalformed (readString rest)).map fun (points, rest) => (.text ⟨points⟩, rest)
      | '[' :: rest =>
          if room = 0 then .error (.tooDeep .array)
          else
            match skipSpace rest with
            | ']' :: after => .ok (.list [], after)
            | items =>
                (readItems steps (room - 1) items).map fun (items, rest) => (.list items, rest)
      | '\x7b' :: rest =>
          if room = 0 then .error (.tooDeep .object)
          else
            match skipSpace rest with
            | '\x7d' :: after => .ok (.object [], after)
            | members =>
                (readMembers steps (room - 1) [] members).map
                  fun (members, rest) => (.object members, rest)
      | other => orMalformed ((readWord? other).orElse fun _ => readNumber? other)

/-- The items of a list up to its closing bracket, and what follows it. -/
def readItems : (steps room : Nat) → List Char → Except Refusal (List Datum × List Char)
  | 0, _, _ => .error .malformed
  | steps + 1, room, text =>
      match readValue steps room text with
      | .error refusal => .error refusal
      | .ok (item, rest) =>
          match skipSpace rest with
          | ',' :: after =>
              (readItems steps room (skipSpace after)).map
                fun (items, rest) => (item :: items, rest)
          | ']' :: after => .ok ([item], after)
          | _ => .error .malformed

/-- The members of an object up to its closing brace, after those that are given, and what follows it. -/
def readMembers : (steps room : Nat) → List (Text × Datum) → List Char →
    Except Refusal (List (Text × Datum) × List Char)
  | 0, _, _, _ => .error .malformed
  | steps + 1, room, members, text =>
      match text with
      | '"' :: quotedKey =>
          match readString quotedKey with
          | none => .error .malformed
          | some (points, rest) =>
              match skipSpace rest with
              | ':' :: after =>
                  match readValue steps room (skipSpace after) with
                  | .error refusal => .error refusal
                  | .ok (value, rest) =>
                      let members := Datum.insertMember ⟨points⟩ value members
                      match skipSpace rest with
                      | ',' :: after => readMembers steps room members (skipSpace after)
                      | '\x7d' :: after => .ok (members, after)
                      | _ => .error .malformed
              | _ => .error .malformed
      | _ => .error .malformed

end

/-- The value of a JSON text. Every step into a part passes at least one character, so the steps that a
text needs are at most twice its length. -/
def read (text : String) : Except Refusal Datum :=
  let characters := text.toList
  match readValue (2 * characters.length + 1) maxDepth (skipSpace characters) with
  | .error refusal => .error refusal
  | .ok (value, rest) => if (skipSpace rest).isEmpty then .ok value else .error .malformed

end WasmDeploy.Json
