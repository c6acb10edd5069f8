import WasmDeploy.Number.Binary64
import WasmDeploy.Text.DecimalDigit

/-!
# Reading numbers

This file reads integers and floats from text. Digits of any script count, and one underscore may stand
between two digits. What the text says is read exactly; a float is then the nearest binary64 number.
-/

namespace WasmDeploy.Number

/-- The digits that continue a run, each optionally after one underscore, and what follows the run. -/
def digitTail (digit : Char → Option Nat) : List Char → List Nat × List Char
  | [] => ([], [])
  | '_' :: character :: rest =>
      match digit character with
      | some value =>
          let (values, remaining) := digitTail digit rest
          (value :: values, remaining)
      | none => ([], '_' :: character :: rest)
  | character :: rest =>
      match digit character with
      | some value =>
          let (values, remaining) := digitTail digit rest
          (value :: values, remaining)
      | none => ([], character :: rest)

/-- A run of digits at the start of a text, and what follows it. -/
def digitRun (digit : Char → Option Nat) : List Char → List Nat × List Char
  | [] => ([], [])
  | character :: rest =>
      match digit character with
      | some value =>
          let (values, remaining) := digitTail digit rest
          (value :: values, remaining)
      | none => ([], character :: rest)

/-- The number that digits, the most significant first, stand for in a base. -/
def ofDigits (base : Nat) (digits : List Nat) : Nat :=
  digits.foldl (fun value digit => value * base + digit) 0

/-- A leading sign, and what follows it. -/
def readSign : List Char → Bool × List Char
  | '+' :: rest => (false, rest)
  | '-' :: rest => (true, rest)
  | rest => (false, rest)

/-- The most digits that a decimal integer may be written with. -/
def maxIntegerDigits : Nat := 4300

/-- Reads a decimal integer that fills the whole text. -/
def readInteger? (text : List Char) : Option Int :=
  let (negative, unsigned) := readSign text
  let (digits, rest) := digitRun Text.digitValue? unsigned
  if digits.isEmpty || !rest.isEmpty || maxIntegerDigits < digits.length then none
  else
    let magnitude : Int := ofDigits 10 digits
    some (if negative then -magnitude else magnitude)

/-- The float nearest to `significand * 10 ^ exponent`. Exponents that leave the range of binary64 for
every digit at hand are settled without computing the power. -/
def ofDecimal (negative : Bool) (significand : Nat) (exponent : Int) : Float :=
  let lead : Int := exponent + (Nat.toDigits 10 significand).length
  if significand = 0 ∨ lead < -400 then ofQuotient negative 0 1
  else if 400 < lead then infinity negative
  else
    let (numerator, denominator) := scaled 10 significand exponent
    ofQuotient negative numerator denominator

/-- An exponent part that fills the rest of the text; no exponent part counts as zero. -/
def readExponent? : List Char → Option Int
  | [] => some 0
  | mark :: rest =>
      if mark = 'e' ∨ mark = 'E' then
        let (negative, unsigned) := readSign rest
        let (digits, rest) := digitRun Text.digitValue? unsigned
        if digits.isEmpty || !rest.isEmpty then none
        else
          let magnitude : Int := ofDigits 10 digits
          some (if negative then -magnitude else magnitude)
      else none

/-- A fraction part, and what follows it; no fraction part counts as no digits. -/
def readFraction : List Char → List Nat × List Char
  | '.' :: rest => digitRun Text.digitValue? rest
  | rest => ([], rest)

/-- Reads a float that fills the whole text: a sign, then digits with an optional fraction and exponent,
or a name for infinity or for no number, in any letter case. -/
def readFloat? (text : List Char) : Option Float :=
  let (negative, unsigned) := readSign text
  let name := String.ofList (unsigned.map Char.toLower)
  if name = "inf" ∨ name = "infinity" then some (infinity negative)
  else if name = "nan" then some (0.0 / 0.0)
  else
    let (whole, rest) := digitRun Text.digitValue? unsigned
    let (fraction, rest) := readFraction rest
    if whole.isEmpty && fraction.isEmpty then none
    else
      (readExponent? rest).map fun exponent =>
        ofDecimal negative (ofDigits 10 (whole ++ fraction)) (exponent - fraction.length)

end WasmDeploy.Number
