import WasmDeploy.Datum.Arithmetic
import WasmDeploy.Text.Blank
import WasmDeploy.Text.Hex

/-!
# Quantities

This file reads the numbers of an endpoint's answers: hexadecimal digits after `0x`. The reading is
forgiving. Decimal digits of any script count, single underscores may stand before and between digits, and
blanks may follow.
-/

namespace WasmDeploy

namespace Quantity

/-- The value of a digit of a quantity: a decimal digit of any script or an ASCII letter up to `f`. -/
def digit? (character : Char) : Option Nat :=
  (Text.digitValue? character).orElse fun _ => Text.hexDigitValue? character

/-- Reads what follows the `0x` of a quantity. -/
def readDigits? (text : List Char) : Option Nat :=
  let afterMark :=
    match text with
    | '_' :: rest => rest
    | rest => rest
  let (digits, rest) := Number.digitRun digit? afterMark
  if digits.isEmpty || !rest.all Text.isNumberBlank then none
  else some (Number.ofDigits 16 digits)

/-- The number that a member of an answer gives; `field` names the member in a failure. -/
def decode (field : String) (value : Datum) : Except Fault Int :=
  match value with
  | .text text =>
      match text.characters with
      | '0' :: 'x' :: digits =>
          match readDigits? digits with
          | some number => .ok number
          | none => fail (.quantityInvalid field text)
      | _ => fail (.quantityExpected field value)
  | _ => value.refuse (.quantityExpected field value)

/-- The number that an optional value gives; null stays null. -/
def decodeOptional (field : String) : Datum → Except Fault Datum
  | .null => .ok .null
  | value => (decode field value).map .int

/-- The number that a member of an object gives; a missing member gives null. -/
def ofMember (data : Datum) (key : String) : Except Fault Datum :=
  match data with
  | .object members => decodeOptional key ((Datum.member? members key).getD .null)
  | other => reject (.lacksOperation other.kindName "get")

end Quantity

end WasmDeploy
