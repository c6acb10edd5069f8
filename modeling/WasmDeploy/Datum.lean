import WasmDeploy.Number.Decimal
import WasmDeploy.Measure
import WasmDeploy.Text.Quoted

/-!
# Data of any kind

This file gives the values that settings and decoded answers hold before they are checked, with their two
texts: the plain one, in which a text stands for itself, and the one of a message about a refused value, in
which texts are quoted. A list or an object shows its parts quoted in both.
-/

namespace WasmDeploy

/-- A value whose kind has not been checked. The members of an object are in their order of entry. -/
inductive Datum where
  | null
  | bool (value : Bool)
  | int (value : Int)
  | float (value : Float)
  | text (value : Text)
  | bytes (value : Bytes)
  | list (items : List Datum)
  | object (members : List (Text × Datum))
deriving Inhabited

instance : Coe Text Datum := ⟨.text⟩

namespace Datum

/-- The name of the kind of a value. -/
def kindName : Datum → String
  | .null => "NoneType"
  | .bool _ => "bool"
  | .int _ => "int"
  | .float _ => "float"
  | .text _ => "str"
  | .bytes _ => "bytes"
  | .list _ => "list"
  | .object _ => "dict"

/-- Whether a value counts as given: null, false, zero and whatever is empty do not. -/
def isTruthy : Datum → Bool
  | .null => false
  | .bool value => value
  | .int value => value != 0
  | .float value => value != 0.0
  | .text value => !value.isEmpty
  | .bytes value => !value.isEmpty
  | .list items => !items.isEmpty
  | .object members => !members.isEmpty

/-- Whether a value is null. -/
def isNull : Datum → Bool
  | .null => true
  | _ => false

mutual

/-- The text of a value in a message, with texts quoted. -/
def quoted : Datum → String
  | .null => "None"
  | .bool value => if value then "True" else "False"
  | .int value => toString value
  | .float value => Number.shortestText value
  | .text value => Text.quoted value
  | .bytes value => Text.quotedBytes value
  | .list items => "[" ++ String.intercalate ", " (quotedItems items) ++ "]"
  | .object members => "\x7b" ++ String.intercalate ", " (quotedMembers members) ++ "\x7d"

/-- The texts of the items of a list. -/
def quotedItems : List Datum → List String
  | [] => []
  | item :: rest => quoted item :: quotedItems rest

/-- The texts of the members of an object. -/
def quotedMembers : List (Text × Datum) → List String
  | [] => []
  | (key, value) :: rest => (Text.quoted key ++ ": " ++ quoted value) :: quotedMembers rest

end

/-- The plain text of a value. -/
def plain : Datum → String
  | .text value => value.shown
  | value => value.quoted

/-- The plain text of a value, with the halves of surrogate pairs that stand alone in it. -/
def wording : Datum → Text
  | .text value => value
  | value => .ofString value.quoted

/-- The value of an integer; the truth values count as zero and one. -/
def integer? : Datum → Option Int
  | .bool value => some (if value then 1 else 0)
  | .int value => some value
  | _ => none

/-- The value of a number; the truth values count as zero and one. -/
def number? : Datum → Option Measure
  | .float value => some (.float value)
  | value => value.integer?.map .whole

/-- How a number compares with another; what is no number compares with nothing. -/
def compare? (left right : Datum) : Option Ordering := do
  let first ← left.number?
  let second ← right.number?
  first.compare? second

/-- Whether a number is above zero. -/
def isPositive (value : Datum) : Bool :=
  value.compare? (.int 0) == some .gt

/-- Whether a number is at least another one. -/
def isAtLeast (left right : Datum) : Bool :=
  left.compare? right == some .gt || left.compare? right == some .eq

/-- The value of a member of an object. -/
def member? (members : List (Text × Datum)) (key : Text) : Option Datum :=
  members.lookup key

/-- The members of an object with one more entry; a key that is there keeps its place and takes the new
value. -/
def insertMember (key : Text) (value : Datum) : List (Text × Datum) → List (Text × Datum)
  | [] => [(key, value)]
  | (other, old) :: rest =>
      if other = key then (key, value) :: rest else (other, old) :: insertMember key value rest

mutual

/-- Whether two values are equal; numbers of different kinds are equal if their values are. -/
def same : Datum → Datum → Bool
  | .null, .null => true
  | .text left, .text right => left == right
  | .bytes left, .bytes right => left == right
  | .list left, .list right => sameItems left right
  | .object left, .object right => left.length == right.length && sameMembers left right
  | left, right => left.compare? right == some .eq

/-- Whether two lists hold equal items. -/
def sameItems : List Datum → List Datum → Bool
  | [], [] => true
  | left :: lefts, right :: rights => same left right && sameItems lefts rights
  | _, _ => false

/-- Whether every member is found with an equal value in another object. -/
def sameMembers : List (Text × Datum) → List (Text × Datum) → Bool
  | [], _ => true
  | (key, value) :: rest, others =>
      (match others.lookup key with
        | some other => same value other
        | none => false) && sameMembers rest others

end

end Datum

end WasmDeploy
