import WasmDeploy.Bytes
import WasmDeploy.Text
import WasmDeploy.Text.Printable

/-!
# Quoted text

This file writes text and bytes between quotes, the way messages show a value that was refused. The
quote is `'` unless the text holds one and holds no `"`. The quote and the backslash are escaped, and so
is every code point that cannot be shown as it is, by the shortest escape that has room for it.
-/

namespace WasmDeploy.Text

/-- One lower-case hexadecimal digit. -/
def hexDigit (value : Nat) : Char :=
  Nat.digitChar (value % 16)

/-- The last `width` hexadecimal digits of a number. -/
def hexPadded : (width : Nat) → (value : Nat) → List Char
  | 0, _ => []
  | width + 1, value => hexPadded width (value / 16) ++ [hexDigit value]

/-- The numeric escape of a code point: two, four or eight hexadecimal digits. -/
def numericEscape (codePoint : Nat) : List Char :=
  if codePoint < 0x100 then '\\' :: 'x' :: hexPadded 2 codePoint
  else if codePoint < 0x10000 then '\\' :: 'u' :: hexPadded 4 codePoint
  else '\\' :: 'U' :: hexPadded 8 codePoint

/-- One character between quotes, `isShown` deciding what stands for itself. -/
def quoteChar (isShown : Char → Bool) (quote : Char) (character : Char) : List Char :=
  if character = quote ∨ character = '\\' then ['\\', character]
  else if character = '\t' then ['\\', 't']
  else if character = '\n' then ['\\', 'n']
  else if character = '\r' then ['\\', 'r']
  else if isShown character then [character]
  else numericEscape character.toNat

/-- One code point between quotes. Half a surrogate pair never stands for itself. -/
def quotePoint (isShown : Char → Bool) (quote : Char) : CodePoint → List Char
  | .char character => quoteChar isShown quote character
  | .half unit => numericEscape unit

/-- The quote used around a text. -/
def quoteFor (text : Text) : Char :=
  if text.points.contains (.char '\'') && !text.points.contains (.char '"') then '"' else '\''

/-- A text between quotes, `isShown` deciding which characters stand for themselves. -/
def quoteWith (isShown : Char → Bool) (text : Text) : List Char :=
  let quote := quoteFor text
  quote :: text.points.flatMap (quotePoint isShown quote) ++ [quote]

/-- A text between quotes. -/
def quoted (text : Text) : String :=
  String.ofList (quoteWith isPrintable text)

/-- Bytes between quotes: marked with `b`, and everything outside printable ASCII escaped. -/
def quotedBytes (bytes : Bytes) : String :=
  let characters := bytes.map fun byte => Char.ofNat byte.toNat
  let isShown := fun character : Char => 0x20 ≤ character.toNat && character.toNat < 0x7f
  String.ofList ('b' :: quoteWith isShown (ofCharacters characters))

end WasmDeploy.Text
