/-!
# Blank characters

This file gives the three classes of blanks in use: those trimmed from the ends of a setting, those
that may follow a number, and those that a data format allows between its tokens.
-/

namespace WasmDeploy.Text

/-- A blank of any script, information separators included. -/
def isBlank (character : Char) : Bool :=
  let codePoint := character.toNat
  (0x09 ≤ codePoint && codePoint ≤ 0x0d) || (0x1c ≤ codePoint && codePoint ≤ 0x20) ||
    codePoint == 0x85 || codePoint == 0xa0 || codePoint == 0x1680 ||
    (0x2000 ≤ codePoint && codePoint ≤ 0x200a) || codePoint == 0x2028 || codePoint == 0x2029 ||
    codePoint == 0x202f || codePoint == 0x205f || codePoint == 0x3000

/-- A blank that may stand after the digits of a number: any blank but an information separator. -/
def isNumberBlank (character : Char) : Bool :=
  isBlank character && !(0x1c ≤ character.toNat && character.toNat ≤ 0x1f)

/-- The ASCII blanks: the space, the tabs, the line ends and the form feed. -/
def isAsciiBlank (character : Char) : Bool :=
  let codePoint := character.toNat
  (0x09 ≤ codePoint && codePoint ≤ 0x0d) || codePoint == 0x20

/-- The characters without the blanks at either end. -/
def trimBlanks (blank : Char → Bool) (characters : List Char) : List Char :=
  ((characters.dropWhile blank).reverse.dropWhile blank).reverse

end WasmDeploy.Text
