/-!
# Lines of a text

This file cuts a text into lines at every line boundary: the line ends of ASCII, the information
separators, the next-line control and the two Unicode separators. A carriage return followed by a line
feed is one boundary, and a boundary at the very end starts no further line.
-/

namespace WasmDeploy.Text

/-- Whether a character ends a line. -/
def isLineEnd (character : Char) : Bool :=
  let codePoint := character.toNat
  (0x0a ≤ codePoint && codePoint ≤ 0x0d) || (0x1c ≤ codePoint && codePoint ≤ 0x1e) ||
    codePoint == 0x85 || codePoint == 0x2028 || codePoint == 0x2029

/-- The lines of some characters, given the reversed characters of the line under way. -/
def linesFrom : (line : List Char) → (rest : List Char) → List String
  | [], [] => []
  | line, [] => [String.ofList line.reverse]
  | line, '\r' :: '\n' :: rest => String.ofList line.reverse :: linesFrom [] rest
  | line, character :: rest =>
      if isLineEnd character then String.ofList line.reverse :: linesFrom [] rest
      else linesFrom (character :: line) rest

/-- The lines of a text, without their ends. -/
def lines (text : String) : List String :=
  linesFrom [] text.toList

end WasmDeploy.Text
