import WasmDeploy.Text.Hex

/-!
# Addresses of hosts

This file tells the texts that are addresses of hosts: four decimal numbers, or up to eight groups of
hexadecimal digits, a run of zero groups left out at most once, the last two groups optionally as four
decimal numbers.
-/

namespace WasmDeploy.Url

/-- The pieces of a text between separators. -/
def splitAt (separator : Char) : List Char → List (List Char)
  | [] => [[]]
  | character :: rest =>
      if character = separator then [] :: splitAt separator rest
      else match splitAt separator rest with
        | piece :: pieces => (character :: piece) :: pieces
        | [] => [[character]]

/-- Whether a text is a decimal number below 256 without leading zeros. -/
def isOctet (text : List Char) : Bool :=
  !text.isEmpty && text.length ≤ 3 && text.all Char.isDigit &&
    (text.length == 1 || text.head? != some '0') &&
    text.foldl (fun value character => value * 10 + (character.toNat - 0x30)) 0 ≤ 255

/-- Whether a text is an address of four decimal numbers. -/
def isAddress4 (text : List Char) : Bool :=
  let octets := splitAt '.' text
  octets.length == 4 && octets.all isOctet

/-- Whether a text is one group of hexadecimal digits. -/
def isGroup (text : List Char) : Bool :=
  !text.isEmpty && text.length ≤ 4 && text.all fun character =>
    (Text.hexDigitValue? character).isSome

/-- The groups of an address, with the decimal numbers at the end taken for two groups; nothing if those
are malformed. -/
def groups? (text : List Char) : Option (List (List Char)) :=
  let pieces := splitAt ':' text
  if pieces.length < 3 then none else
  match pieces.getLast? with
  | some last =>
      if last.contains '.' then
        if isAddress4 last then some (pieces.dropLast ++ [['0'], ['0']]) else none
      else some pieces
  | none => none

/-- Whether groups form an address: eight of them, or fewer around one run of zero groups that is left
out. -/
def areGroups (groups : List (List Char)) : Bool :=
  let inner := (groups.drop 1).dropLast
  match inner.findIdx? List.isEmpty with
  | none => groups.length == 8 && groups.all isGroup
  | some index =>
      let before := groups.take (index + 1)
      let after := groups.drop (index + 2)
      let leading := if before.head? == some [] then before.drop 1 else before
      let trailing := if after.getLast? == some [] then after.dropLast else after
      groups.length ≤ 9 && (inner.filter List.isEmpty).length == 1 &&
        (before.head? != some [] || leading.isEmpty) &&
        (after.getLast? != some [] || trailing.isEmpty) &&
        leading.length + trailing.length ≤ 7 && leading.all isGroup && trailing.all isGroup

/-- Whether a text is an address of groups, optionally with a scope after a percent sign. -/
def isAddress6 (text : List Char) : Bool :=
  let address := text.takeWhile (· != '%')
  let scope := text.drop (address.length + 1)
  let scopeFine := address.length == text.length || (!scope.isEmpty && !scope.contains '%')
  !text.contains '/' && scopeFine && (groups? address).any areGroups

end WasmDeploy.Url
