import WasmDeploy.Fault.Defect
import WasmDeploy.Url.Address

/-!
# The parts of a URL that select an endpoint

This file takes the scheme and the authority out of a URL. Leading controls and spaces are skipped, and tabs
and line ends are left out wherever they stand. An authority is refused if its brackets do not hold an
address, or if it holds a character that stands for one of the delimiters.
-/

namespace WasmDeploy.Url

/-- The parts of a URL that select an endpoint. -/
structure Parts where
  scheme : List Char
  authority : List Char
deriving DecidableEq, Repr

/-- The characters of a URL that count. -/
def clean (url : List Char) : List Char :=
  (url.dropWhile (·.toNat ≤ 0x20)).filter fun character =>
    character != '\t' && character != '\r' && character != '\n'

/-- Whether a character may stand in a scheme. -/
def isSchemeChar (character : Char) : Bool :=
  character.isAlphanum || character == '+' || character == '-' || character == '.'

/-- The lower-cased scheme of a URL, and what follows its colon. A scheme starts with a letter; a URL
without a scheme has the empty one. -/
def splitScheme (url : List Char) : List Char × List Char :=
  let scheme := url.takeWhile (· != ':')
  let isScheme := scheme.head?.any Char.isAlpha && scheme.all isSchemeChar
  if scheme.length == url.length || !isScheme then ([], url)
  else (scheme.map Char.toLower, url.drop (scheme.length + 1))

/-- The authority after the two slashes, up to the path, the query or the fragment. -/
def authorityOf : List Char → List Char
  | '/' :: '/' :: rest =>
      rest.takeWhile fun character => character != '/' && character != '?' && character != '#'
  | _ => []

/-- What follows the last separator, or the whole text if there is none. -/
def afterLast (separator : Char) (text : List Char) : List Char :=
  (text.reverse.takeWhile (· != separator)).reverse

/-- Whether a text between brackets names a future kind of address. -/
def isFutureAddress (host : List Char) : Bool :=
  let version := (host.drop 1).takeWhile fun character =>
    (Text.hexDigitValue? character).isSome
  let rest := host.drop (version.length + 1)
  !version.isEmpty && rest.head? == some '.' && 2 ≤ rest.length

/-- Checks the host of an authority with brackets. -/
def checkHost (host : List Char) : Except UrlDefect Unit :=
  if host.head? = some 'v' then
    if isFutureAddress host then .ok () else .error .futureAddress
  else if isAddress4 host then .error .decimalInBrackets
  else if isAddress6 host then .ok ()
  else .error (.address (String.ofList host))

/-- Checks the brackets of an authority: they hold the host, nothing stands before them, and what
follows them starts with a colon. -/
def checkBrackets (authority : List Char) : Except UrlDefect Unit :=
  match authority.contains '[', authority.contains ']' with
  | false, false => .ok ()
  | true, true =>
      let place := afterLast '@' authority
      if place.contains '[' then
        let bracketed := place.drop 1
        let host := bracketed.takeWhile (· != ']')
        let behind := bracketed.drop (host.length + 1)
        if place.head? != some '[' || (!behind.isEmpty && behind.head? != some ':') then
          .error .brackets
        else checkHost host
      else checkHost (place.takeWhile (· != ':'))
  | _, _ => .error .brackets

/-- The characters whose compatibility form holds a delimiter of a URL. -/
def lookalikes : List Nat :=
  [0x2047, 0x2048, 0x2049, 0x2100, 0x2101, 0x2105, 0x2106, 0x2a74, 0xfe13, 0xfe16, 0xfe55, 0xfe56,
    0xfe5f, 0xfe6b, 0xff03, 0xff0f, 0xff1a, 0xff1f, 0xff20]

/-- The scheme and the authority of a URL. -/
def parse (url : List Char) : Except UrlDefect Parts := do
  let (scheme, rest) := splitScheme (clean url)
  let authority := authorityOf rest
  checkBrackets authority
  if authority.any fun character => lookalikes.contains character.toNat then
    throw (.lookalike (String.ofList authority))
  return ⟨scheme, authority⟩

end WasmDeploy.Url
