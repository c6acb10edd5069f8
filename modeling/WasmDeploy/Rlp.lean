import WasmDeploy.Bytes

/-!
# Recursive length prefix encoding

This file writes byte strings and lists of them in the encoding in which transactions are hashed and sent,
and reads them back. Each part is preceded by its length, and a single byte below `0x80` stands for itself. A
number is the string of its bytes without leading zeros. Reading accepts the shortest form of a part only, so
that every list has one encoding.
-/

namespace WasmDeploy.Rlp

/-- The mark of an empty byte string; the marks of byte strings start here. -/
def stringMark : Nat := 0x80

/-- The mark of an empty list; the marks of lists start here. -/
def listMark : Nat := 0xc0

/-- The longest part whose length is written in its mark. -/
def maxShortLength : Nat := 55

/-- What the length of a part has to be below: a length has eight bytes at most. -/
def lengthLimit : Nat := Nat.pow 256 8

/-! ## Writing -/

/-- The bytes before a part: one byte for a short length, or the count of the bytes of the length and then
these. -/
def header (mark length : Nat) : Bytes :=
  if length ≤ maxShortLength then [UInt8.ofNat (mark + length)]
  else
    let lengthBytes := Bytes.ofNumber length
    UInt8.ofNat (mark + maxShortLength + lengthBytes.length) :: lengthBytes

/-- A byte string. -/
def encodeString : Bytes → Bytes
  | [byte] => if byte < 0x80 then [byte] else [0x81, byte]
  | bytes => header stringMark bytes.length ++ bytes

/-- A number. -/
def encodeNumber (number : Nat) : Bytes :=
  encodeString (Bytes.ofNumber number)

/-- A list whose parts are encoded already. There is none if its length cannot be written. A part whose length
cannot be written makes its list too long as well. -/
def encodeList (parts : List Bytes) : Option Bytes :=
  let body := parts.flatten
  if body.length < lengthLimit then some (header listMark body.length ++ body) else none

/-! ## Reading -/

/-- The length that a header announces, and what follows the header. A length that would fit into the mark
and a length with leading zeros are refused. -/
def readHeader? (mark : Nat) : Bytes → Option (Nat × Bytes)
  | [] => none
  | first :: rest =>
      let announced := first.toNat - mark
      if first.toNat < mark ∨ 64 ≤ announced then none
      else if announced ≤ maxShortLength then some (announced, rest)
      else
        let lengthBytes := rest.take (announced - maxShortLength)
        let length := Bytes.toNumber lengthBytes
        if Bytes.ofNumber length = lengthBytes ∧ maxShortLength < length ∧
            lengthBytes.length = announced - maxShortLength then
          some (length, rest.drop (announced - maxShortLength))
        else none

/-- A byte string at the start of some bytes, and what follows it. -/
def readString? (bytes : Bytes) : Option (Bytes × Bytes) :=
  match bytes with
  | [] => none
  | first :: rest =>
      if first < 0x80 then some ([first], rest)
      else
        match readHeader? stringMark (first :: rest) with
        | none => none
        | some (length, rest) =>
            let content := rest.take length
            if content.length = length ∧ content.all (fun byte => length ≠ 1 ∨ 0x80 ≤ byte) then
              some (content, rest.drop length)
            else none

/-- A header takes up at least one byte. -/
theorem length_lt_of_readHeader? {mark length : Nat} {bytes rest : Bytes}
    (read : readHeader? mark bytes = some (length, rest)) : rest.length < bytes.length := by
  cases bytes with
  | nil => simp [readHeader?] at read
  | cons first tail =>
    simp only [readHeader?] at read
    split at read
    · simp at read
    · split at read
      · simp only [Option.some.injEq, Prod.mk.injEq] at read
        simp [← read.2]
      · split at read
        · simp only [Option.some.injEq, Prod.mk.injEq] at read
          simp only [← read.2, List.length_drop, List.length_cons]
          omega
        · simp at read

/-- A byte string takes up at least one byte. -/
theorem length_lt_of_readString? {bytes content rest : Bytes}
    (read : readString? bytes = some (content, rest)) : rest.length < bytes.length := by
  cases bytes with
  | nil => simp [readString?] at read
  | cons first tail =>
    simp only [readString?] at read
    split at read
    · simp only [Option.some.injEq, Prod.mk.injEq] at read
      simp [← read.2]
    · split at read
      · simp at read
      · next _ _ length behind header =>
        have shorter := length_lt_of_readHeader? header
        split at read
        · simp only [Option.some.injEq, Prod.mk.injEq] at read
          simp only [← read.2, List.length_drop]
          omega
        · simp at read

/-- The byte strings that fill some bytes. -/
def readStrings? (bytes : Bytes) : Option (List Bytes) :=
  if bytes.isEmpty then some []
  else
    match _ : readString? bytes with
    | none => none
    | some (content, rest) => (readStrings? rest).map (content :: ·)
termination_by bytes.length
decreasing_by exact length_lt_of_readString? (by assumption)

/-- The byte strings of a list that fills some bytes. -/
def decodeList? (bytes : Bytes) : Option (List Bytes) :=
  match readHeader? listMark bytes with
  | none => none
  | some (length, body) => if body.length = length then readStrings? body else none

end WasmDeploy.Rlp
