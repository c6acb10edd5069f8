import WasmDeploy.Bytes
import WasmDeploy.Text

/-!
# Forgiving UTF-8

This file decodes bytes as UTF-8 where each ill-formed sequence is read as one replacement character. A
sequence is given up at the first byte that cannot continue it, and that byte is then read afresh, so no
well-formed character is ever lost.
-/

namespace WasmDeploy.Text

/-- What the lead byte of a sequence announces: how many bytes follow, the bits it carries and the range
of the byte after it. -/
structure Lead where
  following : Nat
  bits : Nat
  low : UInt8
  high : UInt8

/-- What a lead byte announces. The ranges leave out overlong forms, surrogates and code points past the
last one. -/
def lead? (byte : UInt8) : Option Lead :=
  let value := byte.toNat
  if 0xc2 ≤ value ∧ value ≤ 0xdf then some ⟨1, value - 0xc0, 0x80, 0xbf⟩
  else if value = 0xe0 then some ⟨2, 0, 0xa0, 0xbf⟩
  else if value = 0xed then some ⟨2, 0xd, 0x80, 0x9f⟩
  else if 0xe1 ≤ value ∧ value ≤ 0xef then some ⟨2, value - 0xe0, 0x80, 0xbf⟩
  else if value = 0xf0 then some ⟨3, 0, 0x90, 0xbf⟩
  else if 0xf1 ≤ value ∧ value ≤ 0xf3 then some ⟨3, value - 0xf0, 0x80, 0xbf⟩
  else if value = 0xf4 then some ⟨3, 4, 0x80, 0x8f⟩
  else none

/-- A sequence under way: how many bytes it still needs, the bits gathered, and the range of its next
byte. Nothing under way means that a character starts. -/
abbrev Pending := Option Lead

/-- Decodes bytes, given the sequence under way. -/
def decodeFrom : Pending → Bytes → List Char
  | none, [] => []
  | some _, [] => [CodePoint.replacement]
  | pending, byte :: rest =>
      let start :=
        if byte < 0x80 then Char.ofNat byte.toNat :: decodeFrom none rest
        else match lead? byte with
          | some lead => decodeFrom (some lead) rest
          | none => CodePoint.replacement :: decodeFrom none rest
      match pending with
      | none => start
      | some lead =>
          if lead.low ≤ byte && byte ≤ lead.high then
            let bits := lead.bits * 64 + (byte.toNat - 0x80)
            if lead.following ≤ 1 then Char.ofNat bits :: decodeFrom none rest
            else decodeFrom (some ⟨lead.following - 1, bits, 0x80, 0xbf⟩) rest
          else CodePoint.replacement :: start

/-- The text that bytes stand for. -/
def decodeUtf8 (bytes : Bytes) : String :=
  String.ofList (decodeFrom none bytes)

end WasmDeploy.Text
