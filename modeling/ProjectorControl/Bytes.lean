import ProjectorControl.Text.Quoted

/-!
# Byte strings

Everything on the wire is a list of bytes.  In messages a byte string is written as two
lowercase hexadecimal digits per byte.  Reading accepts both cases of the digits, and
names the first character that is not a digit by its byte position.
-/

namespace ProjectorControl

/-- A string of bytes, first byte first. -/
abbrev Bytes := List UInt8

namespace Bytes

/-! ## Hexadecimal text -/

/-- The lowercase digit of a number below sixteen. -/
def hexDigit (n : Nat) : Char :=
  if n < 10 then Char.ofNat ('0'.toNat + n) else Char.ofNat ('a'.toNat + (n - 10))

/-- The two digits of a byte, the high half first. -/
def hexPair (b : UInt8) : List Char :=
  [hexDigit (b.toNat / 16), hexDigit (b.toNat % 16)]

/-- The hexadecimal text of a byte string, two lowercase digits per byte. -/
def hex (bs : Bytes) : String := String.ofList (bs.flatMap hexPair)

/-- The value of a hexadecimal digit, given as an ASCII byte of either case. -/
def hexValue? (b : UInt8) : Option UInt8 :=
  if 0x30 ≤ b ∧ b ≤ 0x39 then some (b - 0x30)
  else if 0x61 ≤ b ∧ b ≤ 0x66 then some (b - 0x61 + 10)
  else if 0x41 ≤ b ∧ b ≤ 0x46 then some (b - 0x41 + 10)
  else none

/-- Why a text is not hexadecimal. -/
inductive HexFault where
  /-- The number of digits is odd. -/
  | oddLength
  /-- The byte at a position is no digit. -/
  | notADigit (byte : UInt8) (position : Nat)
  deriving DecidableEq, Repr

/-- The wording of a fault.  An offending byte is shown as the character with its code. -/
def HexFault.message : HexFault → String
  | .oddLength => "Odd number of digits"
  | .notADigit byte position =>
    let shown := Text.quotedChar (Char.ofNat byte.toNat)
    s!"Invalid character {shown} at position {position}"

/-- Reads digits two at a time, counting positions from `position`. -/
def ofHexDigits (position : Nat) : Bytes → Except HexFault Bytes
  | [] => .ok []
  | [_] => .error .oddLength
  | high :: low :: rest =>
    match hexValue? high, hexValue? low with
    | none, _ => .error (.notADigit high position)
    | some _, none => .error (.notADigit low (position + 1))
    | some h, some l => (ofHexDigits (position + 2) rest).map ((h * 16 + l) :: ·)

/-- The bytes of a text in UTF-8. -/
def ofText (s : String) : Bytes := s.toUTF8.data.toList

/-- Reads a hexadecimal text.  An odd length is reported before any bad digit. -/
def ofHex (s : String) : Except HexFault Bytes :=
  let digits := ofText s
  if digits.length % 2 = 1 then .error .oddLength else ofHexDigits 0 digits

end Bytes

end ProjectorControl
