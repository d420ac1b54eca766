/-
Two views of raw bytes: pairs of hexadecimal digits, and the graphic characters among them.
-/

namespace SyscallDecode.Text

/-- The two digits of a byte, high half first. -/
def hexPair (b : UInt8) : List Char :=
  [Nat.digitChar (b.toNat / 16), Nat.digitChar (b.toNat % 16)]

/-- One pair per byte, one blank between pairs. -/
def hexDump (bytes : List UInt8) : String :=
  " ".intercalate (bytes.map fun b => String.ofList (hexPair b))

/-- A byte from the blank to the tilde. -/
def isGraphic (b : UInt8) : Bool :=
  0x20 ≤ b && b ≤ 0x7E

/-- The character of a graphic byte; a full stop for any other. -/
def graphicChar (b : UInt8) : Char :=
  if isGraphic b then Char.ofNat b.toNat else '.'

/-- One character per byte. -/
def graphicText (bytes : List UInt8) : String :=
  String.ofList (bytes.map graphicChar)

end SyscallDecode.Text
