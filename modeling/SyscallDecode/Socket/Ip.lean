/-
The text of Internet addresses: four decimal bytes for version 4; for version 6 eight
hexadecimal groups of which the longest run of zeros is left out.
-/
import SyscallDecode.Text.Numeral

namespace SyscallDecode.Socket

open SyscallDecode.Text

/-- A version 4 address, one number per byte. -/
def ipv4Text (octets : List UInt8) : String :=
  ".".intercalate (octets.map fun b => toString b.toNat)

/-- The 16-bit groups of a byte sequence, high byte first. -/
def groups : List UInt8 → List Nat
  | hi :: lo :: rest => (hi.toNat * 256 + lo.toNat) :: groups rest
  | _ => []

/-- How many zeros a list starts with. -/
def leadingZeros (gs : List Nat) : Nat :=
  (gs.takeWhile (· == 0)).length

/-- The first of the longest runs of zeros, as its start and its length. -/
def longestZeroRun : List Nat → Nat × Nat
  | [] => (0, 0)
  | g :: gs =>
    let here := leadingZeros (g :: gs)
    let (start, length) := longestZeroRun gs
    if length ≤ here then (0, here) else (start + 1, length)

/-- Groups with colons between them. -/
def joinGroups (gs : List Nat) : String :=
  ":".intercalate (gs.map hex)

/-- A version 6 address. One that stands for a version 4 address ends in that one's text; else
the first longest run of at least two zero groups is written as two colons. -/
def ipv6Text (octets : List UInt8) : String :=
  let gs := groups octets
  if gs.take 6 = [0, 0, 0, 0, 0, 0xFFFF] then "::ffff:" ++ ipv4Text (octets.drop 12)
  else
    let (start, length) := longestZeroRun gs
    if length ≤ 1 then joinGroups gs
    else joinGroups (gs.take start) ++ "::" ++ joinGroups (gs.drop (start + length))

end SyscallDecode.Socket
