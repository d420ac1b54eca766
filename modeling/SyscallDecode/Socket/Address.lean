/-
Socket addresses: the family in the first two bytes decides how the rest is read. A family
without a reading of its own, or one with too few bytes for it, is shown as raw bytes.
-/
import SyscallDecode.Flags.Socket
import SyscallDecode.Inquiry.Memory
import SyscallDecode.Socket.Ip

namespace SyscallDecode.Socket

open SyscallDecode.Text

/-- More bytes than this are never read; no family has longer addresses. -/
def maxAddressLength : Nat := 128

/-- Part of a byte sequence as a number, highest byte first. -/
def bigField (data : List UInt8) (start length : Nat) : Nat :=
  bigEndian ((data.drop start).take length)

/-- Part of a byte sequence as a number, lowest byte first. -/
def littleField (data : List UInt8) (start length : Nat) : Nat :=
  littleEndian ((data.drop start).take length)

/-! ## Families -/

/-- Internet version 4: the address and the number of the service behind it. -/
def inetText (data : List UInt8) : String :=
  ipv4Text ((data.drop 2).take 4) ++ ":" ++ toString (bigField data 0 2)

/-- Internet version 6: as version 4, with the flow and the scope. -/
def inet6Text (data : List UInt8) : String :=
  "[" ++ ipv6Text ((data.drop 6).take 16) ++ "]:" ++ toString (bigField data 0 2) ++
    " flowinfo " ++ toString (bigField data 2 4) ++ " scope_id " ++
    toString (littleField data 22 4)

/-- A local name: none, one outside the file system, or a path. -/
def localText : List UInt8 → String
  | [] => "unnamed"
  | 0 :: rest => "@" ++ graphicText (beforeZero rest)
  | data => quote (graphicText (beforeZero data))

/-- A socket of the kernel's own message service: its number and its groups. -/
def netlinkText (data : List UInt8) : String :=
  "pid " ++ toString (littleField data 2 4) ++ " groups " ++ hexMarked (littleField data 6 4)

/-- The bytes behind the family in words. -/
def dataText (family : Nat) (data : List UInt8) : String :=
  if family = 2 ∧ 6 ≤ data.length then inetText data
  else if family = 10 ∧ 26 ≤ data.length then inet6Text data
  else if family = 1 then localText data
  else if family = 16 ∧ 10 ≤ data.length then netlinkText data
  else "data: " ++ hexDump data

/-- The family of an address. -/
def familyOf (bytes : List UInt8) : Nat :=
  littleField bytes 0 2

/-- A whole address in words. -/
def addressText (bytes : List UInt8) : String :=
  Flags.family (UInt64.ofNat (familyOf bytes)) ++ " " ++
    dataText (familyOf bytes) (bytes.drop 2)

/-! ## Reading -/

/-- The address of `length` bytes in memory. -/
def addressAt (space : AddressSpace) (address : UInt64) (length : Nat) : Reading String :=
  if length < 2 then
    return "length " ++ toString length ++ " is shorter than the address family"
  else do
    let bytes ← Reading.bytes space address (min length maxAddressLength)
    let text := addressText bytes
    if maxAddressLength < length then
      return text ++ " (length " ++ toString length ++ " clamped to " ++
        toString maxAddressLength ++ ")"
    else return text

/-- The address of `length` bytes in the memory of a target. -/
def readAddress (t : Target) (space : AddressSpace) (address : UInt64) (length : Nat) :
    Attempt String :=
  (addressAt space address length).on t.world

end SyscallDecode.Socket
