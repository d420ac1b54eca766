/-
Message headers: the address, the data pieces and the control data of a message. Only the header
itself has to be readable; what it points at may be missing in parts. A message is put together in
one way, whether its gaps are kept beside its lines or in a flag of the caller's.
-/
import SyscallDecode.Inquiry.Flagged
import SyscallDecode.Socket.Address

namespace SyscallDecode.Socket

open SyscallDecode.Text

/-- The fixed part of a message. -/
structure MessageHeader where
  name : UInt64
  nameLength : UInt64
  pieces : UInt64
  pieceCount : UInt64
  control : UInt64
  controlLength : UInt64
  flags : UInt64
  deriving DecidableEq, Repr

/-- No more data pieces than this are shown. -/
def maxPieces : Nat := 8

/-- No more bytes of a piece than this are shown. -/
def previewLength : Nat := 64

/-- The distance between two pieces in memory. -/
def pieceSize : Nat := 16

/-- The header at an address, member by member, given how pointers and numbers are had. -/
def headerBy {m : Type → Type 1} [Monad m] (pointer : UInt64 → m UInt64)
    (number : UInt64 → Nat → m UInt64) (address : UInt64) : m MessageHeader := do
  let name ← pointer address
  let nameLength ← number (address + 8) 4
  let pieces ← pointer (address + 16)
  let pieceCount ← number (address + 24) 8
  let control ← pointer (address + 32)
  let controlLength ← number (address + 40) 8
  let flags ← number (address + 48) 4
  return { name, nameLength, pieces, pieceCount, control, controlLength, flags }

variable (space : AddressSpace)

/-- The header at an address. -/
def headerAt (address : UInt64) : Reading MessageHeader :=
  headerBy (Reading.pointer space) (Reading.unsigned space) address

/-- The header at an address, read under a flag. -/
def flaggedHeader (address : UInt64) : Flagged MessageHeader :=
  headerBy (fun address => Flagged.reading (Reading.pointer space address))
    (fun address size => Flagged.reading (Reading.unsigned space address size)) address

/-! ## What the header points at -/

/-- The text of a reading, or the reason for its failure, which is a gap. -/
def orGap (reading : Reading String) : Telling (Noted String) := do
  match ← reading.settle with
  | .ok text => return ⟨text, false⟩
  | .error failure => return ⟨"cannot dereference: " ++ failure.message, true⟩

/-- The bytes of a piece that are shown. Nothing is read through a null base. -/
def previewAt (base : UInt64) (length : Nat) : Reading (List UInt8) :=
  if base = 0 then return List.replicate length 0 else Reading.bytes space base length

/-- One piece: its base, its length and its first bytes. -/
def pieceAt (entry : UInt64) : Reading String := do
  let base ← Reading.pointer space entry
  let length ← Reading.unsigned space (entry + 8) 8
  let preview ← previewAt space base (min length.toNat previewLength)
  return "base " ++ hexMarked base.toNat ++ " len " ++ toString length.toNat ++ " hex: " ++
    hexDump preview ++ " string: " ++ quote (graphicText preview) ++
    (if previewLength < length.toNat then " ..." else "")

/-- The address in words. -/
def nameText (h : MessageHeader) : Telling (Noted String) :=
  if h.name = 0 then return ⟨"NULL", false⟩
  else do
    let mark := hexMarked h.name.toNat
    match ← (addressAt space h.name h.nameLength.toNat).settle with
    | .ok text => return ⟨mark ++ " -> " ++ text, false⟩
    | .error failure => return ⟨mark ++ " cannot dereference: " ++ failure.message, true⟩

/-- The line of the address. -/
def nameLine (h : MessageHeader) : Telling (Noted String) := do
  let name ← nameText space h
  return name.map fun text =>
    "msg_name: " ++ text ++ " (namelen " ++ toString h.nameLength.toNat ++ ")"

/-- The line of one piece. -/
def pieceLine (h : MessageHeader) (index : Nat) : Telling (Noted String) := do
  let text ← orGap (pieceAt space (h.pieces + UInt64.ofNat (index * pieceSize)))
  return text.map fun text => "\t[" ++ toString index ++ "] " ++ text

/-! ## Messages -/

section Lines

variable {m : Type → Type 1} [Monad m] {Line : Type} (tell : Telling (Noted String) → m Line)
  (known : String → Line)

/-- The lines of the pieces with these indices. -/
def shownPieces (h : MessageHeader) : List Nat → m (List Line)
  | [] => return []
  | index :: rest => do
    let line ← tell (pieceLine space h index)
    let lines ← shownPieces h rest
    return line :: lines

/-- The lines of all pieces. -/
def pieceLines (h : MessageHeader) : m (List Line) :=
  if h.pieces = 0 then return []
  else do
    let count := h.pieceCount.toNat
    let shown ← shownPieces space tell h (List.range (min count maxPieces))
    if maxPieces < count then
      return shown ++ [known ("\t... " ++ toString (count - maxPieces) ++ " more")]
    else return shown

/-- All lines of a message, given how a line is told and how one is had that is known. -/
def messageLines (h : MessageHeader) : m (List Line) := do
  let name ← tell (nameLine space h)
  let pieces ← pieceLines space tell known h
  let head := "msg_iov: " ++ hexMarked h.pieces.toNat ++ " msg_iovlen: " ++
    toString h.pieceCount.toNat
  let control := "msg_control: " ++ hexMarked h.control.toNat ++ " msg_controllen: " ++
    toString h.controlLength.toNat
  let flags := "msg_flags: " ++ Flags.messageFlags h.flags
  return [name, known head] ++ pieces ++ [known control, known flags]

end Lines

/-- All lines of a message with their gaps beside them. -/
def notedLines (h : MessageHeader) : Telling (List (Noted String)) :=
  messageLines space id Noted.plain h

/-- All lines of a message with their gaps in a flag. -/
def flaggedLines (h : MessageHeader) : Flagged (List String) :=
  messageLines space Flagged.noting id h

/-- The message at an address in words. -/
def messageAt (address : UInt64) : Reading (Noted String) := do
  let header ← headerAt space address
  let lines ← Reading.ofTelling (notedLines space header)
  return (Noted.all lines).map "\n".intercalate

/-- The message at an address in words, its gaps in a flag. -/
def flaggedMessage (address : UInt64) : Flagged String := do
  let header ← flaggedHeader space address
  let lines ← flaggedLines space header
  return "\n".intercalate lines

/-- The message in the memory of a target in words. -/
def readMessage (t : Target) (space : AddressSpace) (address : UInt64) : Attempt (Noted String) :=
  (messageAt space address).on t.world

/-- The message in the memory of a target in words, and the flag by then: raised if it was before,
or if something stands for memory that could not be read. -/
def readMessageUnder (t : Target) (space : AddressSpace) (address : UInt64) (flag : Bool) :
    Attempt String × Bool :=
  (flaggedMessage space address).runFrom t.world flag

end SyscallDecode.Socket
