/-
The live process under a tracer as a target. Only its own pages can be read, in one transfer that
stops at the first page that is not mapped; such a partial transfer is a failure too.
-/
import SyscallDecode.CType.Catalogue
import SyscallDecode.Target.Basic

namespace SyscallDecode

/-- The pages of a process: which page numbers are mapped, and the bytes in them. -/
structure MappedPages where
  isMapped : UInt64 → Bool
  byte : UInt64 → UInt8

namespace MappedPages

/-- The bytes of a page. -/
def pageSize : UInt64 := 4096

/-- The byte at an address, if its page is mapped. -/
def cell? (p : MappedPages) (address : UInt64) : Option UInt8 :=
  if p.isMapped (address / pageSize) then some (p.byte address) else none

/-- What a transfer copies: the bytes before the first one that is not mapped. -/
def transfer (p : MappedPages) : UInt64 → Nat → List UInt8
  | _, 0 => []
  | address, length + 1 =>
    match p.cell? address with
    | some byte => byte :: p.transfer (address + 1) length
    | none => []

/-- A read through the tracer. -/
def read (p : MappedPages) (space : AddressSpace) (address : UInt64) (length : Nat) :
    Attempt (List UInt8) :=
  match space with
  | .kernel =>
    .fail (.unreadable address "kernel memory is not visible from a traced process")
  | .user _ =>
    let bytes := p.transfer address length
    let got := bytes.length
    if got = length then .ok bytes
    else if got = 0 then .fail (.unreadable address "Bad address")
    else
      .fail (.unreadable (address + UInt64.ofNat got)
        ("short read (" ++ toString got ++ " of " ++ toString length ++ " bytes)"))

theorem read_length {p : MappedPages} {space : AddressSpace} {address : UInt64} {length : Nat}
    {bytes : List UInt8} (h : p.read space address length = .ok bytes) :
    bytes.length = length := by
  unfold read at h
  cases space with
  | kernel => cases h
  | user root =>
    simp only at h
    split at h
    · next hl => cases h; exact hl
    · split at h <;> cases h

/-- The traced process as a target: it knows the types of the catalogue and no symbols. -/
def target (p : MappedPages) : Target where
  typeNamed := fun name =>
    match CType.builtin? name with
    | some type => .ok type
    | none => .fail (.badType name)
  read := p.read
  symbol := fun name => .fail (.unknownSymbol name)
  read_length := p.read_length

/-! ## Pages from contents -/

/-- A piece of memory that starts at an address. -/
structure Piece where
  start : UInt64
  length : Nat
  pattern : Array UInt8

namespace Piece

/-- Whether an address lies in the piece. -/
def contains (piece : Piece) (address : UInt64) : Bool :=
  piece.start ≤ address && (address - piece.start).toNat < piece.length

/-- Whether the piece lies in part on a page. -/
def touches (piece : Piece) (page : UInt64) : Bool :=
  piece.length != 0 && piece.start / pageSize ≤ page &&
    page ≤ (piece.start + UInt64.ofNat (piece.length - 1)) / pageSize

end Piece

/-- Every page that a piece touches is mapped and zero where no piece lies; of two pieces at one
address the first counts. -/
def ofPieces (pieces : List Piece) : MappedPages where
  isMapped := fun page => pieces.any fun piece => piece.touches page
  byte := fun address =>
    match pieces.find? fun piece => piece.contains address with
    | some piece => piece.pattern.getD ((address - piece.start).toNat % piece.pattern.size) 0
    | none => 0

end MappedPages

end SyscallDecode
