/-
Targets with byte-addressed memory: every address of every space either holds a byte or gives the
reason why not. A snapshot is such a target made of recorded regions, types and symbols.
-/
import SyscallDecode.CType.Catalogue
import SyscallDecode.Target.Basic

namespace SyscallDecode

/-! ## Byte-addressed memory -/

/-- The byte at every address, or why there is none. -/
abbrev Cells := AddressSpace → UInt64 → Attempt UInt8

namespace Cells

/-- The bytes of consecutive addresses, around the end of the space. -/
def readFrom (cell : UInt64 → Attempt UInt8) : UInt64 → Nat → Attempt (List UInt8)
  | _, 0 => .ok []
  | address, length + 1 => do
    let byte ← cell address
    let rest ← readFrom cell (address + 1) length
    return byte :: rest

/-- The same bytes, gathered in reverse behind those of `acc`. -/
def gather (cell : UInt64 → Attempt UInt8) (acc : List UInt8) :
    UInt64 → Nat → Attempt (List UInt8)
  | _, 0 => .ok acc.reverse
  | address, length + 1 =>
    match cell address with
    | .ok byte => gather cell (byte :: acc) (address + 1) length
    | .error stop => .error stop

theorem gather_eq (cell : UInt64 → Attempt UInt8) (acc : List UInt8) (address : UInt64)
    (length : Nat) :
    gather cell acc address length = (readFrom cell address length).map (acc.reverse ++ ·) := by
  induction length generalizing acc address with
  | zero => simp [gather, readFrom, Except.map]
  | succ length ih =>
    cases h : cell address with
    | error stop => simp [gather, readFrom, h, Except.map, bind, Except.bind]
    | ok byte =>
      simp only [gather, readFrom, h, ih, bind, Except.bind]
      cases readFrom cell (address + 1) length <;> simp [Except.map, pure, Except.pure]

theorem gather_nil (cell : UInt64 → Attempt UInt8) (address : UInt64) (length : Nat) :
    gather cell [] address length = readFrom cell address length := by
  rw [gather_eq]
  cases readFrom cell address length <;> simp [Except.map]

theorem readFrom_length {cell : UInt64 → Attempt UInt8} {address : UInt64} {length : Nat}
    {bytes : List UInt8} (h : readFrom cell address length = .ok bytes) :
    bytes.length = length := by
  induction length generalizing address bytes with
  | zero => cases h; rfl
  | succ length ih =>
    cases hc : cell address with
    | error stop => simp [readFrom, hc, bind, Except.bind] at h
    | ok byte =>
      cases hr : readFrom cell (address + 1) length with
      | error stop => simp [readFrom, hc, hr, bind, Except.bind] at h
      | ok rest =>
        simp only [readFrom, hc, hr, bind, Except.bind, pure, Except.pure, Except.ok.injEq] at h
        subst h
        simp [ih hr]

/-- The target with this memory, the given types and the given symbols. -/
def target (cells : Cells) (typeNamed : String → Attempt CType)
    (symbol : String → Attempt UInt64) : Target where
  typeNamed := typeNamed
  read := fun space address length => gather (cells space) [] address length
  symbol := symbol
  read_length := by
    intro space address length bytes h
    rw [gather_nil] at h
    exact readFrom_length h

end Cells

/-- The types of the catalogue; the failure names the normal form. -/
def catalogueTypes (name : String) : Attempt CType :=
  match CType.builtin? name with
  | some type => .ok type
  | none => .fail (.badType (CType.normalizeName name))

/-! ## Snapshots -/

/-- What a region holds. -/
inductive Content
  /-- The given bytes, over and over. -/
  | bytes (pattern : Array UInt8)
  /-- No bytes; the cause may depend on the address asked for. -/
  | broken (cause : UInt64 → Stop)

/-- A recorded piece of memory; it ends before the top of the space. -/
structure Region where
  space : AddressSpace
  start : UInt64
  length : Nat
  content : Content

namespace Region

/-- Whether an address lies in the region. -/
def contains (r : Region) (space : AddressSpace) (address : UInt64) : Bool :=
  r.space == space && r.start ≤ address && (address - r.start).toNat < r.length

/-- The byte at an address of the region. -/
def cell (r : Region) (address : UInt64) : Attempt UInt8 :=
  match r.content with
  | .bytes pattern => .ok (pattern.getD ((address - r.start).toNat % pattern.size) 0)
  | .broken cause => .error (cause address)

end Region

/-- A recorded target. The first entry of each list that fits counts, so that a later recording
is put in front. -/
structure Snapshot where
  regions : List Region := []
  /-- Types by the normal form of their name. -/
  types : List (String × CType) := []
  /-- Normal forms of names that are not known, whatever the other lists say of them. -/
  hidden : List String := []
  /-- Normal forms of names that cannot be looked up. -/
  typeFaults : List (String × Stop) := []
  symbols : List (String × UInt64) := []

namespace Snapshot

/-- The memory of the snapshot. -/
def cells (s : Snapshot) : Cells := fun space address =>
  match s.regions.find? fun r => r.contains space address with
  | some r => r.cell address
  | none => .fail (.unreadable address "page not present")

/-- The types of the snapshot, on top of the catalogue. -/
def typeNamed (s : Snapshot) (name : String) : Attempt CType :=
  let normal := CType.normalizeName name
  match s.typeFaults.lookup normal with
  | some stop => .error stop
  | none =>
    if s.hidden.contains normal then .fail (.badType normal)
    else
      match s.types.lookup normal with
      | some type => .ok type
      | none => catalogueTypes normal

/-- The symbols of the snapshot. -/
def symbol (s : Snapshot) (name : String) : Attempt UInt64 :=
  match s.symbols.lookup name with
  | some address => .ok address
  | none => .fail (.unknownSymbol name)

/-- The snapshot as a target. -/
def target (s : Snapshot) : Target :=
  s.cells.target s.typeNamed s.symbol

/-! ## Recording -/

/-- Adds a region. -/
def addRegion (s : Snapshot) (r : Region) : Snapshot :=
  { s with regions := r :: s.regions }

/-- Adds a type under its own name. -/
def addType (s : Snapshot) (type : CType) : Snapshot :=
  { s with types := (CType.normalizeName type.name, type) :: s.types }

/-- Makes a type name unknown. -/
def hideType (s : Snapshot) (name : String) : Snapshot :=
  { s with hidden := CType.normalizeName name :: s.hidden }

/-- Gives a symbol an address, or takes it away. -/
def setSymbol (s : Snapshot) (name : String) (address : Option UInt64) : Snapshot :=
  let others := s.symbols.filter fun entry => entry.1 != name
  { s with symbols := (address.map fun a => (name, a)).toList ++ others }

end Snapshot

end SyscallDecode
