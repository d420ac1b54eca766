/-
The target of a decoding: a machine of which three things can be asked, the meaning of a type
name, the bytes at an address of some address space, and the address of a symbol.
-/
import SyscallDecode.Failure
import SyscallDecode.CType.Catalogue

namespace SyscallDecode

/-- Where an address is looked up. User addresses belong to the root of a page-table hierarchy. -/
inductive AddressSpace
  | kernel
  | user (root : UInt64)
  deriving DecidableEq, Repr

/-- What can be asked of a target. A read gives all bytes it was asked for or none. -/
structure Target where
  /-- The layout of a type; fails with `Failure.badType` where none is known. -/
  typeNamed : String → Attempt CType
  /-- The bytes from an address on. -/
  read : AddressSpace → UInt64 → Nat → Attempt (List UInt8)
  /-- The address of a symbol. -/
  symbol : String → Attempt UInt64
  /-- A read that succeeds has the length it was asked for. -/
  read_length : ∀ {space address length bytes},
    read space address length = .ok bytes → bytes.length = length

/-- A target with the types of the catalogue, on which all bytes of a space are answered alike. -/
def Target.catalogued (byte : AddressSpace → Attempt UInt8) : Target where
  typeNamed := fun name => (CType.builtin? name).elim (.fail (.badType name)) .ok
  read := fun space _ length => (byte space).map (List.replicate length)
  symbol := fun name => .fail (.unknownSymbol name)
  read_length := by
    intro space _ length bytes h
    cases hb : byte space with
    | error stop => rw [hb] at h; cases h
    | ok b => rw [hb] at h; cases h; exact List.length_replicate

theorem Target.typeNamed_catalogued (byte : AddressSpace → Attempt UInt8) (name : String) :
    (catalogued byte).typeNamed name =
      (CType.builtin? name).elim (.fail (.badType name)) .ok := by
  simp only [catalogued]

end SyscallDecode
