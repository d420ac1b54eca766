/-
C types as they lie in memory: scalars, arrays, structs with the offset of each member, and types
of which only the size is known. Sizes and offsets are natural numbers, and layouts are assumed to
fit: a value can be held in memory, and no member and no element ends beyond 64 bits.
-/

namespace SyscallDecode

/-- How the bytes of a scalar are read. -/
inductive ScalarKind
  | signed
  | unsigned
  | char
  | pointer
  deriving DecidableEq, Repr

mutual

/-- A type with its name and its size in bytes. -/
inductive CType
  | scalar (name : String) (size : Nat) (kind : ScalarKind)
  | array (name : String) (size : Nat) (element : CType) (length : Nat)
  | struct (name : String) (size : Nat) (members : List Member)
  /-- Known size, unknown layout. -/
  | blob (name : String) (size : Nat)

/-- A member of a struct. -/
inductive Member
  | mk (name : String) (offset : Nat) (type : CType)

end

namespace CType

/-- The name of the type. -/
def name : CType → String
  | scalar name _ _ => name
  | array name _ _ _ => name
  | struct name _ _ => name
  | blob name _ => name

/-- The bytes a value takes. -/
def size : CType → Nat
  | scalar _ size _ => size
  | array _ size _ _ => size
  | struct _ size _ => size
  | blob _ size => size

/-- A value that fits one machine word. -/
def isScalar : CType → Bool
  | scalar _ size _ => size ≤ 8
  | _ => false

/-- A single character. -/
def isChar : CType → Bool
  | scalar _ _ .char => true
  | _ => false

end CType

namespace Member

/-- The name of the member. -/
def name : Member → String
  | mk name _ _ => name

/-- Where the member starts, counted from the start of the struct. -/
def offset : Member → Nat
  | mk _ offset _ => offset

/-- The type of the member. -/
def type : Member → CType
  | mk _ _ type => type

end Member

end SyscallDecode
