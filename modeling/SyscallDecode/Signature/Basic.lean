/-
Signatures of system calls: the C prototype of each argument, and what the argument means beyond
its type.
-/
import SyscallDecode.CType.Name

namespace SyscallDecode

/-! ## Prototypes -/

/-- Which way data goes through a pointer. -/
inductive Direction
  /-- The kernel reads what the caller filled in. -/
  | read
  /-- The kernel fills it in. -/
  | write
  | unspecified
  deriving DecidableEq, Repr

namespace Direction

/-- The annotation of a pointer into user memory. -/
def annotation : Direction → String
  | read | write => "__user"
  | unspecified => ""

end Direction

/-- A parameter of a C prototype: a value, or a pointer with its direction. The type is what the
pointer points at. -/
structure Param where
  type : String
  name : String
  pointer : Option Direction := none
  deriving DecidableEq, Repr

namespace Param

/-- Whether the parameter is a pointer. -/
def isPointer (p : Param) : Bool :=
  p.pointer.isSome

end Param

/-! ## Meaning -/

/-- Which property of a socket a value chooses. -/
inductive SocketChoice
  | family
  | type
  | protocol
  deriving DecidableEq, Repr

/-- Where the length of a socket address stands. -/
inductive AddressLength
  /-- In the register of the argument with this index. -/
  | inRegister (index : Nat)
  /-- In memory, at the address in the register of the argument with this index. -/
  | inMemory (index : Nat)
  | absent
  deriving DecidableEq, Repr

/-- What an argument means beyond its C type. -/
inductive Role
  | plain
  | descriptor
  | mapFlags
  | protection
  | messageFlags
  /-- The file behind a mapping: its descriptor and the offset into it. -/
  | mapBacking
  | socketChoice (choice : SocketChoice)
  | path
  /-- Bytes, as many as the argument with this index says. -/
  | buffer (lengthIndex : Nat)
  | stringArray
  | socketAddress (length : AddressLength)
  | messageHeader
  deriving DecidableEq, Repr

namespace Role

/-- Roles of pointers to something. -/
def isForPointer : Role → Bool
  | path | buffer _ | stringArray | socketAddress _ | messageHeader => true
  | _ => false

/-- Roles of values with a meaning of their own. -/
def isForValue : Role → Bool
  | descriptor | mapFlags | protection | messageFlags | mapBacking | socketChoice _ => true
  | _ => false

end Role

/-! ## Arguments -/

/-- A declared argument of a call. -/
structure Argument where
  index : Nat
  name : String
  type : String
  isPointer : Bool
  direction : Direction
  role : Role := .plain
  deriving DecidableEq, Repr

namespace Argument

/-- The name an argument is shown under. -/
def displayName (a : Argument) : String :=
  if a.name.isEmpty then "unknown" else a.name

/-- The C type of a pointer argument. -/
def pointerType (a : Argument) : String :=
  match a.direction.annotation with
  | "" => a.type ++ " *"
  | annotation => a.type ++ " " ++ annotation ++ " *"

/-- The argument as it reads in a C prototype. -/
def prototype (a : Argument) : String :=
  if a.isPointer then a.pointerType ++ a.name else a.type ++ " " ++ a.name

end Argument

/-! ## Calls -/

/-- The signature of a call. -/
structure Signature where
  number : Nat
  name : String
  returns : String
  arguments : List Argument
  deriving DecidableEq, Repr

namespace Signature

/-- The C prototype of the call. -/
def prototype (s : Signature) : String :=
  let arguments :=
    match s.arguments with
    | [] => "void"
    | arguments => ", ".intercalate (arguments.map Argument.prototype)
  s.returns ++ " sys_" ++ s.name ++ "(" ++ arguments ++ ")"

/-- Calls that change the layout of the address space. -/
def changesMappings (s : Signature) : Bool :=
  ["mmap", "munmap", "mremap", "remap_file_pages"].contains s.name

end Signature

end SyscallDecode
