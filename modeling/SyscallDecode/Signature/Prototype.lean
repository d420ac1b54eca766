/-
Prototypes: the C declarations that signatures are made from, and short forms to write them down.
-/
import SyscallDecode.Signature.Role

namespace SyscallDecode

/-- The declaration of a call. -/
structure Prototype where
  number : Nat
  name : String
  returns : String
  params : List Param
  deriving DecidableEq, Repr

namespace Prototype

/-! ## Short forms -/

/-- A parameter passed by value. -/
def arg (type name : String) : Param := ⟨type, name, none⟩

/-- A pointer through which the kernel reads. -/
def input (type name : String) : Param := ⟨type, name, some .read⟩

/-- A pointer through which the kernel writes. -/
def output (type name : String) : Param := ⟨type, name, some .write⟩

/-- A call that returns a value of a type of its own. -/
def callReturning (returns : String) (number : Nat) (name : String) (params : List Param) :
    Prototype :=
  ⟨number, name, returns, params⟩

/-- A call with the usual type of result. -/
def call (number : Nat) (name : String) (params : List Param) : Prototype :=
  callReturning "long" number name params

/-! ## Signatures -/

/-- One argument of the call. -/
def argument (p : Prototype) (index : Nat) (param : Param) : Argument where
  index := index
  name := param.name
  type := param.type
  isPointer := param.isPointer
  direction := param.pointer.getD .unspecified
  role := Role.classify p.name p.params index

/-- The signature of the call. -/
def signature (p : Prototype) : Signature where
  number := p.number
  name := p.name
  returns := p.returns
  arguments := p.params.mapIdx p.argument

end Prototype

end SyscallDecode
