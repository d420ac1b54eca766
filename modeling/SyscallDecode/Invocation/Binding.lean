/-
Reading the registers of a captured call, and pairing them with the declared arguments.
-/
import SyscallDecode.Failure
import SyscallDecode.Invocation.Basic
import SyscallDecode.Signature.Basic
import SyscallDecode.Text.Blank

namespace SyscallDecode

open SyscallDecode.Text

/-- The value of a register text: a hexadecimal word with an optional mark, white space around it
allowed. -/
def readRegister (index : Nat) : Option String → Except Failure UInt64
  | none => .error (.missingRegister index)
  | some text =>
    match readHexWord (trim text.toList) with
    | .ok value => .ok value
    | .error _ => .error (.malformedRegister index text)

namespace Invocation

/-- The value of the register of an argument. -/
def register (call : Invocation) (index : Nat) : Except Failure UInt64 :=
  readRegister index (call.registers.at? index)

/-- Every declared argument with the register that carries it, in order. Registers behind the
last argument are not looked at. -/
def bind (call : Invocation) (signature : Signature) :
    List (Argument × Except Failure UInt64) :=
  (signature.arguments.take argumentRegisters).map fun a => (a, call.register a.index)

end Invocation

end SyscallDecode
