/-
What can go wrong, in two kinds. A failure is an answer: it names a cause and is shown where the
value would have stood. An abort ends the whole decoding at once. Every question to the outside
world therefore has three outcomes: a value, a failure, an abort.
-/
import SyscallDecode.Text.Numeral
import SyscallDecode.Text.Quoted

namespace SyscallDecode

open SyscallDecode.Text

/-! ## Failures -/

/-- Why a value could not be had. -/
inductive Failure
  /-- No signature is known for the call number. -/
  | unknownCall (number : UInt64)
  /-- The register of an argument was not captured. -/
  | missingRegister (index : Nat)
  /-- The register of an argument is not a hexadecimal numeral. -/
  | malformedRegister (index : Nat) (text : String)
  /-- A type name without a layout, or a type that does not fit the request. -/
  | badType (description : String)
  /-- A byte of memory cannot be read. -/
  | unreadable (address : UInt64) (reason : String)
  /-- A chain of objects ends before the one asked for. -/
  | unresolved (reason : String)
  /-- A symbol without an address. -/
  | unknownSymbol (name : String)
  /-- The host system refused. -/
  | host (message : String)
  deriving DecidableEq, Repr

namespace Failure

/-- The failure in words. -/
def message : Failure → String
  | unknownCall number => "no signature known for syscall " ++ toString number.toNat
  | missingRegister index => "register for argument " ++ toString index ++ " was not supplied"
  | malformedRegister index text =>
    "register for argument " ++ toString index ++ " is not a hex value: " ++ quote text
  | badType description => "type \"" ++ description ++ "\" is unknown to the introspection engine"
  | unreadable address reason => "cannot read " ++ hexMarked address.toNat ++ ": " ++ reason
  | unresolved reason => reason
  | unknownSymbol name => "symbol \"" ++ name ++ "\" not found"
  | host message => message

/-- Unreadable memory may be explained by the layout of the address space. -/
def isUnreadable : Failure → Bool
  | unreadable _ _ => true
  | _ => false

end Failure

/-! ## Aborts -/

/-- The end of all decoding. -/
inductive Abort
  /-- With a reason in words. -/
  | because (reason : String)
  /-- Without one. -/
  | unexplained
  deriving DecidableEq, Repr

/-- The reason in words. -/
def Abort.message : Abort → String
  | because reason => reason
  | unexplained => "unknown failure"

/-! ## Attempts -/

/-- Why there is no value. -/
inductive Stop
  | failure (f : Failure)
  | abort (a : Abort)
  deriving DecidableEq, Repr

/-- The reason for a stop in words. -/
def Stop.message : Stop → String
  | failure f => f.message
  | abort a => a.message

/-- A value, a failure or an abort. -/
abbrev Attempt (α : Type) := Except Stop α

namespace Attempt

/-- An attempt that fails. -/
def fail {α : Type} (f : Failure) : Attempt α := .error (.failure f)

/-- An attempt that ends everything. -/
def abort {α : Type} (a : Abort) : Attempt α := .error (.abort a)

/-- Takes a failure as a result; an abort stays one. -/
def settle {α : Type} : Attempt α → Except Abort (Except Failure α)
  | .ok value => .ok (.ok value)
  | .error (.failure f) => .ok (.error f)
  | .error (.abort a) => .error a

/-- An attempt that can fail but not end everything. -/
def ofResult {α : Type} : Except Failure α → Attempt α
  | .ok value => .ok value
  | .error f => .fail f

/-- An attempt that can end everything but not fail. -/
def ofRun {α : Type} : Except Abort α → Attempt α
  | .ok value => .ok value
  | .error a => .abort a

@[simp] theorem settle_ok {α : Type} (value : α) :
    settle (.ok value) = .ok (.ok value) := rfl

@[simp] theorem settle_failure {α : Type} (f : Failure) :
    settle (.error (.failure f) : Attempt α) = .ok (.error f) := rfl

@[simp] theorem settle_abort {α : Type} (a : Abort) :
    settle (.error (.abort a) : Attempt α) = .error a := rfl

end Attempt

end SyscallDecode
