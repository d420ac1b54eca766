/-
A captured call: its number, the six argument registers as texts of which each may be missing,
and the root of the address space it was made in.
-/
import SyscallDecode.Text.Numeral

namespace SyscallDecode

open SyscallDecode.Text

/-- How many registers carry arguments. -/
abbrev argumentRegisters : Nat := 6

/-- The argument registers as they were handed over, in argument order. -/
abbrev RegisterTexts := Fin argumentRegisters → Option String

namespace RegisterTexts

/-- The register of an argument; there is none past the sixth. -/
def at? (registers : RegisterTexts) (index : Nat) : Option String :=
  if h : index < argumentRegisters then registers ⟨index, h⟩ else none

/-- Registers from a list; those behind its end are missing. -/
def ofList (texts : List (Option String)) : RegisterTexts :=
  fun i => (texts[i.val]?).join

/-- The registers in order. -/
def toList (registers : RegisterTexts) : List (Option String) :=
  List.ofFn registers

end RegisterTexts

/-- A captured call. -/
structure Invocation where
  number : UInt64
  registers : RegisterTexts
  root : UInt64

/-- The machine registers at the entry of a call. -/
structure MachineRegisters where
  origRax : UInt64 := 0
  rax : UInt64 := 0
  rdi : UInt64 := 0
  rsi : UInt64 := 0
  rdx : UInt64 := 0
  rcx : UInt64 := 0
  r10 : UInt64 := 0
  r8 : UInt64 := 0
  r9 : UInt64 := 0

namespace Invocation

/-- A call with all six values known. -/
def ofValues (number : UInt64) (values : Fin argumentRegisters → UInt64) (root : UInt64) :
    Invocation where
  number := number
  registers := fun i => some (hex (values i).toNat)
  root := root

/-- The values of the argument registers. The fourth is r10, since the call instruction itself
overwrites rcx. -/
def argumentValues (m : MachineRegisters) : Fin argumentRegisters → UInt64
  | 0 => m.rdi
  | 1 => m.rsi
  | 2 => m.rdx
  | 3 => m.r10
  | 4 => m.r8
  | 5 => m.r9

/-- The call a machine is about to make. -/
def ofMachine (m : MachineRegisters) (root : UInt64) : Invocation :=
  ofValues m.origRax (argumentValues m) root

end Invocation

end SyscallDecode
