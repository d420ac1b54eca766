/-
The table of all known signatures, and looking a call up by its number.
-/
import SyscallDecode.Signature.Table.Files
import SyscallDecode.Signature.Table.Ipc
import SyscallDecode.Signature.Table.Memory
import SyscallDecode.Signature.Table.Network
import SyscallDecode.Signature.Table.Process
import SyscallDecode.Signature.Table.Signals
import SyscallDecode.Signature.Table.System
import SyscallDecode.Signature.Table.Time

namespace SyscallDecode

/-- Every call with a prototype. -/
def Prototype.all : List Prototype :=
  fileCalls ++ memoryCalls ++ networkCalls ++ processCalls ++ signalCalls ++ ipcCalls ++
    timeCalls ++ systemCalls

/-- The signature of a call number. -/
def Signature.find? (number : UInt64) : Option Signature :=
  (Prototype.all.find? fun p => p.number == number.toNat).map Prototype.signature

/-- A signature that is found comes from a prototype of that number. -/
theorem Signature.find?_eq_some {number : UInt64} {s : Signature}
    (h : Signature.find? number = some s) :
    ∃ p ∈ Prototype.all, p.number = number.toNat ∧ s = p.signature := by
  unfold Signature.find? at h
  obtain ⟨p, hp, rfl⟩ := Option.map_eq_some_iff.1 h
  exact ⟨p, List.mem_of_find?_eq_some hp, by simpa using List.find?_some hp, rfl⟩

end SyscallDecode
