/-
Register values on their way through texts. A captured call holds its registers as texts, whoever
captured it; what is bound to the arguments, and what an argument finds in the register of another,
is the value that was there before.
-/
import SyscallDecode.Decode.Overlay
import SyscallDecode.Proofs.Signature.Roles
import SyscallDecode.Proofs.Text.Numeral

namespace SyscallDecode

open SyscallDecode.Text

/-- A value reads back from its text. -/
theorem readRegister_hex (index : Nat) (value : UInt64) :
    readRegister index (some (hex value.toNat)) = .ok value := by
  unfold readRegister hex
  simp only [String.toList_ofList, trim_toDigits, readHexWord_toDigits]

namespace Invocation

/-- The value of a register by its index, among values of which some are not known. There is none
past the sixth. -/
def valueAt (values : Fin argumentRegisters → Option UInt64) (index : Nat) :
    Except Failure UInt64 :=
  if h : index < argumentRegisters then
    match values ⟨index, h⟩ with
    | some value => .ok value
    | none => .error (.missingRegister index)
  else .error (.missingRegister index)

/-- The call carries these values: every declared argument is paired with the value of its own
index, and an argument that looks for the register of another finds the value of that one. A value
that is not known is a missing register of its index, and so is one past the sixth. -/
structure Carries (call : Invocation) (values : Fin argumentRegisters → Option UInt64) : Prop where
  bound : ∀ {number : UInt64} {s : Signature}, Signature.find? number = some s →
    call.bind s = s.arguments.mapIdx fun i a => (a, valueAt values i)
  sibling : ∀ (index : Nat) (w : World),
    (Overlay.sibling call index).on w = Attempt.ofResult (valueAt values index)

variable {call : Invocation} {values : Fin argumentRegisters → Option UInt64}

/-- Registers written as numerals have the values they were written from. -/
theorem register_of_texts
    (texts : ∀ i, call.registers i = (values i).map fun value => hex value.toNat) (index : Nat) :
    call.register index = valueAt values index := by
  unfold register RegisterTexts.at? valueAt
  split
  · next inside =>
    rw [texts]
    cases values ⟨index, inside⟩ with
    | none => rfl
    | some value => exact readRegister_hex index value
  · rfl

theorem carries_of_texts
    (texts : ∀ i, call.registers i = (values i).map fun value => hex value.toNat) :
    call.Carries values where
  bound := by
    intro number s known
    have sound := Signature.sound_of_find? known
    apply List.ext_getElem?
    intro i
    rw [call.getElem?_bind sound, List.getElem?_mapIdx, register_of_texts texts]
  sibling := by
    intro index w
    unfold Overlay.sibling
    rw [Course.on_ofResult, register_of_texts texts]

theorem carries_ofValues (number : UInt64) (values : Fin argumentRegisters → UInt64)
    (root : UInt64) : (ofValues number values root).Carries fun i => some (values i) :=
  carries_of_texts fun _ => rfl

/-- The registers of a machine that carry arguments, in argument order. -/
def machineOrder (m : MachineRegisters) : List UInt64 :=
  [m.rdi, m.rsi, m.rdx, m.r10, m.r8, m.r9]

theorem argumentValues_eq (m : MachineRegisters) (i : Fin argumentRegisters) :
    some (argumentValues m i) = (machineOrder m)[i.val]? := by
  revert i
  exact fun | 0 | 1 | 2 | 3 | 4 | 5 => rfl

theorem carries_ofMachine (m : MachineRegisters) (root : UInt64) :
    (ofMachine m root).Carries fun i => (machineOrder m)[i.val]? := by
  have carries := carries_ofValues m.origRax (argumentValues m) root
  simp only [argumentValues_eq] at carries
  exact carries

end Invocation

end SyscallDecode
