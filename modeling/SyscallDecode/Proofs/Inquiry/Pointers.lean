/-
Arrays of pointers in memory. An array is walked slot by slot, up to the first null pointer, to the
limit, or to the first slot that cannot be read; every memory is one of these for it, also around
the end of the space.
-/
import SyscallDecode.Proofs.CType.WordBuffer
import SyscallDecode.Proofs.Inquiry.Strings
import SyscallDecode.Target.Cursor

namespace SyscallDecode

/-! ## Slots -/

/-- The address of a slot, around the end of the space. -/
def slotAt (address : UInt64) (i : Nat) : UInt64 :=
  address + UInt64.ofNat (8 * i)

theorem slotAt_zero (address : UInt64) : slotAt address 0 = address :=
  offset_zero address

theorem slotAt_succ (address : UInt64) (i : Nat) :
    slotAt address (i + 1) = slotAt (address + 8) i := by
  unfold slotAt
  rw [Nat.mul_succ, UInt64.ofNat_add, UInt64.add_comm (UInt64.ofNat (8 * i)), ← UInt64.add_assoc]
  rfl

namespace Target

variable {t : Target} {space : AddressSpace} {address pointer : UInt64} {limit : Nat}
  {pointers : List UInt64}

/-- Memory holds this pointer, its lowest byte first. -/
def HoldsPointer (t : Target) (space : AddressSpace) (address pointer : UInt64) : Prop :=
  ∃ bytes, t.read space address 8 = .ok bytes ∧ littleEndian bytes = pointer.toNat

/-- A slot that can be read holds a pointer. -/
theorem holdsPointer_or_lost (t : Target) (space : AddressSpace) (address : UInt64) :
    (∃ pointer, t.HoldsPointer space address pointer) ∨
      ∃ stop, t.read space address 8 = .error stop := by
  cases read : t.read space address 8 with
  | error stop => exact .inr ⟨stop, rfl⟩
  | ok bytes =>
    have small := littleEndian_lt bytes
    rw [t.read_length read] at small
    exact .inl ⟨UInt64.ofNat (littleEndian bytes), bytes, read, (Nat.mod_eq_of_lt small).symm⟩

theorem HoldsPointer.word (h : t.HoldsPointer space address pointer) :
    ∃ bytes, t.read space address 8 = .ok bytes ∧ scalarValue bytes = pointer := by
  obtain ⟨bytes, read, value⟩ := h
  refine ⟨bytes, read, ?_⟩
  rw [← UInt64.toNat_inj, toNat_scalarValue (Nat.le_of_eq (t.read_length read)), value]

/-- Memory holds one pointer at an address. -/
theorem HoldsPointer.unique {pointer' : UInt64} (h : t.HoldsPointer space address pointer)
    (h' : t.HoldsPointer space address pointer') : pointer = pointer' := by
  obtain ⟨bytes, read, value⟩ := h
  obtain ⟨bytes', read', value'⟩ := h'
  cases read.symm.trans read'
  exact UInt64.toNat_inj.1 (value.symm.trans value')

/-! ## Arrays -/

/-- Memory holds these pointers one after the other; none is null. -/
def HoldsPointers (t : Target) (space : AddressSpace) (address : UInt64)
    (pointers : List UInt64) : Prop :=
  ∀ (i : Nat) (p : UInt64), pointers[i]? = some p →
    p ≠ 0 ∧ t.HoldsPointer space (slotAt address i) p

/-- So many slots of an array hold pointers that are not null. -/
def NonNull (t : Target) (space : AddressSpace) (address : UInt64) (count : Nat) : Prop :=
  ∀ j < count, ∃ p, p ≠ 0 ∧ t.HoldsPointer space (slotAt address j) p

theorem HoldsPointers.nonNull (h : t.HoldsPointers space address pointers) :
    t.NonNull space address pointers.length :=
  fun j inside => ⟨pointers[j], h j _ (List.getElem?_eq_getElem inside)⟩

/-- These are the pointers before the first null of an array of `limit` slots, which may have
none. -/
structure ArrayAt (t : Target) (space : AddressSpace) (address : UInt64) (limit : Nat)
    (pointers : List UInt64) : Prop where
  length_le : pointers.length ≤ limit
  held : t.HoldsPointers space address pointers
  ended : pointers.length < limit →
    t.HoldsPointer space (slotAt address pointers.length) 0

/-- Behind these pointers, and before a null or the limit, a slot cannot be read. -/
structure ArrayLost (t : Target) (space : AddressSpace) (address : UInt64) (limit : Nat)
    (before : List UInt64) (stop : Stop) : Prop where
  length_lt : before.length < limit
  held : t.HoldsPointers space address before
  lost : t.read space (slotAt address before.length) 8 = .error stop

theorem holdsPointers_nil : t.HoldsPointers space address [] := fun _ _ h => by cases h

theorem holdsPointers_cons :
    t.HoldsPointers space address (pointer :: pointers) ↔
      pointer ≠ 0 ∧ t.HoldsPointer space address pointer ∧
        t.HoldsPointers space (address + 8) pointers := by
  constructor
  · intro h
    obtain ⟨nonnull, first⟩ := h 0 pointer rfl
    rw [slotAt_zero] at first
    refine ⟨nonnull, first, fun i p hp => ?_⟩
    rw [← slotAt_succ]
    exact h (i + 1) p hp
  · rintro ⟨nonnull, first, rest⟩ i p hp
    cases i with
    | zero =>
      cases hp
      rw [slotAt_zero]
      exact ⟨nonnull, first⟩
    | succ i =>
      rw [slotAt_succ]
      exact rest i p hp

theorem arrayAt_cons :
    t.ArrayAt space address (limit + 1) (pointer :: pointers) ↔
      pointer ≠ 0 ∧ t.HoldsPointer space address pointer ∧
        t.ArrayAt space (address + 8) limit pointers := by
  constructor
  · rintro ⟨length, held, ended⟩
    obtain ⟨nonnull, first, rest⟩ := holdsPointers_cons.1 held
    refine ⟨nonnull, first, Nat.le_of_succ_le_succ length, rest, fun short => ?_⟩
    rw [← slotAt_succ]
    exact ended (Nat.succ_lt_succ short)
  · rintro ⟨nonnull, first, length, rest, ended⟩
    refine ⟨Nat.succ_le_succ length, holdsPointers_cons.2 ⟨nonnull, first, rest⟩, fun short => ?_⟩
    rw [List.length_cons, slotAt_succ]
    exact ended (Nat.lt_of_succ_lt_succ short)

/-- An array begins with its first pointer, or with a null. -/
theorem ArrayAt.first (h : t.ArrayAt space address (limit + 1) pointers) :
    t.HoldsPointer space address (pointers.headD 0) := by
  cases pointers with
  | nil =>
    have null := h.ended (Nat.succ_pos limit)
    rwa [List.length_nil, slotAt_zero] at null
  | cons pointer pointers => exact (arrayAt_cons.1 h).2.1

/-- Memory holds one array at an address. -/
theorem ArrayAt.unique {pointers' : List UInt64} (h : t.ArrayAt space address limit pointers)
    (h' : t.ArrayAt space address limit pointers') : pointers = pointers' := by
  induction limit generalizing address pointers pointers' with
  | zero =>
    rw [List.eq_nil_of_length_eq_zero (Nat.le_zero.1 h.length_le),
      List.eq_nil_of_length_eq_zero (Nat.le_zero.1 h'.length_le)]
  | succ limit ih =>
    have same := h.first.unique h'.first
    -- a pointer that one array begins with is not null, and neither is that of the other
    match pointers, pointers' with
    | [], [] => rfl
    | [], _ :: _ => exact absurd same.symm (arrayAt_cons.1 h').1
    | _ :: _, [] => exact absurd same (arrayAt_cons.1 h).1
    | p :: ps, p' :: ps' =>
      obtain ⟨-, -, rest⟩ := arrayAt_cons.1 h
      obtain ⟨-, -, rest'⟩ := arrayAt_cons.1 h'
      rw [show p = p' from same, ih rest rest']

theorem arrayLost_cons {stop : Stop} :
    t.ArrayLost space address (limit + 1) (pointer :: pointers) stop ↔
      pointer ≠ 0 ∧ t.HoldsPointer space address pointer ∧
        t.ArrayLost space (address + 8) limit pointers stop := by
  constructor
  · rintro ⟨length, held, lost⟩
    obtain ⟨nonnull, first, rest⟩ := holdsPointers_cons.1 held
    rw [List.length_cons, slotAt_succ] at lost
    exact ⟨nonnull, first, Nat.lt_of_succ_lt_succ length, rest, lost⟩
  · rintro ⟨nonnull, first, length, rest, lost⟩
    refine ⟨Nat.succ_lt_succ length, holdsPointers_cons.2 ⟨nonnull, first, rest⟩, ?_⟩
    rw [List.length_cons, slotAt_succ]
    exact lost

/-- Every memory holds an array of pointers at every address, or loses one of its slots. -/
theorem arrayAt_or_lost (t : Target) (space : AddressSpace) (address : UInt64) (limit : Nat) :
    (∃ pointers, t.ArrayAt space address limit pointers) ∨
      ∃ before stop, t.ArrayLost space address limit before stop := by
  induction limit generalizing address with
  | zero => exact .inl ⟨[], Nat.le_refl 0, holdsPointers_nil, fun h => absurd h (Nat.lt_irrefl 0)⟩
  | succ limit ih =>
    rcases t.holdsPointer_or_lost space address with ⟨pointer, first⟩ | ⟨stop, lost⟩
    · by_cases null : pointer = 0
      · subst null
        refine .inl ⟨[], Nat.zero_le _, holdsPointers_nil, fun _ => ?_⟩
        rwa [List.length_nil, slotAt_zero]
      · rcases ih (address + 8) with ⟨pointers, rest⟩ | ⟨before, stop, rest⟩
        · exact .inl ⟨pointer :: pointers, arrayAt_cons.2 ⟨null, first, rest⟩⟩
        · exact .inr ⟨pointer :: before, stop, arrayLost_cons.2 ⟨null, first, rest⟩⟩
    · refine .inr ⟨[], stop, Nat.succ_pos limit, holdsPointers_nil, ?_⟩
      rwa [List.length_nil, slotAt_zero]

end Target

/-! ## Reading a slot -/

/-- The type of the pointers in an array of strings. -/
def stringPointer : CType := .scalar "char*" 8 .pointer

theorem builtin?_stringPointer : CType.builtin? "char __user *" = some stringPointer := rfl

namespace Cursor

variable {w : World} {space : AddressSpace} {address pointer : UInt64}

/-- At most one question is asked for the value of a type. -/
theorem length_asked_value (w : World) (space : AddressSpace) (address : UInt64) (type : CType) :
    ((value ⟨address, some type⟩ space).asked w).length ≤ 1 := by
  have asked : (value ⟨address, some type⟩ space).asked w =
      (if type.isScalar then Reading.unsigned space address type.size
        else Reading.fail (.badType (type.name ++ " is not a scalar type"))).asked w := rfl
  rw [asked]
  split
  · unfold Reading.unsigned
    rw [Course.asked_bind]
    cases (Reading.bytes space address (min type.size 8)).on w <;> exact Nat.le_refl 1
  · exact Nat.zero_le 1

theorem on_slot (h : w.target.HoldsPointer space address pointer) :
    (value ⟨address, some stringPointer⟩ space).on w = .ok pointer := by
  obtain ⟨bytes, read, rfl⟩ := h.word
  have asked : (Reading.bytes space address (min 8 8)).on w = .ok bytes := read
  rw [← WordBuffer.word_write_zero_eq_scalarValue]
  exact Course.on_bind_ok w asked _

theorem on_slot_lost {stop : Stop} (h : w.target.read space address 8 = .error stop) :
    (value ⟨address, some stringPointer⟩ space).on w = .error stop := by
  have asked : (Reading.bytes space address (min 8 8)).on w = .error stop := h
  exact Course.on_bind_error w asked _

end Cursor

end SyscallDecode
