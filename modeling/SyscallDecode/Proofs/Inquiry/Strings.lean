/-
Strings in memory. A string is read byte by byte, up to the first zero, to the limit, or to the
first byte that cannot be read; nothing behind that is looked at.
-/
import SyscallDecode.Inquiry.Memory

namespace SyscallDecode

/-! ## Bytes of a string -/

theorem offset_zero (address : UInt64) : address + UInt64.ofNat 0 = address :=
  UInt64.add_zero address

theorem offset_succ (address : UInt64) (i : Nat) :
    address + UInt64.ofNat (i + 1) = address + 1 + UInt64.ofNat i := by
  rw [UInt64.ofNat_add, UInt64.add_comm (UInt64.ofNat i), ← UInt64.add_assoc]
  rfl

/-- Memory holds these bytes one after the other, around the end of the space; none is zero. -/
def Target.HoldsString (t : Target) (space : AddressSpace) (address : UInt64)
    (bytes : List UInt8) : Prop :=
  ∀ (i : Nat) (b : UInt8), bytes[i]? = some b →
    b ≠ 0 ∧ t.read space (address + UInt64.ofNat i) 1 = .ok [b]

/-- These are the bytes before the first zero of a field of `limit` bytes, which may have none. -/
structure Target.StringAt (t : Target) (space : AddressSpace) (address : UInt64) (limit : Nat)
    (bytes : List UInt8) : Prop where
  length_le : bytes.length ≤ limit
  held : t.HoldsString space address bytes
  ended : bytes.length < limit →
    t.read space (address + UInt64.ofNat bytes.length) 1 = .ok [0]

/-- Behind these bytes, and before a zero or the limit, a byte cannot be read. -/
structure Target.StringLost (t : Target) (space : AddressSpace) (address : UInt64) (limit : Nat)
    (before : List UInt8) (stop : Stop) : Prop where
  length_lt : before.length < limit
  held : t.HoldsString space address before
  lost : t.read space (address + UInt64.ofNat before.length) 1 = .error stop

/-- The reads of single bytes from an address on. -/
def byteReads (space : AddressSpace) (address : UInt64) (count : Nat) : List Question :=
  (List.range count).map fun i => .read space (address + UInt64.ofNat i) 1

namespace Target

variable {t : Target} {space : AddressSpace} {address : UInt64} {limit : Nat} {b : UInt8}
  {bytes : List UInt8}

theorem HoldsString.nil : t.HoldsString space address [] := fun _ _ h => by cases h

theorem HoldsString.cons (hb : b ≠ 0) (read : t.read space address 1 = .ok [b])
    (h : t.HoldsString space (address + 1) bytes) : t.HoldsString space address (b :: bytes) := by
  intro i c hc
  cases i with
  | zero =>
    cases hc
    exact ⟨hb, by rwa [offset_zero]⟩
  | succ i =>
    rw [offset_succ]
    exact h i c hc

theorem StringAt.cons (hb : b ≠ 0) (read : t.read space address 1 = .ok [b])
    (h : t.StringAt space (address + 1) limit bytes) :
    t.StringAt space address (limit + 1) (b :: bytes) := by
  refine ⟨Nat.succ_le_succ h.length_le, .cons hb read h.held, fun short => ?_⟩
  rw [List.length_cons, offset_succ]
  exact h.ended (Nat.lt_of_succ_lt_succ short)

theorem StringLost.cons {stop : Stop} (hb : b ≠ 0) (read : t.read space address 1 = .ok [b])
    (h : t.StringLost space (address + 1) limit bytes stop) :
    t.StringLost space address (limit + 1) (b :: bytes) stop := by
  refine ⟨Nat.succ_lt_succ h.length_lt, .cons hb read h.held, ?_⟩
  rw [List.length_cons, offset_succ]
  exact h.lost

end Target

theorem byteReads_succ (space : AddressSpace) (address : UInt64) (count : Nat) :
    byteReads space address (count + 1) =
      .read space address 1 :: byteReads space (address + 1) count := by
  unfold byteReads
  rw [List.range_succ_eq_map, List.map_cons, List.map_map, offset_zero]
  exact congrArg _ (List.map_congr_left fun i _ => by rw [Function.comp_apply, offset_succ])

/-! ## Reading a string -/

namespace Reading

variable {w : World} {space : AddressSpace} {address : UInt64}

theorem asked_byte : (byte space address).asked w = [.read space address 1] := by
  unfold byte
  rw [Course.asked_bind]
  cases (bytes space address 1).on w <;> rfl

/-- A byte is read alone, or not at all. -/
theorem byte_cases :
    (∃ b, w.target.read space address 1 = .ok [b] ∧ (byte space address).on w = .ok b) ∨
    ∃ stop, w.target.read space address 1 = .error stop ∧
      (byte space address).on w = .error stop := by
  have answer : (bytes space address 1).on w = w.target.read space address 1 := rfl
  cases read : w.target.read space address 1 with
  | error stop => exact .inr ⟨stop, rfl, Course.on_bind_error w (answer.trans read) _⟩
  | ok read' =>
    obtain ⟨b, rfl⟩ := List.length_eq_one_iff.1 (w.target.read_length read)
    exact .inl ⟨b, rfl, Course.on_bind_ok w (answer.trans read) _⟩

/-- A string is read up to its end, and not beyond, or up to the first byte that cannot be read. -/
theorem string_spec (w : World) (space : AddressSpace) (address : UInt64) (limit : Nat) :
    (∃ bytes, w.target.StringAt space address limit bytes ∧
      (string space address limit).on w = .ok bytes ∧
      (string space address limit).asked w =
        byteReads space address (min (bytes.length + 1) limit)) ∨
    ∃ before stop, w.target.StringLost space address limit before stop ∧
      (string space address limit).on w = .error stop ∧
      (string space address limit).asked w = byteReads space address (before.length + 1) := by
  induction limit generalizing address with
  | zero => exact .inl ⟨[], ⟨Nat.le_refl 0, .nil, fun h => absurd h (Nat.lt_irrefl 0)⟩, rfl, rfl⟩
  | succ limit ih =>
    unfold string
    rcases @byte_cases w space address with ⟨b, read, hb⟩ | ⟨stop, read, hb⟩
    · rw [Course.on_bind_ok w hb, Course.asked_bind_ok w hb, asked_byte]
      by_cases zero : b = 0
      · subst zero
        refine .inl ⟨[], ⟨Nat.zero_le _, .nil, fun _ => ?_⟩, rfl, ?_⟩
        · rwa [List.length_nil, offset_zero]
        · rw [List.length_nil, Nat.min_eq_left (by omega), byteReads_succ]
          rfl
      · simp only [zero, if_false]
        -- the rest is a string of its own, one byte further on
        rcases ih (address + 1) with ⟨rest, at', on, asked⟩ | ⟨rest, stop, lost, on, asked⟩
        · refine .inl ⟨b :: rest, .cons zero read at', ?_, ?_⟩
          · rw [Course.on_bind_ok w on]
            rfl
          · rw [Course.asked_bind_ok w on, asked, List.length_cons, Nat.add_min_add_right,
              byteReads_succ, Course.asked_pure, List.append_nil]
            rfl
        · refine .inr ⟨b :: rest, stop, .cons zero read lost, ?_, ?_⟩
          · rw [Course.on_bind_error w on]
          · rw [Course.asked_bind_error w on, asked, List.length_cons, byteReads_succ space address]
            rfl
    · rw [Course.on_bind_error w hb, Course.asked_bind_error w hb, asked_byte]
      refine .inr ⟨[], stop, ⟨Nat.succ_pos limit, .nil, ?_⟩, rfl, ?_⟩
      · rwa [List.length_nil, offset_zero]
      · rw [List.length_nil, byteReads_succ]
        rfl

/-- No more bytes are read than a string may have. -/
theorem length_asked_string (w : World) (space : AddressSpace) (address : UInt64) (limit : Nat) :
    ((string space address limit).asked w).length ≤ limit := by
  obtain ⟨bytes, -, -, asked⟩ | ⟨before, stop, lost, -, asked⟩ := string_spec w space address limit
  · rw [asked, byteReads, List.length_map, List.length_range]
    exact Nat.min_le_right _ _
  · rw [asked, byteReads, List.length_map, List.length_range]
    exact lost.length_lt

end Reading

end SyscallDecode
