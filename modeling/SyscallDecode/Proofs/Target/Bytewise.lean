/-
Reads in order. Memory is made of single bytes, and a read goes through them one after the other: it
gives all that it was asked for, or it fails at the first byte that is missing, for the reason that
this byte has. A read can therefore be taken in parts, or cut short.
-/
import SyscallDecode.Proofs.Inquiry.Within
import SyscallDecode.Proofs.Target.Bytes

namespace SyscallDecode

namespace Cells

variable {cell : UInt64 → Attempt UInt8} {address : UInt64} {length : Nat} {bytes rest : List UInt8}
  {b : UInt8} {i m : Nat} {stop : Stop}

/-- An address that does not leave the space lies that far behind. -/
theorem toNat_offset (fits : address.toNat + i < UInt64.size) :
    (address + UInt64.ofNat i).toNat = address.toNat + i := by
  unfold UInt64.size at fits
  rw [UInt64.toNat_add, UInt64.toNat_ofNat']
  omega

/-! ## What memory holds -/

/-- Memory holds these bytes one after the other, around the end of the space. -/
def Holds (cell : UInt64 → Attempt UInt8) (address : UInt64) (bytes : List UInt8) : Prop :=
  ∀ (i : Nat) (b : UInt8), bytes[i]? = some b → cell (address + UInt64.ofNat i) = .ok b

/-- The first byte that is missing lies so far behind the address, for this reason. -/
structure FirstMissing (cell : UInt64 → Attempt UInt8) (address : UInt64) (i : Nat) (stop : Stop) :
    Prop where
  missing : cell (address + UInt64.ofNat i) = .error stop
  before : ∀ k < i, ∃ b, cell (address + UInt64.ofNat k) = .ok b

theorem holds_nil : Holds cell address [] := fun _ _ h => by cases h

theorem holds_cons :
    Holds cell address (b :: bytes) ↔ cell address = .ok b ∧ Holds cell (address + 1) bytes := by
  constructor
  · intro h
    refine ⟨?_, fun i c hc => ?_⟩
    · have first := h 0 b rfl
      rwa [offset_zero] at first
    · rw [← offset_succ]
      exact h (i + 1) c hc
  · rintro ⟨first, later⟩ i c hc
    cases i with
    | zero =>
      cases hc
      rwa [offset_zero]
    | succ i =>
      rw [offset_succ]
      exact later i c hc

theorem holds_append :
    Holds cell address (bytes ++ rest) ↔
      Holds cell address bytes ∧ Holds cell (address + UInt64.ofNat bytes.length) rest := by
  induction bytes generalizing address with
  | nil => rw [List.nil_append, List.length_nil, offset_zero, and_iff_right holds_nil]
  | cons b bytes ih =>
    rw [List.cons_append, holds_cons, holds_cons, ih, List.length_cons, offset_succ, and_assoc]

theorem Holds.take (h : Holds cell address bytes) (m : Nat) : Holds cell address (bytes.take m) := by
  rw [← List.take_append_drop m bytes] at h
  exact (holds_append.1 h).1

theorem Holds.byte (h : Holds cell address bytes) (inside : i < bytes.length) :
    ∃ b, cell (address + UInt64.ofNat i) = .ok b :=
  ⟨bytes[i], h i _ (List.getElem?_eq_getElem inside)⟩

theorem firstMissing_zero : FirstMissing cell address 0 stop ↔ cell address = .error stop := by
  constructor
  · intro h
    have missing := h.missing
    rwa [offset_zero] at missing
  · intro h
    exact ⟨by rwa [offset_zero], fun k hk => absurd hk (Nat.not_lt_zero k)⟩

/-- What is missing behind bytes that are there is missing for all of them. -/
theorem FirstMissing.append (h : Holds cell address bytes)
    (later : FirstMissing cell (address + UInt64.ofNat bytes.length) i stop) :
    FirstMissing cell address (bytes.length + i) stop := by
  have offset (k : Nat) : address + UInt64.ofNat (bytes.length + k) =
      address + UInt64.ofNat bytes.length + UInt64.ofNat k := by
    rw [UInt64.ofNat_add, UInt64.add_assoc]
  refine ⟨by rw [offset]; exact later.missing, fun k hk => ?_⟩
  by_cases inside : k < bytes.length
  · exact h.byte inside
  · obtain ⟨j, rfl⟩ := Nat.exists_eq_add_of_le (Nat.not_lt.1 inside)
    rw [offset]
    exact later.before j (by omega)

/-! ## What a read gives -/

/-- So many bytes are all there, or one of them is the first that is missing. -/
theorem readFrom_cases (cell : UInt64 → Attempt UInt8) (address : UInt64) (length : Nat) :
    (∃ bytes, bytes.length = length ∧ Holds cell address bytes ∧
      readFrom cell address length = .ok bytes) ∨
    ∃ i < length, ∃ stop, FirstMissing cell address i stop ∧
      readFrom cell address length = .error stop := by
  induction length generalizing address with
  | zero => exact .inl ⟨[], rfl, holds_nil, rfl⟩
  | succ length ih =>
    rw [readFrom_succ]
    cases first : cell address with
    | error stop =>
      exact .inr ⟨0, Nat.succ_pos length, stop, firstMissing_zero.2 first, rfl⟩
    | ok b =>
      -- the rest is a read of its own, one byte further on
      have one : Holds cell address [b] := holds_cons.2 ⟨first, holds_nil⟩
      obtain ⟨bytes, count, held, read⟩ | ⟨i, inside, stop, lost, read⟩ := ih (address + 1)
      · refine .inl ⟨b :: bytes, congrArg (· + 1) count, holds_cons.2 ⟨first, held⟩, ?_⟩
        rw [read]
        rfl
      · refine .inr ⟨1 + i, by omega, stop, .append one lost, ?_⟩
        rw [read]
        rfl

theorem Holds.unique {bytes' : List UInt8} (h : Holds cell address bytes)
    (h' : Holds cell address bytes') (same : bytes.length = bytes'.length) : bytes = bytes' := by
  apply List.ext_getElem same
  intro i hi hi'
  have byte := h i _ (List.getElem?_eq_getElem hi)
  have byte' := h' i _ (List.getElem?_eq_getElem hi')
  exact Except.ok.inj (byte.symm.trans byte')

/-- Among bytes that are there none is missing. -/
theorem FirstMissing.length_le (lost : FirstMissing cell address i stop)
    (h : Holds cell address bytes) : bytes.length ≤ i := by
  refine Nat.le_of_not_lt fun inside => ?_
  obtain ⟨b, byte⟩ := h.byte inside
  cases lost.missing.symm.trans byte

theorem FirstMissing.unique {j : Nat} {stop' : Stop} (h : FirstMissing cell address i stop)
    (h' : FirstMissing cell address j stop') : i = j ∧ stop = stop' := by
  obtain before | same | behind := Nat.lt_trichotomy i j
  · obtain ⟨b, byte⟩ := h'.before i before
    cases h.missing.symm.trans byte
  · subst same
    cases h.missing.symm.trans h'.missing
    exact ⟨rfl, rfl⟩
  · obtain ⟨b, byte⟩ := h.before j behind
    cases h'.missing.symm.trans byte

/-- A read gives the bytes that memory holds. -/
theorem readFrom_eq_ok_iff :
    readFrom cell address length = .ok bytes ↔ bytes.length = length ∧ Holds cell address bytes := by
  obtain ⟨found, count, held, read⟩ | ⟨i, inside, stop, lost, read⟩ :=
    readFrom_cases cell address length
  · rw [read, Except.ok.injEq]
    refine ⟨fun same => same ▸ ⟨count, held⟩, fun ⟨count', held'⟩ => ?_⟩
    exact held.unique held' (count.trans count'.symm)
  · rw [read]
    refine iff_of_false (by simp) fun ⟨count, held⟩ => ?_
    have behind := lost.length_le held
    omega

/-- A read fails for the reason of the first byte that is missing. -/
theorem readFrom_eq_error_iff :
    readFrom cell address length = .error stop ↔
      ∃ i < length, FirstMissing cell address i stop := by
  obtain ⟨found, count, held, read⟩ | ⟨i, inside, stop', lost, read⟩ :=
    readFrom_cases cell address length
  · rw [read]
    refine iff_of_false (by simp) fun ⟨i, inside, lost⟩ => ?_
    have behind := lost.length_le held
    omega
  · rw [read, Except.error.injEq]
    refine ⟨fun same => same ▸ ⟨i, inside, lost⟩, fun ⟨j, _, lost'⟩ => ?_⟩
    exact (lost.unique lost').2

end Cells

/-! ## Targets -/

namespace Target

/-- Memory is made of single bytes, of which some may be missing, and every read goes through them in
order: it gives all of them, or fails at the first that is missing, with its address. -/
structure Bytewise (t : Target) (cells : Cells) : Prop where
  read_eq : ∀ space address length,
    t.read space address length = Cells.readFrom (cells space) address length
  missing : ∀ space address stop, cells space address = .error stop →
    ∃ reason, stop = .failure (.unreadable address reason)

variable {t : Target} {cells : Cells} {space : AddressSpace} {address : UInt64} {length : Nat}
  {bytes : List UInt8}

theorem Bytewise.read_eq_ok_iff (memory : t.Bytewise cells) :
    t.read space address length = .ok bytes ↔
      bytes.length = length ∧ Cells.Holds (cells space) address bytes := by
  rw [memory.read_eq, Cells.readFrom_eq_ok_iff]

theorem Bytewise.read_eq_error_iff (memory : t.Bytewise cells) {stop : Stop} :
    t.read space address length = .error stop ↔
      ∃ i < length, Cells.FirstMissing (cells space) address i stop := by
  rw [memory.read_eq, Cells.readFrom_eq_error_iff]

theorem Bytewise.read_one (memory : t.Bytewise cells) {b : UInt8} :
    t.read space address 1 = .ok [b] ↔ cells space address = .ok b := by
  rw [memory.read_eq_ok_iff, Cells.holds_cons]
  exact ⟨fun h => h.2.1, fun h => ⟨rfl, h, Cells.holds_nil⟩⟩

theorem Bytewise.read_one_lost (memory : t.Bytewise cells) {stop : Stop} :
    t.read space address 1 = .error stop ↔ cells space address = .error stop := by
  rw [memory.read_eq_error_iff, ← Cells.firstMissing_zero]
  constructor
  · rintro ⟨i, inside, lost⟩
    rwa [Nat.lt_one_iff.1 inside] at lost
  · exact fun lost => ⟨0, Nat.one_pos, lost⟩

/-- What is missing fails and aborts nothing. -/
theorem Bytewise.calm (memory : t.Bytewise cells) : t.Calm := by
  intro space address length a aborted
  obtain ⟨i, -, lost⟩ := memory.read_eq_error_iff.1 aborted
  obtain ⟨reason, failure⟩ := memory.missing _ _ _ lost.missing
  cases failure

/-- Each byte is there or not, whatever reads it. -/
theorem Bytewise.byteAddressed (memory : t.Bytewise cells) :
    t.ByteAddressed fun space address => (cells space address).toOption := by
  refine ⟨memory.calm, fun space address length bytes => ?_⟩
  rw [memory.read_eq, Cells.readFrom_iff]

/-- What can be read can be cut short. -/
theorem Bytewise.read_take (memory : t.Bytewise cells)
    (whole : t.read space address length = .ok bytes) {m : Nat} (short : m ≤ length) :
    t.read space address m = .ok (bytes.take m) := by
  obtain ⟨count, held⟩ := memory.read_eq_ok_iff.1 whole
  refine memory.read_eq_ok_iff.2 ⟨?_, held.take m⟩
  rw [List.length_take, count, Nat.min_eq_left short]

end Target

theorem Cells.bytewise_target {cells : Cells} (typeNamed : String → Attempt CType)
    (symbol : String → Attempt UInt64)
    (missing : ∀ space address stop, cells space address = .error stop →
      ∃ reason, stop = .failure (.unreadable address reason)) :
    (cells.target typeNamed symbol).Bytewise cells :=
  ⟨fun _ _ _ => gather_nil _ _ _, missing⟩

/-- A target with the types of the catalogue aborts nothing if neither its memory nor its symbols
do. -/
theorem Cells.quiet_target {cells : Cells} {symbol : String → Attempt UInt64}
    (memory : (cells.target catalogueTypes symbol).Calm)
    (symbols : ∀ name a, symbol name ≠ .error (.abort a)) :
    World.Quiet ⟨cells.target catalogueTypes symbol, .absent⟩ := by
  intro q a aborted
  cases q with
  | typeNamed name =>
    change (cells.target catalogueTypes symbol).typeNamed name = _ at aborted
    simp only [target, catalogueTypes] at aborted
    split at aborted <;> cases aborted
  | read space address length => exact memory space address length a aborted
  | symbol name => exact symbols name a aborted
  | file descriptor => cases aborted
  | areas => cases aborted

end SyscallDecode
