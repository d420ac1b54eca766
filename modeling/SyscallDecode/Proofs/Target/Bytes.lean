/-
Memory of single bytes. What one read gives of it, smaller reads give in parts, so that a struct that
is read at once and one that is read member by member hold the same.
-/
import SyscallDecode.Proofs.CType.WordBuffer
import SyscallDecode.Proofs.Inquiry.Strings
import SyscallDecode.Target.Snapshot

namespace SyscallDecode

/-! ## What memory holds -/

/-- The word that lies so many bytes behind the first. -/
def wordIn (bytes : List UInt8) (start size : Nat) : UInt64 :=
  scalarValue ((bytes.drop start).take size)

theorem exists_map_some_iff {α : Type} {items : List (Option α)} :
    (∃ values : List α, values.map some = items) ↔ ∀ item ∈ items, item.isSome := by
  constructor
  · rintro ⟨values, rfl⟩ item member
    obtain ⟨value, -, rfl⟩ := List.mem_map.1 member
    rfl
  · intro all
    induction items with
    | nil => exact ⟨[], rfl⟩
    | cons item items ih =>
      obtain ⟨value, rfl⟩ := Option.isSome_iff_exists.1 (all item List.mem_cons_self)
      obtain ⟨values, rfl⟩ := ih fun item member => all item (List.mem_cons_of_mem _ member)
      exact ⟨value :: values, rfl⟩

namespace Target

/-- Reads of memory may fail but abort nothing. -/
def Calm (t : Target) : Prop :=
  ∀ space address length a, t.read space address length ≠ .error (.abort a)

/-- Memory is made of single bytes, of which some may be missing. A read gives the bytes at its
addresses, around the end of the space, exactly when none of them is. -/
structure ByteAddressed (t : Target) (cell : AddressSpace → UInt64 → Option UInt8) : Prop where
  calm : t.Calm
  read_iff : ∀ space address length bytes, t.read space address length = .ok bytes ↔
    bytes.map some = (List.range length).map fun i => cell space (address + UInt64.ofNat i)

variable {t : Target} {cell : AddressSpace → UInt64 → Option UInt8} {space : AddressSpace}
  {address : UInt64} {length : Nat} {bytes : List UInt8}

/-- All bytes from an address on are there. -/
def Resident (cell : AddressSpace → UInt64 → Option UInt8) (space : AddressSpace)
    (address : UInt64) (length : Nat) : Prop :=
  ∀ i < length, (cell space (address + UInt64.ofNat i)).isSome

/-- What is there can be read, and nothing else. -/
theorem ByteAddressed.resident_iff (memory : t.ByteAddressed cell) :
    Resident cell space address length ↔ ∃ bytes, t.read space address length = .ok bytes := by
  simp only [memory.read_iff, exists_map_some_iff, List.forall_mem_map, List.mem_range]
  exact Iff.rfl

/-- A part of what was read can be read by itself. -/
theorem ByteAddressed.read_part (memory : t.ByteAddressed cell)
    (whole : t.read space address length = .ok bytes) {start part : Nat}
    (inside : start + part ≤ length) :
    t.read space (address + UInt64.ofNat start) part = .ok ((bytes.drop start).take part) := by
  have held := (memory.read_iff space address length bytes).1 whole
  rw [memory.read_iff]
  calc ((bytes.drop start).take part).map some
      = (((List.range length).map fun i => cell space (address + UInt64.ofNat i)).drop start).take
          part := by rw [List.map_take, List.map_drop, held]
    _ = (List.range part).map fun i =>
          cell space (address + UInt64.ofNat start + UInt64.ofNat i) := by
        apply List.ext_getElem
        · simp only [List.length_take, List.length_drop, List.length_map, List.length_range]
          omega
        · intro i hi hi'
          simp only [List.getElem_take, List.getElem_drop, List.getElem_map, List.getElem_range]
          rw [UInt64.ofNat_add, UInt64.add_assoc]

/-- A word inside what was read is the same when it is read by itself. -/
theorem ByteAddressed.readUnsigned_of_read (memory : t.ByteAddressed cell)
    (whole : t.read space address length = .ok bytes) {start size : Nat}
    (inside : start + size ≤ length) (small : size ≤ 8) :
    t.readUnsigned space (address + UInt64.ofNat start) size = .ok (wordIn bytes start size) := by
  have part := memory.read_part whole inside
  have asked : (Reading.bytes space (address + UInt64.ofNat start) (min size 8)).on t.world =
      .ok ((bytes.drop start).take size) := by
    rw [Nat.min_eq_left small]
    exact part
  rw [wordIn, ← WordBuffer.word_write_zero_eq_scalarValue]
  exact Course.on_bind_ok _ asked _

/-- A value is shown by one read of its bytes, and fails only with it. -/
theorem renderAt_eq_map (t : Target) (space : AddressSpace) (address : UInt64) (type : CType) :
    t.renderAt space type address = (t.read space address type.size).map type.render := by
  unfold renderAt Reading.rendered
  rw [Course.on_bind]
  show (t.read space address type.size).bind _ = _
  cases t.read space address type.size <;> rfl

/-- What is shown of a value is the text of the bytes that are read at its address. -/
theorem bytes_of_renderAt {type : CType} {text : String}
    (shown : t.renderAt space type address = .ok text) :
    ∃ bytes, t.read space address type.size = .ok bytes ∧ text = type.render bytes := by
  obtain ⟨bytes, read, told⟩ := (Course.on_bind_eq_ok _).1 shown
  cases told
  exact ⟨bytes, read, rfl⟩

end Target

/-! ## Cells -/

namespace Cells

variable {cell : UInt64 → Attempt UInt8} {address : UInt64} {length : Nat}

theorem readFrom_succ (cell : UInt64 → Attempt UInt8) (address : UInt64) (length : Nat) :
    readFrom cell address (length + 1) =
      (cell address).bind fun byte =>
        (readFrom cell (address + 1) length).map (byte :: ·) := by
  simp only [readFrom, bind, pure, Except.pure]
  cases cell address with
  | error stop => rfl
  | ok byte => cases readFrom cell (address + 1) length <;> rfl

/-- What stops a read is what stops one of its bytes. -/
theorem readFrom_error {stop : Stop} (h : readFrom cell address length = .error stop) :
    ∃ a, cell a = .error stop := by
  induction length generalizing address with
  | zero => cases h
  | succ length ih =>
    rw [readFrom_succ] at h
    cases first : cell address with
    | error stop' =>
      rw [first] at h
      cases h
      exact ⟨address, first⟩
    | ok byte =>
      cases rest : readFrom cell (address + 1) length with
      | error stop' =>
        rw [first, rest] at h
        cases h
        exact ih rest
      | ok bytes =>
        rw [first, rest] at h
        cases h

theorem readFrom_iff {bytes : List UInt8} :
    readFrom cell address length = .ok bytes ↔
      bytes.map some = (List.range length).map fun i =>
        (cell (address + UInt64.ofNat i)).toOption := by
  induction length generalizing address bytes with
  | zero =>
    have empty : readFrom cell address 0 = .ok [] := rfl
    rw [empty, List.range_zero, List.map_nil, List.map_eq_nil_iff, Except.ok.injEq, eq_comm]
  | succ length ih =>
    -- the bytes behind the first are those of a read that starts one further on
    have behind : ((List.range (length + 1)).map fun i =>
        (cell (address + UInt64.ofNat i)).toOption) =
        (cell address).toOption :: (List.range length).map fun i =>
          (cell (address + 1 + UInt64.ofNat i)).toOption := by
      rw [List.range_succ_eq_map, List.map_cons, List.map_map, offset_zero]
      exact congrArg _ (List.map_congr_left fun i _ => by rw [Function.comp_apply, offset_succ])
    rw [readFrom_succ, behind]
    cases first : cell address with
    | error stop => cases bytes <;> simp [Except.bind, Except.toOption]
    | ok byte =>
      cases bytes with
      | nil =>
        cases readFrom cell (address + 1) length <;> simp [Except.bind, Except.map]
      | cons b bytes =>
        rw [List.map_cons, List.cons.injEq, ← ih]
        cases readFrom cell (address + 1) length <;>
          simp [Except.bind, Except.map, Except.toOption, eq_comm]

theorem typeNamed_catalogueTypes (cells : Cells) (symbol : String → Attempt UInt64) {name : String}
    {type : CType} (h : CType.builtin? name = some type) :
    (cells.target catalogueTypes symbol).typeNamed name = .ok type := by
  unfold target catalogueTypes
  simp only [h]

/-- A target made of cells that abort nothing has memory of single bytes. -/
theorem byteAddressed_target {cells : Cells} (typeNamed : String → Attempt CType)
    (symbol : String → Attempt UInt64)
    (calm : ∀ space address a, cells space address ≠ .error (.abort a)) :
    (cells.target typeNamed symbol).ByteAddressed fun space address =>
      (cells space address).toOption where
  calm := by
    intro space address length a aborted
    have read : gather (cells space) [] address length = .error (.abort a) := aborted
    rw [gather_nil] at read
    obtain ⟨cell, stopped⟩ := readFrom_error read
    exact calm space cell a stopped
  read_iff := by
    intro space address length bytes
    have read : (cells.target typeNamed symbol).read space address length =
        readFrom (cells space) address length := gather_nil _ _ _
    rw [read, readFrom_iff]

end Cells

end SyscallDecode
