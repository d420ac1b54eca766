/-
Strings up to the first zero. Where memory is made of single bytes, a string is what one read gives of
the bytes before the first zero, or of as many as the limit allows. What lies behind does not matter,
and a smaller limit only cuts the string.
-/
import Mathlib.Data.Nat.Find
import SyscallDecode.Proofs.Target.Bytewise

namespace SyscallDecode

/-! ## The end of a string -/

/-- How many bytes a string has whose first zero, if there is one, lies so far behind its address. -/
def textLength (z : Option Nat) (limit : Nat) : Nat :=
  z.elim limit (min · limit)

theorem textLength_le (z : Option Nat) (limit : Nat) : textLength z limit ≤ limit := by
  cases z with
  | none => exact Nat.le_refl limit
  | some z => exact Nat.min_le_right z limit

theorem textLength_of_le {l limit : Nat} (z : Option Nat) (less : l ≤ limit) :
    textLength z l = min l (textLength z limit) := by
  cases z with
  | none => exact (Nat.min_eq_left less).symm
  | some z =>
    show min z l = min l (min z limit)
    omega

namespace Cells

/-- The first zero byte lies so far behind the address, or no byte is zero. Bytes before it may be
missing. -/
structure FirstZero (cell : UInt64 → Attempt UInt8) (address : UInt64) (z : Option Nat) : Prop where
  zero : ∀ n ∈ z, cell (address + UInt64.ofNat n) = .ok 0
  before : ∀ k, (∀ n ∈ z, k < n) → cell (address + UInt64.ofNat k) ≠ .ok 0

variable {cell : UInt64 → Attempt UInt8} {address : UInt64} {z : Option Nat} {n limit : Nat}

theorem exists_firstZero (cell : UInt64 → Attempt UInt8) (address : UInt64) :
    ∃ z, FirstZero cell address z := by
  classical
  by_cases some : ∃ n : Nat, cell (address + UInt64.ofNat n) = .ok 0
  · refine ⟨.some (Nat.find some), ?_, fun k before => ?_⟩
    · rintro n ⟨⟩
      exact Nat.find_spec some
    · exact Nat.find_min some (before _ rfl)
  · exact ⟨none, nofun, fun k _ zero => some ⟨k, zero⟩⟩

/-- A string has all bytes that lie before a zero. -/
theorem FirstZero.le_textLength (first : FirstZero cell address z)
    (nonzero : ∀ k < n, cell (address + UInt64.ofNat k) ≠ .ok 0) (inside : n ≤ limit) :
    n ≤ textLength z limit := by
  cases z with
  | none => exact inside
  | some z =>
    refine Nat.le_min.2 ⟨Nat.le_of_not_lt fun early => ?_, inside⟩
    exact nonzero z early (first.zero z rfl)

/-- A string ends at a zero. -/
theorem FirstZero.textLength_le (first : FirstZero cell address z)
    (zero : cell (address + UInt64.ofNat n) = .ok 0) : textLength z limit ≤ n := by
  cases z with
  | none => exact absurd zero (first.before n nofun)
  | some z =>
    refine Nat.le_trans (Nat.min_le_left z limit) (Nat.le_of_not_lt fun early => ?_)
    refine first.before n ?_ zero
    rintro _ ⟨⟩
    exact early

end Cells

namespace Target

variable {t : Target} {cells : Cells} {space : AddressSpace} {address : UInt64} {z : Option Nat}

/-! ## Bytes of a string -/

/-- A string in memory is there byte for byte. -/
theorem HoldsString.holds (memory : t.Bytewise cells) {bytes : List UInt8}
    (string : t.HoldsString space address bytes) : Cells.Holds (cells space) address bytes :=
  fun i b inside => memory.read_one.1 (string i b inside).2

/-- No byte of a string is zero. -/
theorem HoldsString.nonzero (memory : t.Bytewise cells) {bytes : List UInt8}
    (string : t.HoldsString space address bytes) :
    ∀ k < bytes.length, cells space (address + UInt64.ofNat k) ≠ .ok 0 := by
  intro k inside zero
  obtain ⟨nonzero, read⟩ := string k _ (List.getElem?_eq_getElem inside)
  exact nonzero (Except.ok.inj ((memory.read_one.1 read).symm.trans zero))

/-! ## Strings -/

/-- Reading byte by byte gives what one read of the whole string gives. -/
theorem readString_eq_read (memory : t.Bytewise cells)
    (first : Cells.FirstZero (cells space) address z) (limit : Nat) :
    t.readString space address limit = t.read space address (textLength z limit) := by
  obtain ⟨bytes, string, read, -⟩ | ⟨before, stop, lost, read, -⟩ :=
    Reading.string_spec t.world space address limit
  · have least := first.le_textLength (string.held.nonzero memory) string.length_le
    have most : textLength z limit ≤ bytes.length := by
      by_cases short : bytes.length < limit
      · exact first.textLength_le (memory.read_one.1 (string.ended short))
      · exact Nat.le_trans (textLength_le z limit) (Nat.le_of_not_lt short)
    have count : bytes.length = textLength z limit := Nat.le_antisymm least most
    exact read.trans (memory.read_eq_ok_iff.2 ⟨count, string.held.holds memory⟩).symm
  · have missing := memory.read_one_lost.1 lost.lost
    have nonzero : ∀ k < before.length + 1, cells space (address + UInt64.ofNat k) ≠ .ok 0 := by
      intro k inside zero
      rcases Nat.lt_succ_iff_lt_or_eq.1 inside with inside | rfl
      · exact lost.held.nonzero memory k inside zero
      · cases missing.symm.trans zero
    -- the string goes on behind the byte that is missing
    have beyond := first.le_textLength nonzero lost.length_lt
    have stops : Cells.FirstMissing (cells space) address before.length stop :=
      ⟨missing, fun k inside => (lost.held.holds memory).byte inside⟩
    exact read.trans (memory.read_eq_error_iff.2 ⟨before.length, beyond, stops⟩).symm

/-- Where memory is made of single bytes, and with the first zero behind the address, a string has the
bytes before that zero, or as many as the limit allows: it is read if all of them are there, whatever
lies behind, and fails with the first that is missing otherwise. A smaller limit cuts it, and with its
own length as the limit it is read again. -/
theorem readString_firstZero (memory : t.Bytewise cells) (space : AddressSpace)
    (address : UInt64) :
    (∃ z, Cells.FirstZero (cells space) address z) ∧
    ∀ z, Cells.FirstZero (cells space) address z → ∀ limit : Nat,
      (∀ bytes, t.readString space address limit = .ok bytes ↔
        bytes.length = textLength z limit ∧ Cells.Holds (cells space) address bytes) ∧
      (∀ stop, t.readString space address limit = .error stop ↔
        ∃ i < textLength z limit, Cells.FirstMissing (cells space) address i stop) ∧
      ∀ bytes, t.readString space address limit = .ok bytes →
        (∀ l ≤ limit, t.readString space address l = .ok (bytes.take l)) ∧
        t.readString space address bytes.length = .ok bytes := by
  refine ⟨Cells.exists_firstZero _ _, fun z first limit => ?_⟩
  simp only [readString_eq_read memory first]
  refine ⟨fun bytes => memory.read_eq_ok_iff, fun stop => memory.read_eq_error_iff,
    fun bytes whole => ?_⟩
  have count : bytes.length = textLength z limit := t.read_length whole
  have cut : ∀ l ≤ limit, t.read space address (textLength z l) = .ok (bytes.take l) := by
    intro l less
    have shorter := textLength_of_le z less
    rw [memory.read_take whole (shorter ▸ Nat.min_le_right _ _), shorter, ← count,
      ← List.take_eq_take_min]
  have again := cut bytes.length (count ▸ textLength_le z limit)
  rw [List.take_length] at again
  exact ⟨cut, again⟩

/-- A target that holds a string of three bytes around the end of the space, and nothing else. -/
def aroundTheEnd : Target :=
  Cells.target
    (fun _ a =>
      match [((0xfffffffffffffffe : UInt64), (0x61 : UInt8)), (0xffffffffffffffff, 0x62), (0, 0x63),
          (1, 0)].lookup a with
      | some byte => .ok byte
      | none => .fail (.unreadable a "page not present"))
    catalogueTypes fun name => .fail (.unknownSymbol name)

/-- The string is read though nothing lies behind it, and cut to two bytes by a limit. -/
theorem readString_aroundTheEnd :
    aroundTheEnd.readString (.user 0x1000) 0xfffffffffffffffe 256 = .ok [0x61, 0x62, 0x63] ∧
    aroundTheEnd.readString (.user 0x1000) 0xfffffffffffffffe 2 = .ok [0x61, 0x62] ∧
    aroundTheEnd.read (.user 0x1000) 0xfffffffffffffffe 5 =
      .error (.failure (.unreadable 2 "page not present")) := by
  have memory : ∃ cells, aroundTheEnd.Bytewise cells ∧
      Cells.FirstZero (cells (.user 0x1000)) 0xfffffffffffffffe (some 3) ∧
      Cells.Holds (cells (.user 0x1000)) 0xfffffffffffffffe [0x61, 0x62, 0x63] := by
    refine ⟨_, Cells.bytewise_target _ _ fun space address stop missing => ?_, ⟨?_, ?_⟩, ?_⟩
    · split at missing
      · cases missing
      · cases missing
        exact ⟨_, rfl⟩
    · rintro n ⟨⟩
      rfl
    · intro k before
      match k, before 3 rfl with
      | 0, _ => exact nofun
      | 1, _ => exact nofun
      | 2, _ => exact nofun
    · rw [Cells.holds_cons, Cells.holds_cons, Cells.holds_cons]
      exact ⟨rfl, rfl, rfl, Cells.holds_nil⟩
  obtain ⟨cells, memory, first, held⟩ := memory
  obtain ⟨read, -, cut⟩ := (readString_firstZero memory (.user 0x1000) 0xfffffffffffffffe).2
    (some 3) first 256
  have whole := (read [0x61, 0x62, 0x63]).2 ⟨rfl, held⟩
  exact ⟨whole, (cut _ whole).1 2 (by decide), rfl⟩

end Target

end SyscallDecode
