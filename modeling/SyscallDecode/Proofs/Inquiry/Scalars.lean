/-
Two readings of a scalar. A cursor gives the word that lies at an address, and the text of the value
is printed from the same bytes; both come of one read, so that they fail together, and what is printed
is the word as the kind of the scalar reads it. A signed number is printed as the one number of its
range that the word stands for.
-/
import Mathlib.Algebra.BigOperators.Ring.Finset
import Mathlib.Tactic.Ring
import SyscallDecode.Proofs.Inquiry.Pointers
import SyscallDecode.Proofs.Target.Bytes

namespace SyscallDecode

open SyscallDecode.Text

/-! ## Words and their bytes -/

/-- Each byte of a number weighs 256 times as much as the one before it. -/
theorem littleEndian_eq_sum (bytes : List UInt8) :
    littleEndian bytes = ∑ i ∈ Finset.range bytes.length, (bytes.getD i 0).toNat * 256 ^ i := by
  induction bytes with
  | nil => simp [littleEndian]
  | cons b bytes ih =>
    rw [littleEndian, ih, List.length_cons, Finset.sum_range_succ', Finset.mul_sum, Nat.add_comm]
    congr 1
    · refine Finset.sum_congr rfl fun i _ => ?_
      rw [List.getD_cons_succ, pow_succ]
      ring
    · simp

/-- The bytes of a number, the lowest first; what does not fit is lost. -/
def littleBytes : Nat → Nat → List UInt8
  | 0, _ => []
  | size + 1, value => UInt8.ofNat value :: littleBytes size (value / 256)

theorem length_littleBytes (size value : Nat) : (littleBytes size value).length = size := by
  induction size generalizing value with
  | zero => rfl
  | succ size ih => rw [littleBytes, List.length_cons, ih]

theorem littleEndian_littleBytes (size value : Nat) :
    littleEndian (littleBytes size value) = value % 256 ^ size := by
  induction size generalizing value with
  | zero => simp [littleBytes, littleEndian, Nat.mod_one]
  | succ size ih =>
    have byte : (UInt8.ofNat value).toNat = value % 256 := UInt8.toNat_ofNat'
    rw [littleBytes, littleEndian, ih, byte, pow_succ', Nat.mod_mul]

/-! ## Signed numbers -/

/-- What so many bytes hold with a sign. -/
def InSignedRange (size : Nat) (i : Int) : Prop :=
  -2 ^ (8 * size - 1) ≤ i ∧ i < 2 ^ (8 * size - 1)

/-- The number lies in the range of so many bytes and agrees with the word on their bits. -/
def SignedOf (size : Nat) (u : UInt64) (i : Int) : Prop :=
  InSignedRange size i ∧ i % 2 ^ (8 * size) = u.toNat % 2 ^ (8 * size)

/-- The range of so many bytes has as many numbers as they have patterns. -/
theorem two_mul_half {size : Nat} (some : 0 < size) :
    (2 : Int) * 2 ^ (8 * size - 1) = 2 ^ (8 * size) := by
  rw [← pow_succ', Nat.sub_add_cancel (by omega)]

theorem signedOf_signedValue {size : Nat} (some : 0 < size) (small : size ≤ 8) (u : UInt64) :
    SignedOf size u (signedValue u size) := by
  have half := two_mul_half some
  have pos : 0 < 2 ^ (8 * size) := Nat.two_pow_pos _
  have low := Int.le_bmod (x := u.toNat) pos
  have high := Int.bmod_lt (x := u.toNat) pos
  have same := Int.bmod_emod (x := u.toNat) (m := 2 ^ (8 * size))
  rw [signedValue_eq_bmod some small]
  push_cast at low high same
  exact ⟨⟨by omega, by omega⟩, same⟩

/-- No other number of the range has these bits. -/
theorem SignedOf.eq_signedValue {size : Nat} {u : UInt64} {i : Int} (some : 0 < size)
    (small : size ≤ 8) (h : SignedOf size u i) : i = signedValue u size := by
  obtain ⟨⟨low, high⟩, same⟩ := h
  have half := two_mul_half some
  have reduce (x : Int) :
      Int.bmod (x % 2 ^ (8 * size)) (2 ^ (8 * size)) = Int.bmod x (2 ^ (8 * size)) := by
    have reduced := @Int.emod_bmod x (2 ^ (8 * size))
    push_cast at reduced
    exact reduced
  calc i = Int.bmod i (2 ^ (8 * size)) := by
        symm
        apply Int.bmod_eq_of_le_mul_two <;> push_cast <;> omega
    _ = Int.bmod u.toNat (2 ^ (8 * size)) := by rw [← reduce i, same, reduce]
    _ = signedValue u size := (signedValue_eq_bmod some small u).symm

/-- The bytes of a number with a sign, the lowest first. -/
def signedBytes (size : Nat) (i : Int) : List UInt8 :=
  littleBytes size (i % 2 ^ (8 * size)).toNat

/-- A number of the range is the value of its bytes. -/
theorem signedValue_signedBytes {size : Nat} (some : 0 < size) (small : size ≤ 8) {i : Int}
    (inside : InSignedRange size i) :
    signedValue (scalarValue (signedBytes size i)) size = i := by
  have patterns : (256 : Nat) ^ size = 2 ^ (8 * size) := by
    rw [pow_mul]
    rfl
  have pos : (0 : Int) < 2 ^ (8 * size) := Int.pow_pos (by decide)
  have low := Int.emod_nonneg i pos.ne'
  have high := Int.emod_lt_of_pos i pos
  have fits : (i % 2 ^ (8 * size)).toNat < 2 ^ (8 * size) := by
    rw [Int.toNat_lt low]
    push_cast
    exact high
  have word : ((scalarValue (signedBytes size i)).toNat : Int) = i % 2 ^ (8 * size) := by
    unfold signedBytes
    rw [toNat_scalarValue ((length_littleBytes _ _).trans_le small), littleEndian_littleBytes,
      patterns, Nat.mod_eq_of_lt fits, Int.toNat_of_nonneg low]
  refine (SignedOf.eq_signedValue some small ⟨inside, ?_⟩).symm
  rw [word, Int.emod_emod]

/-! ## The text of a scalar -/

/-- What the text of a scalar says of its word. -/
def ScalarKind.Tells (size : Nat) (u : UInt64) (text : String) : ScalarKind → Prop
  | .signed => 0 < size → ∃ i, (∀ j, SignedOf size u j ↔ j = i) ∧ text = toString i
  | .unsigned => text = toString u.toNat
  | .char => text = toString (u.toNat % 256) ++
      if 0x20 ≤ u.toNat % 256 ∧ u.toNat % 256 ≤ 0x7E then
        " '" ++ String.ofList [Char.ofNat (u.toNat % 256)] ++ "'"
      else ""
  | .pointer => text = if u = 0 then "NULL" else hexMarked u.toNat

theorem CType.renderScalar_tells (kind : ScalarKind) {size : Nat} (small : size ≤ 8)
    (bytes : List UInt8) :
    kind.Tells size (scalarValue bytes) (renderScalar kind size bytes) := by
  cases kind with
  | signed =>
    intro some
    refine ⟨_, fun j => ⟨fun h => h.eq_signedValue some small, ?_⟩, rfl⟩
    rintro rfl
    exact signedOf_signedValue some small _
  | unsigned => rfl
  | char =>
    have byte : (scalarValue bytes).toUInt8.toNat = (scalarValue bytes).toNat % 256 :=
      UInt64.toNat_toUInt8 _
    have graphic : isGraphic (scalarValue bytes).toUInt8 = true ↔
        0x20 ≤ (scalarValue bytes).toNat % 256 ∧ (scalarValue bytes).toNat % 256 ≤ 0x7E := by
      unfold isGraphic
      rw [Bool.and_eq_true, decide_eq_true_iff, decide_eq_true_iff, UInt8.le_iff_toNat_le,
        UInt8.le_iff_toNat_le, byte]
      rfl
    unfold renderScalar ScalarKind.Tells
    dsimp only
    rw [byte]
    by_cases shown : isGraphic (scalarValue bytes).toUInt8 = true
    · rw [if_pos shown, if_pos (graphic.1 shown)]
      simp only [String.append_assoc]
    · rw [if_neg shown, if_neg fun h => shown (graphic.2 h), String.append_empty]
  | pointer => rfl

/-! ## Both readings -/

namespace Target

variable (t : Target) (space : AddressSpace) (address : UInt64) (name : String) (size : Nat)
  (kind : ScalarKind)

/-- A scalar is read as the word of its bytes, and printed as what the word stands for. -/
structure ScalarRead (bytes : List UInt8) (u : UInt64) (text : String) : Prop where
  read : t.read space address size = .ok bytes
  word : u.toNat = ∑ i ∈ Finset.range size, (bytes.getD i 0).toNat * 256 ^ i
  value : (Cursor.value ⟨address, some (.scalar name size kind)⟩ space).on t.world = .ok u
  shown : (Cursor.render ⟨address, some (.scalar name size kind)⟩ space).on t.world = .ok text
  rendered : t.renderAt space (.scalar name size kind) address = .ok text
  tells : kind.Tells size u text

/-- A scalar is neither read nor printed, for the same reason. -/
structure ScalarLost (stop : Stop) : Prop where
  read : t.read space address size = .error stop
  value : (Cursor.value ⟨address, some (.scalar name size kind)⟩ space).on t.world = .error stop
  shown : (Cursor.render ⟨address, some (.scalar name size kind)⟩ space).on t.world = .error stop
  rendered : t.renderAt space (.scalar name size kind) address = .error stop

variable {size}

theorem on_value_scalar (small : size ≤ 8) :
    (Cursor.value ⟨address, some (.scalar name size kind)⟩ space).on t.world =
      (t.read space address size).map scalarValue := by
  have asked : (Reading.bytes space address (min size 8)).on t.world = t.read space address size := by
    rw [Nat.min_eq_left small]
    rfl
  have typed : (Cursor.value ⟨address, some (.scalar name size kind)⟩ space).on t.world =
      (Reading.unsigned space address size).on t.world := by
    show (if decide (size ≤ 8) = true then Reading.unsigned space address size else _).on t.world = _
    rw [if_pos (decide_eq_true small)]
  rw [typed, Reading.unsigned, Course.on_bind, asked]
  cases t.read space address size with
  | ok bytes => exact congrArg Except.ok (WordBuffer.word_write_zero_eq_scalarValue bytes)
  | error stop => rfl

/-- The word at an address and the text of a scalar there are had together or not at all, and then for
the same reason. The word is the sum of the bytes by their weights; the text is its decimal form, the
number with a sign that it stands for, an address, or a character. What is written of a number with a
sign is shown as this number. -/
theorem scalar_read_or_lost (small : size ≤ 8) :
    ((∃ bytes u text, t.ScalarRead space address name size kind bytes u text) ∨
      ∃ stop, t.ScalarLost space address name size kind stop) ∧
    ∀ i, 0 < size → InSignedRange size i →
      t.read space address size = .ok (signedBytes size i) →
      t.renderAt space (.scalar name size .signed) address = .ok (toString i) := by
  have value := t.on_value_scalar space address name kind small
  have rendered := t.renderAt_eq_map space address (.scalar name size kind)
  have shown : (Cursor.render ⟨address, some (.scalar name size kind)⟩ space).on t.world =
      t.renderAt space (.scalar name size kind) address := rfl
  constructor
  · cases read : t.read space address size with
    | ok bytes =>
      left
      rw [read] at value
      rw [CType.size, read] at rendered
      have length := t.read_length read
      refine ⟨bytes, scalarValue bytes, CType.renderScalar kind size bytes, ?_⟩
      have text : (CType.scalar name size kind).render bytes =
          CType.renderScalar kind size bytes := by
        rw [CType.render, CType.renderValue, List.take_of_length_le (Nat.le_of_eq length)]
      rw [Except.map, text] at rendered
      constructor
      case read => exact read
      case word => rw [toNat_scalarValue (length.trans_le small), littleEndian_eq_sum, length]
      case value => exact value
      case shown => rw [shown, rendered]
      case rendered => exact rendered
      case tells => exact CType.renderScalar_tells kind small bytes
    | error stop =>
      right
      rw [read] at value
      rw [CType.size, read] at rendered
      exact ⟨stop, read, value, shown.trans rendered, rendered⟩
  · intro i some inside written
    have length := t.read_length written
    rw [t.renderAt_eq_map, CType.size, written]
    show Except.ok ((CType.scalar name size .signed).render (signedBytes size i)) = _
    rw [CType.render, CType.renderValue, List.take_of_length_le (Nat.le_of_eq length)]
    show Except.ok (toString (signedValue (scalarValue (signedBytes size i)) size)) = _
    rw [signedValue_signedBytes some small inside]

/-- A target with the number -3 in four bytes. -/
def minusThree : Target :=
  Cells.target (fun _ a => .ok (if a = 0x6000 then 0xFD else 0xFF)) catalogueTypes
    fun name => .fail (.unknownSymbol name)

/-- The number is shown as such, and its word is that of its bytes. -/
theorem scalar_minusThree :
    minusThree.renderAt (.user 0x1000) (.scalar "int" 4 .signed) 0x6000 = .ok "-3" ∧
      (Cursor.value ⟨0x6000, some (.scalar "int" 4 .signed)⟩ (.user 0x1000)).on minusThree.world =
        .ok 0xFFFFFFFD := by
  obtain ⟨found | ⟨stop, lost⟩, written⟩ :=
    minusThree.scalar_read_or_lost (.user 0x1000) 0x6000 "int" .signed (show 4 ≤ 8 by decide)
  · obtain ⟨bytes, u, text, found⟩ := found
    have read : minusThree.read (.user 0x1000) 0x6000 4 = .ok (signedBytes 4 (-3)) := rfl
    refine ⟨written (-3) (by decide) ⟨by decide, by decide⟩ read, ?_⟩
    cases found.read.symm.trans read
    have word : u = 0xFFFFFFFD := UInt64.toNat_inj.1 (found.word.trans (by decide))
    rw [found.value, word]
  · cases lost.read

end Target

end SyscallDecode
