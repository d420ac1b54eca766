/-
Machine words by shifts. A buffer of eight bytes holds the number that they stand for, whether the
bytes were copied into it or read over it, and shifting the bits above a word out and back in leaves
the one signed number of its width that agrees with it.
-/
import Mathlib.Data.List.GetD
import Mathlib.Tactic.NormNum
import Mathlib.Tactic.Ring
import SyscallDecode.CType.Render

namespace SyscallDecode

/-! ## Numbers by bytes -/

/-- The number that so many bytes can stand for at most. -/
theorem littleEndian_lt (bytes : List UInt8) : littleEndian bytes < Nat.pow 256 bytes.length := by
  induction bytes with
  | nil => exact Nat.one_pos
  | cons b bytes ih =>
    have byte := b.toNat_lt
    have power : Nat.pow 256 (b :: bytes).length = Nat.pow 256 bytes.length * 256 := rfl
    rw [littleEndian, power]
    omega

/-- Zeros behind the highest byte do not count. -/
theorem littleEndian_append_zeros (bytes : List UInt8) (n : Nat) :
    littleEndian (bytes ++ List.replicate n 0) = littleEndian bytes := by
  have zeros : littleEndian (List.replicate n 0) = 0 := by
    induction n with
    | zero => rfl
    | succ n ih =>
      rw [List.replicate_succ, littleEndian, ih]
      rfl
  induction bytes with
  | nil => exact zeros
  | cons b bytes ih => rw [List.cons_append, littleEndian, ih, littleEndian]

/-! ## Words by shifts -/

/-- One more byte goes below a word that has room for it. -/
theorem toNat_shiftLeft_or {word : UInt64} (room : word.toNat < 2 ^ 56) (b : UInt8) :
    (word <<< 8 ||| b.toUInt64).toNat = b.toNat + 256 * word.toNat := by
  have byte : b.toNat < 2 ^ 8 := b.toNat_lt
  have shifted : (word <<< 8).toNat = word.toNat <<< 8 := by
    rw [UInt64.toNat_shiftLeft, Nat.shiftLeft_eq]
    show word.toNat * 2 ^ 8 % 2 ^ 64 = _
    rw [Nat.mod_eq_of_lt (by omega), Nat.shiftLeft_eq]
  rw [UInt64.toNat_or, shifted, UInt8.toNat_toUInt64, ← Nat.shiftLeft_add_eq_or_of_lt byte,
    Nat.shiftLeft_eq]
  omega

/-- Shifted together, eight bytes lose nothing. -/
theorem toNat_foldr_shift {bytes : List UInt8} (short : bytes.length ≤ 8) :
    UInt64.toNat (bytes.foldr (fun b word => word <<< 8 ||| b.toUInt64) 0) =
      littleEndian bytes := by
  induction bytes with
  | nil => rfl
  | cons b bytes ih =>
    rw [List.length_cons] at short
    have rest := ih (by omega)
    have room : littleEndian bytes < 2 ^ 56 :=
      calc littleEndian bytes < 256 ^ bytes.length := littleEndian_lt bytes
        _ ≤ 256 ^ 7 := Nat.pow_le_pow_right (by decide) (by omega)
        _ = 2 ^ 56 := by decide
    rw [List.foldr_cons, toNat_shiftLeft_or (by rwa [rest]), rest, littleEndian]

namespace WordBuffer

theorem toNat_word (buffer : WordBuffer) :
    buffer.word.toNat = littleEndian (List.ofFn buffer) := by
  have listed : List.ofFn buffer = (List.finRange 8).map buffer := List.map_ofFn.symm
  rw [← toNat_foldr_shift (Nat.le_of_eq List.length_ofFn), listed, List.foldr_map, word,
    Fin.foldr_eq_finRange_foldr]

/-- Bytes written over zeros are followed by those that are left. -/
theorem ofFn_write_zero (bytes : List UInt8) :
    List.ofFn (zero.write bytes) = bytes.take 8 ++ List.replicate (8 - bytes.length) 0 := by
  apply List.ext_getElem
  · simp only [List.length_ofFn, List.length_append, List.length_take, List.length_replicate]
    omega
  · intro i hi hi'
    rw [List.length_ofFn] at hi
    rw [List.getElem_ofFn, List.getElem_append, write, zero]
    split
    · next inside =>
      rw [List.length_take] at inside
      rw [List.getElem_take, List.getD_eq_getElem _ _ (show i < _ by omega)]
    · next outside =>
      rw [List.length_take] at outside
      rw [List.getElem_replicate, List.getD_eq_default _ _ (show _ ≤ i by omega)]

/-- The word in a buffer that was written is the number of the bytes that fit. -/
theorem word_write_zero (bytes : List UInt8) :
    (zero.write bytes).word = UInt64.ofNat (littleEndian (bytes.take 8)) := by
  have number : (zero.write bytes).word.toNat = littleEndian (bytes.take 8) := by
    rw [toNat_word, ofFn_write_zero, littleEndian_append_zeros]
  rw [← number, UInt64.ofNat_toNat]

end WordBuffer

/-- Bytes that are copied into a buffer are those that fit. -/
theorem scalarValue_eq_ofNat (bytes : List UInt8) :
    scalarValue bytes = UInt64.ofNat (littleEndian (bytes.take 8)) := by
  have fit : (bytes.take (min bytes.length 8)).take 8 = bytes.take 8 := by
    rw [List.take_take, Nat.min_left_comm, Nat.min_self, Nat.min_comm, ← List.take_eq_take_min]
  rw [scalarValue, WordBuffer.word_write_zero, fit]

/-- Bytes that are read over a buffer and those that are copied into one make the same word. -/
theorem WordBuffer.word_write_zero_eq_scalarValue (bytes : List UInt8) :
    (zero.write bytes).word = scalarValue bytes := by
  rw [word_write_zero, scalarValue_eq_ofNat]

/-- A word of at most eight bytes is the number that they stand for. -/
theorem toNat_scalarValue {bytes : List UInt8} (short : bytes.length ≤ 8) :
    (scalarValue bytes).toNat = littleEndian bytes := by
  have bound : littleEndian bytes < UInt64.size :=
    calc littleEndian bytes < Nat.pow 256 bytes.length := littleEndian_lt bytes
      _ ≤ 256 ^ 8 := Nat.pow_le_pow_right (by decide) short
      _ = UInt64.size := by decide
  rw [scalarValue_eq_ofNat, List.take_of_length_le short, UInt64.toNat_ofNat',
    Nat.mod_eq_of_lt bound]

/-- Bytes behind the first eight do not count. -/
theorem scalarValue_take (bytes : List UInt8) : scalarValue (bytes.take 8) = scalarValue bytes := by
  rw [scalarValue_eq_ofNat, scalarValue_eq_ofNat, List.take_take, Nat.min_self]

/-! ## Signed words by shifts -/

/-- Scaling both sides of a balanced residue by a power of two scales the residue. -/
theorem mul_two_pow_bmod (x : Int) (s k : Nat) :
    Int.bmod (x * 2 ^ s) (2 ^ (s + (k + 1))) = Int.bmod x (2 ^ (k + 1)) * 2 ^ s := by
  have scale : (0 : Int) < 2 ^ s := Int.pow_pos (by decide)
  have half : ((2 ^ (k + 1) : Nat) : Int) = 2 * 2 ^ k := by push_cast; ring
  have whole : ((2 ^ (s + (k + 1)) : Nat) : Int) = 2 * (2 ^ k * 2 ^ s) := by push_cast; ring
  obtain ⟨low, high, same⟩ := (Int.bmod_eq_iff (a := x) (Nat.two_pow_pos (k + 1))).1 rfl
  rw [half] at low high same
  rw [Int.bmod_eq_iff (Nat.two_pow_pos _), whole]
  generalize Int.bmod x (2 ^ (k + 1)) = r at low high same ⊢
  have low' := Int.mul_le_mul_of_nonneg_right (show -(2 ^ k) ≤ r by omega) scale.le
  have high' := Int.mul_lt_mul_of_pos_right (show r < 2 ^ k by omega) scale
  rw [Int.neg_mul] at low'
  refine ⟨by omega, by omega, ?_⟩
  rw [← Int.sub_mul, ← Int.mul_assoc]
  exact Int.mul_dvd_mul_right _ same

theorem toInt_toInt64 (value : UInt64) : value.toInt64.toInt = Int.bmod value.toNat (2 ^ 64) :=
  BitVec.toInt_eq_toNat_bmod _

/-- A shift to the right of a signed word divides it, rounding down. -/
theorem toInt_shiftRight (x y : Int64) :
    (x >>> y).toInt = x.toInt / 2 ^ (y.toBitVec.smod 64).toNat := by
  rw [← Int64.toInt_toBitVec, Int64.toBitVec_shiftRight]
  show (x.toBitVec.sshiftRight _).toInt = _
  rw [BitVec.toInt_sshiftRight, Int.shiftRight_eq_div_pow]
  rfl

/-- The shifts of every narrow width stay below the width of a word, in both directions. -/
theorem signShift_toNat : ∀ size < 8, 0 < size →
    (UInt64.ofNat (64 - size * 8)).toNat = 64 - size * 8 ∧
      ((UInt64.ofNat (64 - size * 8)).toInt64.toBitVec.smod 64).toNat = 64 - size * 8 := by
  decide

/-- The bits above a word are shifted out and the sign is shifted back in: what is left is the
balanced residue of the word by its width. -/
theorem signedValue_eq_bmod {size : Nat} (some : 0 < size) (small : size ≤ 8) (value : UInt64) :
    signedValue value size = Int.bmod value.toNat (2 ^ (8 * size)) := by
  unfold signedValue signExtend
  split
  · next whole =>
    obtain rfl : size = 8 := by omega
    exact toInt_toInt64 value
  · next part =>
    obtain ⟨left, right⟩ := signShift_toNat size (by omega) some
    have width : (64 - size * 8) + (8 * size - 1 + 1) = 64 := by omega
    have bits : 8 * size - 1 + 1 = 8 * size := by omega
    have below : 64 - size * 8 < 64 := by omega
    have up : (value <<< UInt64.ofNat (64 - size * 8)).toInt64.toInt =
        Int.bmod value.toNat (2 ^ (8 * size)) * 2 ^ (64 - size * 8) :=
      calc (value <<< UInt64.ofNat (64 - size * 8)).toInt64.toInt
          = Int.bmod (value.toNat * 2 ^ (64 - size * 8)) (2 ^ 64) := by
            rw [toInt_toInt64, UInt64.toNat_shiftLeft, left, Nat.mod_eq_of_lt below,
              Nat.shiftLeft_eq, Int.natCast_emod, Int.emod_bmod]
            push_cast
            rfl
        _ = Int.bmod value.toNat (2 ^ (8 * size)) * 2 ^ (64 - size * 8) := by
            have scaled := mul_two_pow_bmod value.toNat (64 - size * 8) (8 * size - 1)
            rwa [width, bits] at scaled
    rw [toInt_shiftRight, up, right, Int.mul_ediv_cancel]
    positivity

end SyscallDecode
