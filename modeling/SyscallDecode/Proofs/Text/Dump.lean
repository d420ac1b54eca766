/-
Dumps of bytes read back. A dump at the beginning of a text tells all its bytes, where what follows
behind a blank is not taken for more of them.
-/
import SyscallDecode.Proofs.Terminal.Safe
import SyscallDecode.Proofs.Text.Numeral
import SyscallDecode.Text.Dump

namespace SyscallDecode.Text

/-- The bytes of the dump that stands at the beginning of a text. -/
def readDump : List Char → List UInt8
  | high :: low :: rest =>
    match digitValue? 16 high, digitValue? 16 low with
    | some high, some low =>
      UInt8.ofNat (16 * high + low) ::
        match rest with
        | ' ' :: rest => readDump rest
        | _ => []
    | _, _ => []
  | _ => []

theorem readDump_blank (rest : List Char) : readDump (' ' :: rest) = [] := by
  cases rest with
  | nil => rfl
  | cons c rest => rfl

/-- The two digits of a byte read as that byte, whatever comes behind the next blank. -/
theorem readDump_hexPair (b : UInt8) (rest : List Char) :
    readDump (hexPair b ++ ' ' :: rest) = b :: readDump rest := by
  have small := b.toNat_lt
  have high := digitValue?_digitChar (b.toNat / 16) (by omega)
  have low := digitValue?_digitChar (b.toNat % 16) (by omega)
  have byte : UInt8.ofNat (16 * (b.toNat / 16) + b.toNat % 16) = b := by
    rw [Nat.div_add_mod, UInt8.ofNat_toNat]
  unfold hexPair
  rw [List.cons_append, List.cons_append, List.nil_append, readDump]
  simp only [high, low, byte]

theorem toList_hexDump (bytes : List UInt8) :
    (hexDump bytes).toList = [' '].intercalate (bytes.map hexPair) := by
  unfold hexDump
  rw [String.toList_intercalate, List.map_map]
  congr 1
  exact List.map_congr_left fun b _ => String.toList_ofList

/-- A dump has blanks and digits only. -/
theorem mem_hexDump {bytes : List UInt8} {c : Char} (h : c ∈ (hexDump bytes).toList) :
    c = ' ' ∨ ∃ d < 16, c = Nat.digitChar d := by
  rw [toList_hexDump] at h
  rcases mem_intercalate h with blank | ⟨pair, hp, hc⟩
  · exact .inl (List.mem_singleton.1 blank)
  · obtain ⟨b, -, rfl⟩ := List.mem_map.1 hp
    have small := b.toNat_lt
    simp only [hexPair, List.mem_cons, List.not_mem_nil, or_false] at hc
    rcases hc with rfl | rfl
    · exact .inr ⟨_, by omega, rfl⟩
    · exact .inr ⟨_, by omega, rfl⟩

theorem notMem_hexDump_of_foreign {c : Char} (blank : c ≠ ' ') (foreign : Foreign c)
    (bytes : List UInt8) : c ∉ (hexDump bytes).toList := by
  intro h
  rcases mem_hexDump h with rfl | ⟨d, small, rfl⟩
  · exact blank rfl
  · exact foreign.2.2 d small rfl

theorem readDump_hexDump (bytes : List UInt8) {rest : List Char} (h : readDump rest = []) :
    readDump ((hexDump bytes).toList ++ ' ' :: rest) = bytes := by
  rw [toList_hexDump]
  induction bytes with
  | nil => exact readDump_blank rest
  | cons b bytes ih =>
    cases bytes with
    | nil =>
      have single : [' '].intercalate ([b].map hexPair) = hexPair b := by simp
      rw [single, readDump_hexPair, h]
    | cons b' bytes =>
      rw [List.map_cons, List.map_cons, List.intercalate_cons_cons, List.append_assoc,
        List.append_assoc, List.singleton_append, readDump_hexPair]
      exact congrArg (b :: ·) ih

theorem hexDump_inj {bytes bytes' : List UInt8} (h : hexDump bytes = hexDump bytes') :
    bytes = bytes' := by
  have read := @readDump_hexDump bytes [] rfl
  rw [h, readDump_hexDump bytes' rfl] at read
  exact read.symm

end SyscallDecode.Text
