/-
The grammar of register texts. A register is a hexadecimal word with white space around it, and an
option value is one without; both are read by the same grammar, and a text that does not follow it is
refused with all its white space.
-/
import SyscallDecode.CommandLine.Value
import SyscallDecode.Invocation.Binding
import SyscallDecode.Proofs.Text.Blank
import SyscallDecode.Proofs.Text.HexWord

namespace SyscallDecode

open SyscallDecode.Text

variable {index : Nat} {text : String}

theorem readRegister_eq_ok_iff {value : UInt64} :
    readRegister index (some text) = .ok value ↔ SpellsHex (trim text.toList) value.toNat := by
  rw [← readHexWord_eq_ok_iff, readRegister]
  cases readHexWord (trim text.toList) <;> simp

/-- A text that is refused spells no word, and is told as it was. -/
theorem readRegister_eq_error_iff {f : Failure} :
    readRegister index (some text) = .error f ↔
      f = .malformedRegister index text ∧
        ∀ n < UInt64.size, ¬ SpellsHex (trim text.toList) n := by
  have spelled : (∃ n < UInt64.size, SpellsHex (trim text.toList) n) ↔
      ∃ value, readHexWord (trim text.toList) = .ok value := by
    constructor
    · rintro ⟨n, fits, spelled⟩
      refine ⟨UInt64.ofNat n, readHexWord_eq_ok_iff.2 ?_⟩
      rwa [UInt64.toNat_ofNat', Nat.mod_eq_of_lt fits]
    · rintro ⟨value, read⟩
      exact ⟨value.toNat, value.toNat_lt_size, readHexWord_eq_ok_iff.1 read⟩
  have none : (∀ n < UInt64.size, ¬ SpellsHex (trim text.toList) n) ↔
      ¬ ∃ value, readHexWord (trim text.toList) = .ok value := by
    rw [← spelled]
    simp only [not_exists, not_and]
  rw [none, readRegister]
  cases readHexWord (trim text.toList) <;> simp [eq_comm]

theorem CommandLine.readHex_eq_ok_iff {value : UInt64} :
    readHex text = .ok value ↔ SpellsHex text.toList value.toNat := by
  rw [← readHexWord_eq_ok_iff, readHex]
  cases readHexWord text.toList <;> simp

/-- The value of a register is that of the word which its text spells between the white space at its
ends. A text that spells none, or one beyond 64 bits, is malformed, and told with its white space; a
register without a text is missing. Option values are words of the same grammar, without white space. -/
theorem registers_by_grammar (index : Nat) (text : String) (value : UInt64) :
    readRegister index none = .error (.missingRegister index) ∧
    (∃ core, (∀ cs, Strips text.toList cs ↔ cs = core) ∧
      (readRegister index (some text) = .ok value ↔ SpellsHex core value.toNat) ∧
      (readRegister index (some text) = .error (.malformedRegister index text) ↔
        ∀ n < UInt64.size, ¬ SpellsHex core n)) ∧
    (CommandLine.readHex text = .ok value ↔ SpellsHex text.toList value.toNat) := by
  refine ⟨rfl, ⟨trim text.toList, fun cs => strips_iff, readRegister_eq_ok_iff, ?_⟩,
    CommandLine.readHex_eq_ok_iff⟩
  rw [readRegister_eq_error_iff, and_iff_right rfl]

/-- Wide blanks, the mark, the sign, zeros and both cases in one text. -/
example : readRegister 0 (some "\u3000 0X+00fF\n") = .ok 255 := by
  decide +kernel

end SyscallDecode
