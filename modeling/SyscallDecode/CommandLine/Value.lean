/-
Reading the values of options. Numbers of the user are decimal; addresses and registers are
hexadecimal words, without white space around them.
-/
import SyscallDecode.CommandLine.Refusal
import SyscallDecode.Text.Numeral
import SyscallDecode.Text.Quoted

namespace SyscallDecode.CommandLine

open SyscallDecode.Text

/-! ## Hexadecimal words -/

/-- A text that is not a hexadecimal word, and why. -/
structure NotHex where
  text : String
  fault : NumeralFault
  deriving DecidableEq, Repr

/-- The reason in words. -/
def NotHex.message (n : NotHex) : String :=
  quote n.text ++ " is not hex: " ++ n.fault.message

/-- A hexadecimal word with an optional mark. -/
def readHex (text : String) : Except NotHex UInt64 :=
  match readHexWord text.toList with
  | .ok value => .ok value
  | .error fault => .error ⟨text, fault⟩

/-! ## Option values -/

/-- The value of an option, or the refusal when it cannot be read. -/
def orRefuse {ε α : Type} (result : Except ε α) : Except Refusal α :=
  match result with
  | .ok value => .ok value
  | .error _ => .error .badValue

/-- A register or an address. -/
def readRegisterValue (text : String) : Except Refusal UInt64 :=
  orRefuse (readHex text)

/-- A count or a call number. -/
def readCount (text : String) : Except Refusal UInt64 :=
  orRefuse ((readUnsigned 10 UInt64.size text.toList).map UInt64.ofNat)

/-- The number of a process. -/
def readProcess (text : String) : Except Refusal Int32 :=
  orRefuse ((readSigned 0x80000000 text.toList).map Int32.ofInt)

/-- A file name; the empty one names nothing. -/
def readPath (text : String) : Except Refusal String :=
  if text.isEmpty then .error .missingValue else .ok text

/-- A hexadecimal word of the command line is one that a register may hold. -/
theorem readRegisterValue_eq_ok {text : String} {value : UInt64} :
    readRegisterValue text = .ok value ↔ readHex text = .ok value := by
  unfold readRegisterValue orRefuse
  cases readHex text <;> simp

end SyscallDecode.CommandLine
