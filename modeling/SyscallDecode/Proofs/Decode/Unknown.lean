/-
Calls of which no signature is known. Their registers are shown as they are, and nobody is asked for
anything: neither the target nor the process, however they would answer, nor the choices for decoding
have a part in the report.
-/
import SyscallDecode.Proofs.Decode.Report
import SyscallDecode.Proofs.Text.Numeral

namespace SyscallDecode

open SyscallDecode.Text

/-! ## Registers as they are -/

/-- What is shown of a register: the numeral of the value that its text is read as, or that it is
missing, or that its text is none. -/
inductive Shows (index : Nat) : Option String → String → Prop
  | value {text : String} {value : UInt64} (h : readHexWord (trim text.toList) = .ok value) :
      Shows index (some text) ("0x" ++ hex value.toNat)
  | missing :
      Shows index none ("register for argument " ++ toString index ++ " was not supplied")
  | malformed {text : String} {fault : NumeralFault}
      (h : readHexWord (trim text.toList) = .error fault) :
      Shows index (some text)
        ("register for argument " ++ toString index ++ " is not a hex value: " ++ quote text)

variable {call : Invocation}

theorem shows_registerLine (index : Nat) :
    Shows index (call.registers.at? index) (Decode.registerLine call index).text := by
  unfold Decode.registerLine Invocation.register readRegister
  cases call.registers.at? index with
  | none => exact .missing
  | some text =>
    dsimp only
    cases read : readHexWord (trim text.toList) with
    | ok value => exact .value read
    | error fault => exact .malformed read

/-- The digits of a numeral in lower case. -/
def lowerDigits : List Char :=
  "0123456789abcdef".toList

theorem mem_lowerDigits_of_mem_hex (n : Nat) : ∀ c ∈ (hex n).toList, c ∈ lowerDigits := by
  have digits : ∀ d < 16, Nat.digitChar d ∈ lowerDigits := by decide
  intro c hc
  unfold hex at hc
  rw [String.toList_ofList] at hc
  obtain ⟨d, small, rfl⟩ := mem_toDigits (by decide) n c hc
  exact digits d small

/-- What is shown of a register that can be read is a text for the same value. -/
theorem readRegister_of_shows {index : Nat} {text : Option String} {shown : String}
    (h : Shows index text shown) {value : UInt64} (read : readRegister index text = .ok value) :
    shown = "0x" ++ hex value.toNat ∧ readHexWord shown.toList = .ok value := by
  have same : shown = "0x" ++ hex value.toNat := by
    cases h with
    | missing => cases read
    | value h =>
      simp only [readRegister, h] at read
      cases read
      rfl
    | malformed h =>
      simp only [readRegister, h] at read
      cases read
  refine ⟨same, ?_⟩
  rw [same]
  exact readHexWord_hexMarked value

/-! ## The report -/

/-- The report of a call whose registers are shown as they are. -/
structure DumpOf (registers : RegisterTexts) (r : Report) : Prop where
  notices : r.notices = ["unknown signature, dumping registers"]
  names : r.lines.map Line.name = ["arg0", "arg1", "arg2", "arg3", "arg4", "arg5"]
  texts : ∀ i : Fin argumentRegisters,
    ∃ line, r.lines[i.val]? = some line ∧ Shows i (registers i) line.text
  memoryMap : r.memoryMap = none
  diagnostics : r.diagnostics = []

namespace Decode

theorem dumpOf_bareReport (call : Invocation) : DumpOf call.registers (bareReport call) where
  notices := rfl
  names := rfl
  texts := by
    intro i
    have inside : call.registers.at? i = call.registers i := dif_pos i.isLt
    refine ⟨registerLine call i, ?_, inside ▸ shows_registerLine i.val⟩
    unfold bareReport
    rw [List.getElem?_map, List.getElem?_range i.isLt]
    rfl
  memoryMap := rfl
  diagnostics := rfl

/-- Without a signature the six registers are shown as they are. A value is shown by digits in lower
case that read back as itself. Nothing is asked, so the report is the same on every target and for
every process, one that ends each decoding at once included. -/
theorem decode_unknown (unknown : Signature.find? call.number = none) (t : Target)
    (process : ProcessView) (config : Config) :
    DumpOf call.registers (decode t process config call) ∧
    (∀ (i : Fin argumentRegisters) (value : UInt64),
      readRegister i (call.registers i) = .ok value →
      ∃ line, (decode t process config call).lines[i.val]? = some line ∧
        line.text = "0x" ++ hex value.toNat ∧ (∀ c ∈ (hex value.toNat).toList, c ∈ lowerDigits) ∧
        readHexWord line.text.toList = .ok value) ∧
    (report config call).asked ⟨t, process⟩ = [] ∧
    ∀ (t' : Target) (process' : ProcessView) (config' : Config),
      decode t' process' config' call = decode t process config call := by
  have bare (t : Target) (process : ProcessView) (config : Config) :
      decode t process config call = bareReport call := by
    unfold decode
    rw [report_of_not_find? unknown]
    rfl
  refine ⟨?_, fun i value read => ?_, ?_, fun t' process' config' => ?_⟩
  · rw [bare]
    exact dumpOf_bareReport call
  · rw [bare]
    obtain ⟨line, at_index, shows⟩ := (dumpOf_bareReport call).texts i
    obtain ⟨numeral, reads⟩ := readRegister_of_shows shows read
    exact ⟨line, at_index, numeral, mem_lowerDigits_of_mem_hex _, reads⟩
  · rw [report_of_not_find? unknown]
    rfl
  · rw [bare, bare]

/-- A target that ends each decoding with its first answer. -/
def hostile : Target where
  typeNamed := fun _ => .abort .unexplained
  read := fun _ _ _ => .abort .unexplained
  symbol := fun _ => .abort .unexplained
  read_length := nofun

/-- A call of the last number there is, with a register in upper case, two that are missing, a
negative one, an empty one and the largest. -/
def strangeCall : Invocation :=
  ⟨0xffffffffffffffff,
    .ofList [some " 0XfF\n", none, some "-1", some "", none, some "0x+ffffffffffffffff"], 0x1000⟩

theorem decode_unknown_strangeCall :
    Signature.find? strangeCall.number = none ∧
    DumpOf strangeCall.registers
      (decode hostile ⟨fun _ => .abort .unexplained, .abort .unexplained⟩ {} strangeCall) ∧
    (decode hostile ⟨fun _ => .abort .unexplained, .abort .unexplained⟩ {} strangeCall).lines.map
        Line.text =
      ["0xff", "register for argument 1 was not supplied",
        "register for argument 2 is not a hex value: \"-1\"",
        "register for argument 3 is not a hex value: \"\"",
        "register for argument 4 was not supplied", "0xffffffffffffffff"] := by
  have unknown : Signature.find? strangeCall.number = none := by decide
  exact ⟨unknown, (decode_unknown unknown hostile _ {}).1, by decide⟩

end Decode

end SyscallDecode
