/-
Decoding a captured call into a report. Every argument is decoded on its own; an abort ends the
decoding, but what was decoded before it stays.
-/
import SyscallDecode.Decode.Argument
import SyscallDecode.Process.MemoryMap
import SyscallDecode.Report.Basic
import SyscallDecode.Signature.BareName
import SyscallDecode.Signature.Lookup

namespace SyscallDecode

open SyscallDecode.Text

namespace Decode

/-! ## Calls without a signature -/

/-- The line of a register as it is. -/
def registerLine (call : Invocation) (index : Nat) : Line where
  name := "arg" ++ toString index
  text :=
    match call.register index with
    | .ok value => hexMarked value.toNat
    | .error failure => failure.message

/-- The report of a call without a signature. -/
def bareReport (call : Invocation) : Report where
  header := bareCallName call.number ++ " (syscall " ++ toString call.number.toNat ++ ")"
  notices := ["unknown signature, dumping registers"]
  lines := (List.range argumentRegisters).map (registerLine call)

/-! ## Calls with a signature -/

/-- How far a decoding came. -/
structure Progress where
  /-- The arguments decoded, in order. -/
  lines : List Line := []
  /-- The state after them. -/
  state : State := {}
  /-- What ended the decoding, if anything did. -/
  abort : Option Abort := none

/-- The line of an argument. -/
def argumentLine (arg : Argument) (text : String) : Line :=
  ⟨arg.displayName, text, 1⟩

/-- Decodes arguments in order, until one aborts. -/
def arguments (ctx : Context) : State → List (Argument × Except Failure UInt64) →
    Inquiry Progress
  | s, [] => return { state := s }
  | s, (arg, register) :: rest => do
    match ← (argumentText ctx s arg register).ending with
    | .error abort => return { state := s, abort := some abort }
    | .ok (text, s) =>
      let later ← arguments ctx s rest
      return { later with lines := argumentLine arg text :: later.lines }

/-- The diagnostic of an abort. -/
def abortText (abort : Abort) : String :=
  "Exception in decode: " ++ abort.message

/-- The memory map, if it is wanted and due. -/
def memoryMap (config : Config) (due : Bool) : Telling (Option String) :=
  if config.memoryMap && due then do
    let areas ← Reading.areas.settle
    return some (MemoryMap.block config.pageSize areas)
  else return none

/-- What follows the arguments: nothing after an abort, else the memory map. It is due when the call
changes mappings or memory was missed. -/
def conclusion (config : Config) (signature : Signature) (progress : Progress) :
    Telling (Option String) :=
  match progress.abort with
  | some abort => .ofResult (.error abort)
  | none => memoryMap config (signature.changesMappings || progress.state.missed)

/-- The report with these lines and this conclusion. -/
def concluded (signature : Signature) (lines : List Line) : Except Abort (Option String) → Report
  | .ok map =>
    { header := signature.name ++ ": " ++ signature.prototype, lines, memoryMap := map }
  | .error abort =>
    { header := signature.name ++ ": " ++ signature.prototype, lines,
      diagnostics := [abortText abort] }

/-- The report of a call with a signature. -/
def signedReport (config : Config) (call : Invocation) (signature : Signature) :
    Inquiry Report := do
  let progress ← arguments ⟨config, call⟩ {} (call.bind signature)
  let ending ← (conclusion config signature progress).ending
  return concluded signature progress.lines ending

/-- The report of a captured call. There always is one. -/
def report (config : Config) (call : Invocation) : Inquiry Report :=
  match Signature.find? call.number with
  | some signature => signedReport config call signature
  | none => return bareReport call

end Decode

/-- The report of a captured call on a target and a process. -/
def decode (t : Target) (process : ProcessView) (config : Config) (call : Invocation) : Report :=
  (Decode.report config call).run ⟨t, process⟩

end SyscallDecode
