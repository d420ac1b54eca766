/-
What a command line asks for: one call of a process to be decoded, or the calls of a process as it
makes them; and how it is to be shown.
-/
import SyscallDecode.Decode.Config
import SyscallDecode.Invocation.Basic

namespace SyscallDecode.CommandLine

open SyscallDecode.Text

/-- One call, by the values of its registers. -/
structure DecodeRequest where
  process : Int32
  number : UInt64
  registers : Fin argumentRegisters → Option UInt64
  /-- The root of the address space, if it is not that of the process. -/
  root : Option UInt64

/-- Whose calls are traced. -/
inductive TraceRequest
  /-- Of a process that runs already. -/
  | attach (process : Int32)
  /-- Of a program that is started for it, with its arguments. -/
  | start (program : String) (arguments : List String)
  deriving DecidableEq, Repr

/-- What is asked for. -/
inductive Request
  | decode (request : DecodeRequest)
  | trace (request : TraceRequest)

/-- A request and how its answer is shown. -/
structure Command where
  request : Request
  /-- Where reports go; without it they go to the terminal. -/
  output : Option String := none
  bufferLimit : Option UInt64 := none
  stringLimit : UInt64 := 256
  memoryMap : Bool := true

namespace DecodeRequest

/-- The registers as texts, which is how a captured call holds them. -/
def registerTexts (r : DecodeRequest) : RegisterTexts :=
  fun i => (r.registers i).map fun value => hex value.toNat

/-- The call. Without a root, the number of the process stands for it. -/
def invocation (r : DecodeRequest) : Invocation where
  number := r.number
  registers := r.registerTexts
  root := r.root.getD r.process.toInt64.toUInt64

end DecodeRequest

/-- The choices for decoding, on a machine with this page size. -/
def Command.config (c : Command) (pageSize : UInt64) : Config where
  bufferLimit := c.bufferLimit.map UInt64.toNat
  stringLimit := c.stringLimit.toNat
  memoryMap := c.memoryMap
  pageSize := pageSize

end SyscallDecode.CommandLine
