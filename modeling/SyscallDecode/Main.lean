/-
The program. It reads its command line, decodes the call that the command line describes, and
writes the report to the terminal in color or to a file without. It looks into no other process by
itself: memory, files and areas are shown as not readable.
-/
import SyscallDecode.CommandLine.Reading
import SyscallDecode.Decode.Call
import SyscallDecode.Report.Style
import SyscallDecode.Target.Traced

namespace SyscallDecode.Program

open SyscallDecode.CommandLine

/-! ## What is decoded -/

/-- A target of which no page is mapped. -/
def blindTarget : Target :=
  (MappedPages.ofPieces []).target

/-- A process of which neither files nor areas are known. -/
def blindProcess : ProcessView where
  file := fun _ => .fail (.host "the files of the process are not visible")
  areas := .fail (.host "the areas of the process are not visible")

/-- The page size by which areas are counted. -/
def pageSize : UInt64 := 4096

/-- The report of one call. -/
def report (command : Command) (request : DecodeRequest) : Report :=
  decode blindTarget blindProcess (command.config pageSize) request.invocation

/-- What is written for a command, and whether it was carried out. -/
def answer (command : Command) (colors : Bool) : String × Bool :=
  match command.request with
  | .decode request => ((report command request).written colors, true)
  | .trace _ => (writtenDiagnostic "Exception in main(): no tracer is available" colors, false)

/-! ## What is said about the program itself -/

/-- The version of the program. -/
def version : String := "syscall-decode 0.1.0"

/-- How the program is used. -/
def usage : String :=
  "usage: syscall-decode [options] decode --pid PID --nr NUMBER [--rdi HEX] [--rsi HEX]\n" ++
  "           [--rdx HEX] [--r10 HEX] [--r8 HEX] [--r9 HEX] [--cr3 HEX]\n" ++
  "       syscall-decode [options] trace (--attach PID | -- PROGRAM [ARGUMENT]...)\n" ++
  "options: [-o FILE] [--buffer-limit N] [--string-limit N] [--no-memory-map]"

/-- The answer to a line that is not carried out. -/
def refusalText : Refusal → String
  | .help => usage
  | .version => version
  | refusal => "error: " ++ refusal.message ++ "\n\n" ++ usage

/-! ## Input and output -/

/-- Writes a text to a file or to the terminal. -/
def write (output : Option String) (text : String) : IO Unit :=
  match output with
  | some path => IO.FS.writeFile path text
  | none => do (← IO.getStderr).putStr text

/-- Carries out a command; the result is the exit code. -/
def carryOut (command : Command) : IO UInt32 := do
  let (text, done) := answer command command.output.isNone
  try
    write command.output text
    return if done then 0 else 1
  catch error =>
    IO.eprintln ("Could not open or create the output file: " ++ toString error)
    return 100

/-- Explains why a line is not carried out; the result is the exit code. -/
def refuse (refusal : Refusal) : IO UInt32 := do
  if refusal.isMistake then
    IO.eprintln (refusalText refusal)
    return 2
  else
    IO.println (refusalText refusal)
    return 0

end SyscallDecode.Program

/-- The program, given the words of its command line. -/
def main (words : List String) : IO UInt32 :=
  match SyscallDecode.CommandLine.read words with
  | .ok command => SyscallDecode.Program.carryOut command
  | .error refusal => SyscallDecode.Program.refuse refusal
