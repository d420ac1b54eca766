/-
The options of the command line: which there are at each level, and what has been given of them so
far. No option may be given twice at one level.
-/
import SyscallDecode.CommandLine.Value
import SyscallDecode.Invocation.Basic

namespace SyscallDecode.CommandLine

/-! ## Options -/

/-- Options that take a value. -/
inductive Setting
  | output
  | bufferLimit
  | stringLimit
  | process
  | number
  | register (index : Fin argumentRegisters)
  | root
  deriving DecidableEq, Repr

/-- Options that take none. -/
inductive Switch
  | noMemoryMap
  | help
  | version
  deriving DecidableEq, Repr

/-- An option. -/
inductive Flag
  | setting (s : Setting)
  | switch (s : Switch)
  deriving DecidableEq, Repr

/-- Where on the command line a word stands: before any command, or behind one. -/
inductive Level
  | top
  | decode
  | trace
  deriving DecidableEq, Repr

/-- Long names that are known at every level. -/
def sharedNames : List (String × Flag) :=
  [("output", .setting .output), ("buffer-limit", .setting .bufferLimit),
   ("string-limit", .setting .stringLimit), ("no-memory-map", .switch .noMemoryMap),
   ("help", .switch .help)]

/-- Long names of one level. -/
def Level.ownNames : Level → List (String × Flag)
  | top => [("version", .switch .version)]
  | decode =>
    [("pid", .setting .process), ("nr", .setting .number), ("rdi", .setting (.register 0)),
     ("rsi", .setting (.register 1)), ("rdx", .setting (.register 2)),
     ("r10", .setting (.register 3)), ("r8", .setting (.register 4)),
     ("r9", .setting (.register 5)), ("cr3", .setting .root)]
  | trace => [("attach", .setting .process)]

/-- The option of a long name. -/
def Level.long? (level : Level) (name : String) : Option Flag :=
  (sharedNames ++ level.ownNames).lookup name

/-- The option of a letter. -/
def Level.letter? (level : Level) (letter : Char) : Option Flag :=
  if letter = 'o' then some (.setting .output)
  else if letter = 'h' then some (.switch .help)
  else if letter = 'V' ∧ level = .top then some (.switch .version)
  else if letter = 'p' ∧ level ≠ .top then some (.setting .process)
  else none

/-! ## What has been given -/

/-- The values given at one level. -/
structure Given where
  output : Option String := none
  bufferLimit : Option UInt64 := none
  stringLimit : Option UInt64 := none
  noMemoryMap : Bool := false
  process : Option Int32 := none
  number : Option UInt64 := none
  registers : Fin argumentRegisters → Option UInt64 := fun _ => none
  root : Option UInt64 := none

namespace Given

/-- A value for something that has none yet. -/
def once {α : Type} (before : Option α) (value : Except Refusal α) :
    Except Refusal (Option α) :=
  match before with
  | some _ => .error .conflict
  | none => value.map some

/-- The values after one more was given. -/
def set (g : Given) (setting : Setting) (text : String) : Except Refusal Given :=
  match setting with
  | .output => do return { g with output := ← once g.output (readPath text) }
  | .bufferLimit => do return { g with bufferLimit := ← once g.bufferLimit (readCount text) }
  | .stringLimit => do return { g with stringLimit := ← once g.stringLimit (readCount text) }
  | .process => do return { g with process := ← once g.process (readProcess text) }
  | .number => do return { g with number := ← once g.number (readCount text) }
  | .register index => do
    let value ← once (g.registers index) (readRegisterValue text)
    return { g with registers := fun i => if i = index then value else g.registers i }
  | .root => do return { g with root := ← once g.root (readRegisterValue text) }

/-- The values after a switch was given. Help and the version end the reading. -/
def turnOn (g : Given) (switch : Switch) : Except Refusal Given :=
  match switch with
  | .help => .error .help
  | .version => .error .version
  | .noMemoryMap =>
    if g.noMemoryMap then .error .conflict else .ok { g with noMemoryMap := true }

/-- Whether nothing that may stand before a command was given. -/
def isEmptyTop (g : Given) : Bool :=
  g.output.isNone && g.bufferLimit.isNone && g.stringLimit.isNone && !g.noMemoryMap

end Given

end SyscallDecode.CommandLine
