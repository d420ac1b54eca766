/-
Reading a command line from left to right. The value of an option that stands in a word of its
own is looked at only when the next option comes, or at the end; so of two mistakes the one found
first need not be the one that stands first. What is wrong behind a command is found before what
is left of the options in front of it.
-/
import SyscallDecode.CommandLine.Options
import SyscallDecode.CommandLine.Request
import SyscallDecode.CommandLine.Word

namespace SyscallDecode.CommandLine

/-! ## Options -/

/-- An option whose value has not been looked at. -/
inductive Pending
  | nothing
  /-- The value has not come yet. -/
  | awaiting (setting : Setting)
  /-- The value has come. -/
  | unread (setting : Setting) (text : String)
  deriving DecidableEq, Repr

/-- What was given, and what is pending. -/
structure Progress where
  given : Given := {}
  pending : Pending := .nothing

namespace Progress

/-- Looks at what is pending. -/
def settle (p : Progress) : Except Refusal Given :=
  match p.pending with
  | .nothing => .ok p.given
  | .awaiting _ => .error .missingValue
  | .unread setting text => p.given.set setting text

/-- An option whose value is in the next word. -/
def await (p : Progress) (setting : Setting) : Except Refusal Progress := do
  let given ← p.settle
  return ⟨given, .awaiting setting⟩

/-- An option with its value. -/
def attach (p : Progress) (setting : Setting) (text : String) : Except Refusal Progress := do
  let given ← p.settle
  let given ← given.set setting text
  return ⟨given, .nothing⟩

/-- An option without a value. -/
def turnOn (p : Progress) (switch : Switch) : Except Refusal Progress := do
  let given ← p.settle
  let given ← given.turnOn switch
  return ⟨given, .nothing⟩

/-- A long option. -/
def long (level : Level) (p : Progress) (name : String) (value : Option String) :
    Except Refusal Progress :=
  match level.long? name, value with
  | none, _ => .error .unknownArgument
  | some (.switch _), some _ => .error .unexpectedValue
  | some (.switch s), none => p.turnOn s
  | some (.setting s), some text => p.attach s text
  | some (.setting s), none => p.await s

/-- One-letter options; behind one that takes a value the rest is the value, with or without an
equals sign. -/
def letters (level : Level) : Progress → List Char → Except Refusal Progress
  | p, [] => .ok p
  | p, c :: rest =>
    match level.letter? c with
    | none => .error .unknownArgument
    | some (.switch s) => do
      let p ← p.turnOn s
      letters level p rest
    | some (.setting s) =>
      match rest with
      | [] => p.await s
      | '=' :: text => p.attach s (String.ofList text)
      | text => p.attach s (String.ofList text)

/-- A plain word, if it is the value that an option waits for. -/
def supply? (p : Progress) (text : String) : Option Progress :=
  match p.pending with
  | .awaiting setting => some { p with pending := .unread setting text }
  | _ => none

end Progress

/-! ## Behind a command -/

/-- The words behind a command: what was given, and the words behind a separator. -/
def readBehind (level : Level) : Progress → List String → Except Refusal (Given × List String)
  | p, [] => do
    let given ← p.settle
    return (given, [])
  | p, text :: rest =>
    match Word.ofText text with
    | .separator =>
      if level = .trace ∨ rest.isEmpty then do
        let given ← p.settle
        return (given, rest)
      else .error .unknownArgument
    | .long name value => do
      let p ← p.long level name value
      readBehind level p rest
    | .letters cs => do
      let p ← p.letters level cs
      readBehind level p rest
    | .plain text =>
      match p.supply? text with
      | some p => readBehind level p rest
      | none => .error .unknownArgument

/-- One call to be decoded; its process and its number have to be given. -/
def decodeRequest (g : Given) : Except Refusal DecodeRequest :=
  match g.process, g.number with
  | some process, some number =>
    .ok { process, number, registers := g.registers, root := g.root }
  | _, _ => .error .missingArgument

/-- A process to be traced; it is given by its number or by the words that start it. -/
def traceRequest (g : Given) (words : List String) : Except Refusal TraceRequest :=
  match g.process, words with
  | some process, [] => .ok (.attach process)
  | none, program :: arguments => .ok (.start program arguments)
  | some _, _ :: _ => .error .conflict
  | none, [] => .error .missingArgument

/-! ## The whole line -/

/-- The commands. -/
def commandLevels : List (String × Level) :=
  [("decode", .decode), ("trace", .trace)]

/-- The command that explains the others. -/
def helpCommand : String := "help"

/-- Whether a word names a command. -/
def isCommand (text : String) : Bool :=
  text == helpCommand || (commandLevels.lookup text).isSome

/-- The answer to the command that explains the others. -/
def explain : List String → Refusal
  | [] => .help
  | [text] => if isCommand text then .help else .unknownCommand
  | _ => .unknownCommand

/-- What is given behind the command, or else what is given before it. -/
def combine (before behind : Given) (request : Request) : Command where
  request := request
  output := behind.output <|> before.output
  bufferLimit := behind.bufferLimit <|> before.bufferLimit
  stringLimit := (behind.stringLimit <|> before.stringLimit).getD 256
  memoryMap := !(behind.noMemoryMap || before.noMemoryMap)

/-- A command with the words behind it. -/
def readCommand (level : Level) (before : Progress) (words : List String) :
    Except Refusal Command := do
  let (behind, trailing) ← readBehind level {} words
  let request ←
    if level = .trace then (traceRequest behind trailing).map Request.trace
    else (decodeRequest behind).map Request.decode
  let before ← before.settle
  return combine before behind request

/-- A line without a command. -/
def refuseBare (p : Progress) : Refusal :=
  match p.settle with
  | .error refusal => refusal
  | .ok given => if given.isEmptyTop then .nothingSaid else .missingCommand

/-- A line whose separator stands before any command: a command behind it is none. -/
def refuseSeparated (p : Progress) : List String → Refusal
  | [] => refuseBare p
  | text :: _ => if isCommand text then .unknownArgument else .unknownCommand

/-- A plain word before any command that is not the value of an option. -/
def readCommandWord (p : Progress) (text : String) (rest : List String) :
    Except Refusal Command :=
  if text = helpCommand then .error (explain rest)
  else
    match commandLevels.lookup text with
    | some level => readCommand level p rest
    | none => .error .unknownCommand

/-- The words of a line, after some of them. -/
def readTop : Progress → List String → Except Refusal Command
  | p, [] => .error (refuseBare p)
  | p, text :: rest =>
    match Word.ofText text with
    | .separator => .error (refuseSeparated p rest)
    | .long name value => do
      let p ← p.long .top name value
      readTop p rest
    | .letters cs => do
      let p ← p.letters .top cs
      readTop p rest
    | .plain text =>
      match p.supply? text with
      | some p => readTop p rest
      | none => readCommandWord p text rest

/-- Reads a command line, without the name of the program. -/
def read (words : List String) : Except Refusal Command :=
  readTop {} words

end SyscallDecode.CommandLine
