/-
Why a command line is not carried out. Asking for help or for the version is one of the reasons.
-/

namespace SyscallDecode.CommandLine

/-- Why a command line is not carried out. -/
inductive Refusal
  /-- Help was asked for. -/
  | help
  /-- The version was asked for. -/
  | version
  /-- Nothing at all was said. -/
  | nothingSaid
  /-- Options were given, but nothing to do. -/
  | missingCommand
  | unknownCommand
  | unknownArgument
  /-- An option that takes a value has none, or an empty one where that cannot be. -/
  | missingValue
  /-- An option that takes no value has one. -/
  | unexpectedValue
  /-- A value that cannot be read. -/
  | badValue
  /-- An option is given twice, or together with one that excludes it. -/
  | conflict
  /-- Something that has to be given is not. -/
  | missingArgument
  deriving DecidableEq, Repr

/-- Help and the version are answers; all else is the user's mistake. -/
def Refusal.isMistake : Refusal → Bool
  | help | version => false
  | _ => true

/-- The reason in words. -/
def Refusal.message : Refusal → String
  | help => "help was asked for"
  | version => "the version was asked for"
  | nothingSaid => "nothing to do"
  | missingCommand => "no command given"
  | unknownCommand => "no such command"
  | unknownArgument => "unexpected argument"
  | missingValue => "an option lacks its value"
  | unexpectedValue => "an option takes no value"
  | badValue => "a value cannot be read"
  | conflict => "arguments exclude each other"
  | missingArgument => "a required argument is missing"

end SyscallDecode.CommandLine
