/-
Reports: what is shown of one captured call, and the same as plain lines of text.
-/
import SyscallDecode.Text.Lines

namespace SyscallDecode

open SyscallDecode.Text

/-- One argument in words. The text may have several lines; the depth says how far to the right
they stand. -/
structure Line where
  name : String
  text : String
  depth : Nat := 1
  deriving DecidableEq, Repr

namespace Line

/-- What stands before the name. -/
def indent (line : Line) : String :=
  String.ofList (List.replicate line.depth '\t')

/-- The text with its further lines one level to the right of the name. -/
def nestedText (line : Line) : String :=
  indentRest (line.indent ++ "\t") line.text

end Line

/-- Everything shown of one call, in the order in which it is shown. -/
structure Report where
  header : String := ""
  notices : List String := []
  lines : List Line := []
  memoryMap : Option String := none
  diagnostics : List String := []
  deriving DecidableEq, Repr

namespace Report

/-- The report as lines of plain text. -/
def textLines (r : Report) : List String :=
  [r.header] ++ r.notices ++
    (r.lines.map fun line => line.indent ++ line.name ++ ": " ++ line.nestedText) ++
    r.memoryMap.toList ++ r.diagnostics

end Report

end SyscallDecode
