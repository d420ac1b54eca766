/-
Texts of several lines: cutting at line feeds, and moving continuation lines to the right.
-/

namespace SyscallDecode.Text

/-- The first line, and the lines behind each line feed. There is always a first line; a line
feed at the end is followed by an empty one. -/
def splitLines : List Char → List Char × List (List Char)
  | [] => ([], [])
  | c :: cs =>
    let (line, rest) := splitLines cs
    if c = '\n' then ([], line :: rest) else (c :: line, rest)

/-- The lines of a text. -/
def lines (text : String) : List String :=
  let (line, rest) := splitLines text.toList
  (line :: rest).map String.ofList

/-- The text with `margin` put behind every line feed. -/
def indentRest (margin : String) (text : String) : String :=
  String.ofList (text.toList.flatMap fun c => if c = '\n' then '\n' :: margin.toList else [c])

end SyscallDecode.Text
