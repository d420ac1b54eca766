/-
Reports in color: a report as a sequence of styled pieces, and pieces as text with the escape
codes of a terminal or without them.
-/
import SyscallDecode.Report.Basic
import SyscallDecode.Text.Search

namespace SyscallDecode

/-! ## Colors -/

/-- A color by its three parts. -/
structure Color where
  red : Nat
  green : Nat
  blue : Nat
  deriving DecidableEq, Repr

/-! The colors are made for a dark background. -/

/-- Of the header, which is bold. -/
def headerColor : Color := ⟨0, 173, 216⟩

/-- Of all that has no color of its own. -/
def textColor : Color := ⟨160, 160, 160⟩

/-- Of argument names. -/
def nameColor : Color := ⟨187, 142, 35⟩

/-- Of the memory map. -/
def memoryMapColor : Color := ⟨0, 169, 223⟩

/-- Of notices. -/
def noticeColor : Color := ⟨47, 86, 54⟩

/-- Of failures and diagnostics. -/
def exceptionColor : Color := ⟨100, 0, 0⟩

/-! ## Pieces -/

/-- A text in one style. -/
structure Piece where
  text : String
  color : Option Color := none
  bold : Bool := false
  deriving DecidableEq, Repr

namespace Piece

/-- The code that ends every style. -/
def resetCode : List Char := ['\x1b', '[', '0', 'm']

/-- The code that begins a style. -/
def beginCode (color : Color) (bold : Bool) : String :=
  "\x1b[" ++ (if bold then "1;" else "") ++ "38;2;" ++ toString color.red ++ ";" ++
    toString color.green ++ ";" ++ toString color.blue ++ "m"

/-- Puts `code` behind every code that ends a style, so that the style goes on. -/
def resume (code : List Char) : List Char → List Char
  | '\x1b' :: '[' :: '0' :: 'm' :: rest => resetCode ++ code ++ resume code rest
  | c :: rest => c :: resume code rest
  | [] => []

/-- The piece for a terminal. A piece without a color is its bare text. -/
def colored (p : Piece) : String :=
  match p.color with
  | none => p.text
  | some color =>
    let code := beginCode color p.bold
    code ++ String.ofList (resume code.toList p.text.toList ++ resetCode)

end Piece

/-! ## Reports -/

namespace Line

/-- Whether the text of a line speaks of a failure. -/
def tellsFailure (line : Line) : Bool :=
  Text.contains line.text "exception" || Text.contains line.text "cannot "

/-- The pieces of a line. -/
def pieces (line : Line) : List Piece :=
  [⟨line.indent, none, false⟩, ⟨line.name, some nameColor, false⟩,
   ⟨": ", some textColor, false⟩,
   ⟨line.nestedText, some (if line.tellsFailure then exceptionColor else textColor), false⟩,
   ⟨"\n", none, false⟩]

end Line

namespace Report

/-- The pieces of a report, line feeds included. -/
def pieces (r : Report) : List Piece :=
  [⟨r.header, some headerColor, true⟩, ⟨"\n", none, false⟩] ++
    (r.notices.map fun notice => ⟨notice ++ "\n", some noticeColor, false⟩) ++
    r.lines.flatMap Line.pieces ++
    (r.memoryMap.toList.map fun map => ⟨map ++ "\n", some memoryMapColor, false⟩) ++
    r.diagnostics.map fun diagnostic => ⟨diagnostic ++ "\n", some exceptionColor, false⟩

/-- What is written of a report. -/
def written (r : Report) (colors : Bool) : String :=
  String.join (r.pieces.map fun piece => if colors then piece.colored else piece.text)

end Report

/-- What is written of a diagnostic that belongs to no report. -/
def writtenDiagnostic (text : String) (colors : Bool) : String :=
  let piece : Piece := ⟨text, some exceptionColor, false⟩
  (if colors then piece.colored else piece.text) ++ "\n"

end SyscallDecode
