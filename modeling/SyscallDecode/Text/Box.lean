/-
Tables drawn with characters: a rounded frame, columns as wide as their widest line, cells set
to the left with one blank on either side. A cell may hold several lines; its row is then as
high as the highest cell.
-/
import SyscallDecode.Text.Lines
import SyscallDecode.Text.Width

namespace SyscallDecode.Text.Box

/-- A cell is the list of its lines. -/
abbrev Cell := List String

/-- A row is one cell per column. -/
abbrev Row := List Cell

/-- The cells of a row of texts. -/
def row (texts : List String) : Row :=
  texts.map lines

/-- Blanks. -/
def blanks (n : Nat) : String :=
  String.ofList (List.replicate n ' ')

/-- The width of a cell's widest line. -/
def cellWidth (cell : Cell) : Nat :=
  (cell.map width).foldr max 0

/-- The width of each column. -/
def columnWidths : List Row → List Nat
  | [] => []
  | [r] => r.map cellWidth
  | r :: rs => List.zipWith max (r.map cellWidth) (columnWidths rs)

/-- The number of lines of a row. -/
def rowHeight (r : Row) : Nat :=
  (r.map List.length).foldr max 1

/-- A line set into a column. -/
def pad (columnWidth : Nat) (line : String) : String :=
  " " ++ line ++ blanks (columnWidth - width line) ++ " "

/-- Line `i` of a row. -/
def rowLine (widths : List Nat) (r : Row) (i : Nat) : String :=
  let parts := List.zipWith (fun w cell => pad w (cell.getD i "")) widths r
  "|" ++ "|".intercalate parts ++ "|"

/-- All lines of a row. -/
def rowLines (widths : List Nat) (r : Row) : List String :=
  (List.range (rowHeight r)).map (rowLine widths r)

/-- The upper or lower edge of the frame. -/
def edge (corner : String) (widths : List Nat) : String :=
  let inner := widths.foldr (fun w sum => w + 2 + sum) 0 + (widths.length - 1)
  corner ++ String.ofList (List.replicate inner '-') ++ corner

/-- The drawn table. -/
def draw (rows : List Row) : String :=
  let widths := columnWidths rows
  "\n".intercalate ([edge "." widths] ++ rows.flatMap (rowLines widths) ++ [edge "'" widths])

end SyscallDecode.Text.Box
