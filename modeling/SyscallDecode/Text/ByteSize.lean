/-
Sizes for people: a count of bytes in the largest binary unit of which it holds one, with one
decimal. The count is first taken as a binary fraction of 53 significant bits, and both
roundings go to the nearest value, a tie to the even one.
-/

namespace SyscallDecode.Text

/-- The quotient rounded to the nearest natural number, a tie to the even one. -/
def roundDiv (num den : Nat) : Nat :=
  let q := num / den
  let twice := 2 * (num % den)
  if twice < den then q
  else if den < twice then q + 1
  else q + q % 2

/-- The nearest number of at most `bits` significant bits. -/
def roundToBits (bits n : Nat) : Nat :=
  let unit := Nat.pow 2 (n.log2 + 1 - bits)
  roundDiv n unit * unit

/-- A number of tenths as a decimal fraction. -/
def tenthsText (tenths : Nat) : String :=
  toString (tenths / 10) ++ "." ++ toString (tenths % 10)

/-- The units with a name, the largest first. -/
def sizeUnits : List (Nat × String) :=
  [(1024 * 1024 * 1024, "GiB"), (1024 * 1024, "MiB"), (1024, "KiB")]

/-- The size in words; below one KiB it is exact. -/
def byteSize (n : Nat) : String :=
  let value := roundToBits 53 n
  match sizeUnits.find? fun unit => unit.1 ≤ value with
  | some (unit, name) => tenthsText (roundDiv (value * 10) unit) ++ " " ++ name
  | none => toString n ++ " B"

end SyscallDecode.Text
