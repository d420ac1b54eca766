/-
Numerals: writing numbers in hexadecimal, and reading unsigned and signed numerals of a bounded
size with the cause when a text is none.
-/

namespace SyscallDecode.Text

/-! ## Writing -/

/-- Lower-case hexadecimal digits without leading zeros; zero is one digit. -/
def hex (n : Nat) : String :=
  String.ofList (Nat.toDigits 16 n)

/-- Hexadecimal with the mark `0x`. -/
def hexMarked (n : Nat) : String :=
  "0x" ++ hex n

/-- Hexadecimal digits, filled up with zeros on the left. -/
def hexPadded (digits n : Nat) : String :=
  String.ofList ((Nat.toDigits 16 n).leftpad digits '0')

/-! ## Reading -/

/-- Why a text is not a numeral. -/
inductive NumeralFault
  | empty
  | invalidDigit
  | tooLarge
  deriving DecidableEq, Repr

/-- The cause in words. -/
def NumeralFault.message : NumeralFault → String
  | .empty => "cannot parse integer from empty string"
  | .invalidDigit => "invalid digit found in string"
  | .tooLarge => "number too large to fit in target type"

/-- The value of a digit of either case in the given base. -/
def digitValue? (base : Nat) (c : Char) : Option Nat :=
  let n := c.toNat
  let value :=
    if '0'.toNat ≤ n ∧ n ≤ '9'.toNat then some (n - '0'.toNat)
    else if 'a'.toNat ≤ n ∧ n ≤ 'z'.toNat then some (n - 'a'.toNat + 10)
    else if 'A'.toNat ≤ n ∧ n ≤ 'Z'.toNat then some (n - 'A'.toNat + 10)
    else none
  value.filter (· < base)

/-- Reads digits after a value already read, staying below `bound`. The first digit that is
wrong or too much decides the cause. -/
def readDigits (base bound : Nat) : Nat → List Char → Except NumeralFault Nat
  | value, [] => .ok value
  | value, c :: cs =>
    match digitValue? base c with
    | none => .error .invalidDigit
    | some d =>
      if value * base + d < bound then readDigits base bound (value * base + d) cs
      else .error .tooLarge

/-- Reads an unsigned numeral below `bound`: an optional plus sign and at least one digit. -/
def readUnsigned (base bound : Nat) : List Char → Except NumeralFault Nat
  | [] => .error .empty
  | ['+'] => .error .invalidDigit
  | '+' :: digits => readDigits base bound 0 digits
  | digits => readDigits base bound 0 digits

/-- Reads a signed decimal numeral in `[-bound, bound)`. -/
def readSigned (bound : Nat) : List Char → Except NumeralFault Int
  | ['-'] => .error .invalidDigit
  | '-' :: digits => (readDigits 10 (bound + 1) 0 digits).map fun n => -(n : Int)
  | text => (readUnsigned 10 bound text).map fun n => (n : Int)

/-- The text behind one mark `0x` or `0X`, or the whole text when it has none. -/
def dropHexMark : List Char → List Char
  | '0' :: 'x' :: digits => digits
  | '0' :: 'X' :: digits => digits
  | digits => digits

/-- A 64-bit hexadecimal numeral with an optional mark. -/
def readHexWord (cs : List Char) : Except NumeralFault UInt64 :=
  (readUnsigned 16 UInt64.size (dropHexMark cs)).map UInt64.ofNat

end SyscallDecode.Text
