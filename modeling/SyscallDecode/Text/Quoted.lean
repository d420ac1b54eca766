/-
Quoted text: a text between double quotes in which everything a terminal would act on, or that
could not be told apart by eye, is written as an escape.
-/
import SyscallDecode.Text.CharClass
import SyscallDecode.Text.Numeral

namespace SyscallDecode.Text

/-- One character inside quotes. The single quote stands for itself. -/
def escapeChar (c : Char) : List Char :=
  if c = '\x00' then ['\\', '0']
  else if c = '\t' then ['\\', 't']
  else if c = '\r' then ['\\', 'r']
  else if c = '\n' then ['\\', 'n']
  else if c = '\\' then ['\\', '\\']
  else if c = '"' then ['\\', '"']
  else if isCombining c || !isVisible c then
    ['\\', 'u', '\x7b'] ++ Nat.toDigits 16 c.toNat ++ ['\x7d']
  else [c]

/-- The text between quotes. -/
def quote (text : String) : String :=
  String.ofList (['"'] ++ text.toList.flatMap escapeChar ++ ['"'])

end SyscallDecode.Text
