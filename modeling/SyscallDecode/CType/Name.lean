/-
Type names and their normal form: the words that say nothing about the layout are dropped, the
rest is set with single blanks, and a star stands directly behind the word before it.
-/
import SyscallDecode.Text.Blank

namespace SyscallDecode.CType

open SyscallDecode.Text

/-- Words of a type name that leave the layout alone. -/
def qualifiers : List String :=
  ["const", "volatile", "__user", "__force"]

/-- Whether a word is a qualifier. -/
def isQualifier (word : List Char) : Bool :=
  qualifiers.any fun q => q.toList == word

/-- Drops the blank in front of every star. -/
def closeStars : List Char → List Char
  | ' ' :: '*' :: rest => '*' :: closeStars rest
  | c :: rest => c :: closeStars rest
  | [] => []

/-- Words with one blank between them. -/
def joinWords : List (List Char) → List Char
  | [] => []
  | [w] => w
  | w :: ws => w ++ ' ' :: joinWords ws

/-- The normal form of a type name, on characters. -/
def normalizeChars (name : List Char) : List Char :=
  closeStars (joinWords ((words name).filter fun w => !isQualifier w))

/-- The normal form of a type name. -/
def normalizeName (name : String) : String :=
  String.ofList (normalizeChars name.toList)

end SyscallDecode.CType
