/-
White space in the Unicode sense, and what is built on it: trimming a text and cutting it into
words.
-/

namespace SyscallDecode.Text

/-- White space: the code points with the Unicode property of that name. -/
def isBlank (c : Char) : Bool :=
  let n := c.toNat
  (9 ≤ n && n ≤ 13) || n == 0x20 || n == 0x85 || n == 0xA0 || n == 0x1680 ||
  (0x2000 ≤ n && n ≤ 0x200A) || n == 0x2028 || n == 0x2029 || n == 0x202F || n == 0x205F ||
  n == 0x3000

/-- The text without the white space at its two ends. -/
def trim (cs : List Char) : List Char :=
  ((cs.dropWhile isBlank).reverse.dropWhile isBlank).reverse

/-- Puts a word in front of others unless it is empty. -/
def consWord (word : List Char) (rest : List (List Char)) : List (List Char) :=
  if word.isEmpty then rest else word :: rest

/-- The characters up to the first white space, and the words behind it. -/
def headWord : List Char → List Char × List (List Char)
  | [] => ([], [])
  | c :: cs =>
    let (word, rest) := headWord cs
    if isBlank c then ([], consWord word rest) else (c :: word, rest)

/-- The maximal runs of characters that are not white space, in order. -/
def words (cs : List Char) : List (List Char) :=
  consWord (headWord cs).1 (headWord cs).2

end SyscallDecode.Text
