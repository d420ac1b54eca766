/-
Words whose bits have names. A name is listed when all its bits are set; bits that no listed name
covers are shown as one number.
-/
import SyscallDecode.Text.Numeral

namespace SyscallDecode.Flags

open SyscallDecode.Text

/-- Named groups of bits, in the order in which they are listed. -/
abbrev BitNames := List (UInt64 × String)

/-- The entries whose bits are all set in the value. -/
def listed (names : BitNames) (value : UInt64) : BitNames :=
  names.filter fun entry => entry.1 != 0 && value &&& entry.1 == entry.1

/-- The bits of all entries together. -/
def allBits (names : BitNames) : UInt64 :=
  names.foldr (fun entry bits => entry.1 ||| bits) 0

/-- The set bits that no listed name covers. -/
def unknownBits (names : BitNames) (value : UInt64) : UInt64 :=
  value &&& ~~~(allBits (listed names value))

/-- The listed names, and the unknown bits if there are any. -/
def bitTexts (names : BitNames) (value : UInt64) : List String :=
  let unknown := unknownBits names value
  (listed names value).map Prod.snd ++
    if unknown = 0 then [] else ["unknown " ++ hexMarked unknown.toNat]

/-- The names with bars between them, or `empty` when there is nothing to list. -/
def bitText (empty : String) (names : BitNames) (value : UInt64) : String :=
  match bitTexts names value with
  | [] => empty
  | texts => "|".intercalate texts

/-- A value without a name: its decimal form, read as a signed word. -/
def unrecognized (value : UInt64) : String :=
  toString (Int.bmod value.toNat UInt64.size) ++ " (unrecognized value)"

/-- The name of a value of which only the low 32 bits count. -/
def valueText (names : List (UInt32 × String)) (value : UInt64) : String :=
  match names.lookup value.toUInt32 with
  | some name => name
  | none => unrecognized value

end SyscallDecode.Flags
