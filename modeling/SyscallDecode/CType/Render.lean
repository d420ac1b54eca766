/-
The text of a value: its bytes read as a C type says. Scalars are numbers, character arrays are
quoted, structs have one line per member.
-/
import SyscallDecode.CType.Basic
import SyscallDecode.Text.Dump
import SyscallDecode.Text.Quoted
import SyscallDecode.Text.Utf8

namespace SyscallDecode

open SyscallDecode.Text

/-! ## Words in memory -/

/-- The number that bytes stand for, the lowest first. -/
def littleEndian : List UInt8 → Nat
  | [] => 0
  | b :: bs => b.toNat + 256 * littleEndian bs

/-- The number that bytes stand for, the highest first. -/
def bigEndian (bytes : List UInt8) : Nat :=
  littleEndian bytes.reverse

/-- The eight bytes of a machine word, the lowest first. -/
abbrev WordBuffer := Fin 8 → UInt8

namespace WordBuffer

/-- The buffer of zeros. -/
def zero : WordBuffer := fun _ => 0

/-- The buffer with bytes written over its front. -/
def write (buffer : WordBuffer) (bytes : List UInt8) : WordBuffer :=
  fun i => bytes.getD i (buffer i)

/-- The machine word in the buffer. -/
def word (buffer : WordBuffer) : UInt64 :=
  Fin.foldr 8 (fun i word => word <<< 8 ||| (buffer i).toUInt64) 0

end WordBuffer

/-- The machine word held by the first eight bytes; missing ones are zero. -/
def scalarValue (bytes : List UInt8) : UInt64 :=
  let length := min bytes.length 8
  (WordBuffer.zero.write (bytes.take length)).word

/-- A word of `size` bytes with its sign bit copied upwards: the bits above are shifted out, and the
shift back fills in the sign. -/
def signExtend (value : UInt64) (size : Nat) : Int64 :=
  if size = 0 ∨ 8 ≤ size then value.toInt64
  else
    let shift := UInt64.ofNat (64 - size * 8)
    (value <<< shift).toInt64 >>> shift.toInt64

/-- A word read as a signed number of `size` bytes. -/
def signedValue (value : UInt64) (size : Nat) : Int :=
  (signExtend value size).toInt

/-- The bytes before the first zero. -/
def beforeZero (bytes : List UInt8) : List UInt8 :=
  bytes.takeWhile (· ≠ 0)

/-- A part of a byte sequence, if it lies wholly inside. -/
def slice? (bytes : List UInt8) (start length : Nat) : Option (List UInt8) :=
  if start + length ≤ bytes.length then some ((bytes.drop start).take length) else none

/-! ## Values -/

namespace CType

/-- Structs nested this deep are shown by name only. -/
def maxDepth : Nat := 4

/-- An array shows no more elements than this. -/
def maxElements : Nat := 16

/-- Two blanks per level of nesting. -/
def indent (depth : Nat) : String :=
  String.ofList (List.replicate (2 * depth) ' ')

/-- The text of a scalar of `size` bytes. -/
def renderScalar (kind : ScalarKind) (size : Nat) (bytes : List UInt8) : String :=
  let value := scalarValue bytes
  match kind with
  | .signed => toString (signedValue value size)
  | .unsigned => toString value.toNat
  | .char =>
    let b := value.toUInt8
    let number := toString b.toNat
    if isGraphic b then number ++ " '" ++ String.ofList [Char.ofNat b.toNat] ++ "'" else number
  | .pointer => if value = 0 then "NULL" else hexMarked value.toNat

/-- The items of a list up to the first missing one. -/
def untilMissing : List (Option String) → List String
  | some item :: rest => item :: untilMissing rest
  | _ => []

mutual

/-- The text of a value inside `depth` others. Bytes past the size of the type do not count. Where
elements and members end is not bounded here: layouts fit. -/
def renderValue : CType → List UInt8 → Nat → String
  | scalar _ size kind, bytes, _ => renderScalar kind size (bytes.take size)
  | array _ size element length, bytes, depth =>
    let bytes := bytes.take size
    if element.isChar then quote (decodeLossy (beforeZero bytes))
    else
      let shown := min length maxElements
      let items := untilMissing ((List.range shown).map fun i =>
        (slice? bytes (i * element.size) element.size).map fun part =>
          renderValue element part (depth + 1))
      let items := if shown < length then items ++ ["..."] else items
      "[" ++ ", ".intercalate items ++ "]"
  | struct name size members, bytes, depth =>
    if maxDepth ≤ depth then name ++ " \x7b...\x7d"
    else
      name ++ " \x7b" ++ renderMembers members (bytes.take size) depth ++ "\n" ++ indent depth ++
        "\x7d"
  | blob name size, _, _ => name ++ " <" ++ toString size ++ " bytes>"

/-- One line per member; a member outside the struct says so. -/
def renderMembers : List Member → List UInt8 → Nat → String
  | [], _, _ => ""
  | .mk name offset type :: rest, bytes, depth =>
    let value :=
      match slice? bytes offset type.size with
      | some part => renderValue type part (depth + 1)
      | none => "<out of bounds>"
    "\n" ++ indent (depth + 1) ++ name ++ ": " ++ value ++ renderMembers rest bytes depth

end

/-- The text of a value that stands by itself. -/
def render (type : CType) (bytes : List UInt8) : String :=
  renderValue type bytes 0

end CType

end SyscallDecode
