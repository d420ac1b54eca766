/-
Readings of memory that are built from reads of bytes: words, strings, long buffers, values.
-/
import SyscallDecode.CType.Catalogue
import SyscallDecode.CType.Render
import SyscallDecode.Inquiry.Course

namespace SyscallDecode

namespace Reading

variable (space : AddressSpace)

/-! ## Words -/

/-- An unsigned word of `size` bytes, at most eight. They are read over the front of zeros. -/
def unsigned (address : UInt64) (size : Nat) : Reading UInt64 := do
  let bytes ← bytes space address (min size 8)
  return (WordBuffer.zero.write bytes).word

/-- An address held in memory. -/
def pointer (address : UInt64) : Reading UInt64 :=
  unsigned space address CType.pointerSize

/-- One byte. -/
def byte (address : UInt64) : Reading UInt8 := do
  let bytes ← bytes space address 1
  return bytes.headD 0

/-! ## Strings and buffers -/

/-- The bytes before the first zero, at most `limit`. They are read one by one, so memory behind
the zero does not matter. -/
def string : UInt64 → Nat → Reading (List UInt8)
  | _, 0 => return []
  | address, limit + 1 => do
    let byte ← byte space address
    if byte = 0 then return []
    else
      let rest ← string (address + 1) limit
      return byte :: rest

/-- The most that is read of a buffer at once. -/
def chunkSize : Nat := 4096

/-- The bytes of a buffer, read chunk by chunk so that a wild length fails early. -/
def buffer (address : UInt64) (length : Nat) : Reading (List UInt8) :=
  if _h : length = 0 then return []
  else do
    let chunk := min length chunkSize
    let bytes ← bytes space address chunk
    let rest ← buffer (address + UInt64.ofNat chunk) (length - chunk)
    return bytes ++ rest
termination_by length
decreasing_by
  have : 0 < min length chunkSize := by unfold chunkSize; omega
  omega

/-! ## Values -/

/-- The text of the value of a type. -/
def rendered (type : CType) (address : UInt64) : Reading String := do
  let bytes ← bytes space address type.size
  return type.render bytes

end Reading

/-! ## Answers of a target -/

namespace Target

variable (t : Target) (space : AddressSpace)

/-- An unsigned word of `size` bytes, at most eight. -/
def readUnsigned (address : UInt64) (size : Nat) : Attempt UInt64 :=
  (Reading.unsigned space address size).on t.world

/-- An address held in memory. -/
def readPointer (address : UInt64) : Attempt UInt64 :=
  (Reading.pointer space address).on t.world

/-- The bytes before the first zero, at most `limit`. -/
def readString (address : UInt64) (limit : Nat) : Attempt (List UInt8) :=
  (Reading.string space address limit).on t.world

/-- The bytes of a buffer. -/
def readBuffer (address : UInt64) (length : Nat) : Attempt (List UInt8) :=
  (Reading.buffer space address length).on t.world

/-- The text of the value of a type. -/
def renderAt (type : CType) (address : UInt64) : Attempt String :=
  (Reading.rendered space type address).on t.world

end Target

end SyscallDecode
