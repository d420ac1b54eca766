/-
What a user chooses of a decoding: how much of buffers and strings is shown, and whether the
mapped areas are.
-/

namespace SyscallDecode

/-- The choices of a user. -/
structure Config where
  /-- The most bytes shown of a buffer; without a limit all are. -/
  bufferLimit : Option Nat := none
  /-- The most bytes read of a string. -/
  stringLimit : Nat := 256
  /-- Whether a memory map may be appended. -/
  memoryMap : Bool := true
  /-- The page size by which the memory map counts. -/
  pageSize : UInt64 := 4096
  deriving DecidableEq, Repr

end SyscallDecode
