/-
Mapped areas of an address space.
-/

namespace SyscallDecode

/-- A mapped area; `finish` is the first address behind it. -/
structure Area where
  start : UInt64
  finish : UInt64
  flags : UInt64
  ioAddress : Option UInt64 := none
  path : Option String := none
  deriving DecidableEq, Repr

namespace Area

/-- The bytes of the area; none when it ends before it starts. -/
def size (a : Area) : Nat :=
  a.finish.toNat - a.start.toNat

/-- The pages it takes, the last one possibly in part. A page has at least one byte. -/
def pages (a : Area) (pageSize : UInt64) : Nat :=
  let page := max pageSize.toNat 1
  (a.size + (page - 1)) / page

/-- The last address of the area. -/
def last (a : Area) : Nat :=
  a.finish.toNat - 1

end Area

end SyscallDecode
