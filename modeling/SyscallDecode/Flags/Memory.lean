/-
The words that describe memory mappings: flags and protection of a mapping call, and the flags of
a mapped area.
-/
import SyscallDecode.Flags.Bitmask

namespace SyscallDecode.Flags

/-! ## Mapping calls -/

/-- The bit of a mapping without a file behind it. -/
def mapAnonymous : UInt64 := 0x20

/-- Flags of a mapping. -/
def mapFlagNames : BitNames :=
  [(0x1, "MAP_SHARED"), (0x2, "MAP_PRIVATE"), (0x10, "MAP_FIXED"),
   (mapAnonymous, "MAP_ANONYMOUS"), (0x40, "MAP_32BIT"), (0x100, "MAP_GROWSDOWN"),
   (0x800, "MAP_DENYWRITE"), (0x1000, "MAP_EXECUTABLE"), (0x2000, "MAP_LOCKED"),
   (0x4000, "MAP_NORESERVE"), (0x8000, "MAP_POPULATE"), (0x10000, "MAP_NONBLOCK"),
   (0x20000, "MAP_STACK"), (0x40000, "MAP_HUGETLB"), (0x80000, "MAP_SYNC"),
   (0x100000, "MAP_FIXED_NOREPLACE")]

/-- The flags of a mapping in words. -/
def mapFlags (value : UInt64) : String :=
  bitText "0" mapFlagNames value

/-- Whether a mapping has no file behind it. -/
def isAnonymous (value : UInt64) : Bool :=
  value &&& mapAnonymous != 0

/-- Protection of a mapping. -/
def protectionNames : BitNames :=
  [(0x1, "PROT_READ"), (0x2, "PROT_WRITE"), (0x4, "PROT_EXEC"), (0x1000000, "PROT_GROWSDOWN"),
   (0x2000000, "PROT_GROWSUP")]

/-- The protection of a mapping in words. -/
def protection (value : UInt64) : String :=
  bitText "PROT_NONE" protectionNames value

/-! ## Mapped areas -/

/-- The bit of an area of device memory. -/
def areaIo : UInt64 := 0x4000

/-- The bit of an area of bare page frames. -/
def areaPageFrames : UInt64 := 0x400

/-- Whether an area stands for physical addresses. -/
def isPhysical (value : UInt64) : Bool :=
  value &&& (areaIo ||| areaPageFrames) != 0

/-- The letter of a permission, or what stands for its absence. -/
def permission (value bit : UInt64) (letter absent : Char) : Char :=
  if value &&& bit != 0 then letter else absent

/-- Flags of an area that its four permission letters do not show. -/
def areaExtras : BitNames :=
  [(areaIo, "io"), (areaPageFrames, "pfnmap"), (0x100, "growsdown"), (0x2000, "locked"),
   (0x20000, "dontcopy"), (0x400000, "hugetlb")]

/-- The flags of an area: read, write, execute, shared or private, then the others by name. -/
def areaFlags (value : UInt64) : String :=
  let letters :=
    [permission value 0x1 'r' '-', permission value 0x2 'w' '-', permission value 0x4 'x' '-',
     permission value 0x8 's' 'p']
  let extras := (areaExtras.filter fun entry => value &&& entry.1 != 0).map Prod.snd
  " ".intercalate (String.ofList letters :: extras)

end SyscallDecode.Flags
