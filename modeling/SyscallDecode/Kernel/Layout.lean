/-
Where the members of kernel structures lie. The offsets belong to one build of a kernel; nothing
in memory tells them.
-/

namespace SyscallDecode

/-- Offsets, sizes and symbol names of a kernel build. -/
structure KernelLayout where
  pointerSize : UInt64
  pageSize : UInt64
  currentTaskSymbol : String
  socketOpsSymbol : String
  /-- In a task. -/
  taskFiles : UInt64
  taskMemory : UInt64
  /-- In the open files of a task. -/
  filesTable : UInt64
  /-- In a descriptor table. -/
  tableMaxFds : UInt64
  tableSlots : UInt64
  /-- In an open file. -/
  fileDentry : UInt64
  fileOps : UInt64
  filePrivate : UInt64
  /-- In a directory entry: the short name and its length. -/
  dentryName : UInt64
  dentryNameLength : Nat
  /-- In a socket. -/
  socketType : UInt64
  socketState : UInt64
  /-- In the memory of a task. -/
  memoryAreas : UInt64
  /-- In a mapped area. -/
  areaStart : UInt64
  areaFinish : UInt64
  areaNext : UInt64
  areaFlags : UInt64
  areaPageOffset : UInt64
  deriving DecidableEq, Repr

namespace KernelLayout

/-- Linux 2.6.32 on x86-64 as distributions build it. -/
def linux2632 : KernelLayout where
  pointerSize := 8
  pageSize := 4096
  currentTaskSymbol := "per_cpu__current_task"
  socketOpsSymbol := "socket_file_ops"
  taskFiles := 0x5C8
  taskMemory := 0x248
  filesTable := 0x8
  tableMaxFds := 0x0
  tableSlots := 0x8
  fileDentry := 0x18
  fileOps := 0x20
  filePrivate := 0xB8
  dentryName := 0xA0
  dentryNameLength := 32
  socketType := 0x4
  socketState := 0x8
  memoryAreas := 0x0
  areaStart := 0x8
  areaFinish := 0x10
  areaNext := 0x18
  areaFlags := 0x28
  areaPageOffset := 0x78

/-- The number of low zero bits of a number, at most `bits`. -/
def lowZeros (n : Nat) : Nat → Nat
  | 0 => 0
  | bits + 1 => if n % 2 = 0 then lowZeros (n / 2) bits + 1 else 0

/-- By how many bits a page number is shifted to give an address. -/
def pageShift (layout : KernelLayout) : Nat :=
  lowZeros layout.pageSize.toNat 64

end KernelLayout

end SyscallDecode
