/-
The block of a report that shows the mapped areas of the process: a title, and a table with one
row per area or the reason why there is none.
-/
import SyscallDecode.Flags.Memory
import SyscallDecode.Process.View
import SyscallDecode.Text.Box
import SyscallDecode.Text.ByteSize

namespace SyscallDecode.MemoryMap

open SyscallDecode.Text

/-- The title of the block. -/
def title : String := "Memory mapping before syscall:"

/-- The heads of the columns. -/
def columns : List String :=
  ["Start vaddr", "End vaddr", "Size", "Nr.pages", "Flags", "I/O paddr.", "Path"]

/-- An address with all its digits. -/
def address (n : Nat) : String :=
  "0x" ++ hexPadded 16 n

/-- The texts of one area. The end is shown as the last address inside. -/
def record (pageSize : UInt64) (a : Area) : List String :=
  [address a.start.toNat, address a.last, byteSize a.size, toString (a.pages pageSize),
   Flags.areaFlags a.flags, (a.ioAddress.map fun io => hexMarked io.toNat).getD "",
   a.path.getD ""]

/-- All texts of the table, the heads first. -/
def records (areas : List Area) (pageSize : UInt64) : List (List String) :=
  columns :: areas.map (record pageSize)

/-- The table of some areas. -/
def table (areas : List Area) (pageSize : UInt64) : String :=
  Box.draw ((records areas pageSize).map Box.row)

/-- The block, given the areas or why there are none. -/
def block (pageSize : UInt64) : Except Failure (List Area) → String
  | .ok areas => title ++ "\n" ++ table areas pageSize
  | .error failure => title ++ " unavailable: " ++ failure.message

/-- The block for a process. -/
def report (process : ProcessView) (pageSize : UInt64) : Except Abort String :=
  process.areas.settle.map (block pageSize)

end SyscallDecode.MemoryMap
