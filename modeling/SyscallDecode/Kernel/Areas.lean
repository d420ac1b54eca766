/-
The mapped areas of a task, from the chain of area records in kernel memory. A chain that never
ends is cut.
-/
import SyscallDecode.Flags.Memory
import SyscallDecode.Inquiry.Memory
import SyscallDecode.Kernel.Layout
import SyscallDecode.Process.Area

namespace SyscallDecode.Kernel

variable (layout : KernelLayout)

/-- No more areas than this are listed. -/
def maxAreas : Nat := 65536

/-- The physical address of a page number. A page size of zero has no shift. -/
def pageAddress (page : UInt64) : Reading UInt64 :=
  let shift := layout.pageShift
  if shift < 64 then return page <<< UInt64.ofNat shift
  else .abort (.because "attempt to shift left with overflow")

/-- One record of the chain. Its page offset is only read where it stands for a physical
address. -/
def areaAt (record : UInt64) : Reading Area := do
  let start ← Reading.pointer .kernel (record + layout.areaStart)
  let finish ← Reading.pointer .kernel (record + layout.areaFinish)
  let flags ← Reading.pointer .kernel (record + layout.areaFlags)
  if Flags.isPhysical flags then
    let page ← Reading.pointer .kernel (record + layout.areaPageOffset)
    let io ← pageAddress layout page
    return { start, finish, flags, ioAddress := some io }
  else return { start, finish, flags }

/-- The areas of the chain that starts at a record, behind those of `seen`, which is reversed. -/
def chainFrom (seen : List Area) (record : UInt64) : Nat → Reading (List Area)
  | 0 => return seen.reverse
  | fuel + 1 =>
    if record = 0 then return seen.reverse
    else do
      let area ← areaAt layout record
      let next ← Reading.pointer .kernel (record + layout.areaNext)
      chainFrom (area :: seen) next fuel

/-- The areas of a task. A kernel thread has no memory of its own. -/
def areasOf (task : UInt64) : Reading (List Area) := do
  let memory ← Reading.pointer .kernel (task + layout.taskMemory)
  if memory = 0 then .fail (.unresolved "task has no mm (kernel thread)")
  else
    let first ← Reading.pointer .kernel (memory + layout.memoryAreas)
    chainFrom layout [] first maxAreas

end SyscallDecode.Kernel
