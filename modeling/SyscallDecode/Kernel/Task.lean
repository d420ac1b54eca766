/-
A task of the kernel as a process: its files and its areas are found by walking kernel memory.
-/
import SyscallDecode.Kernel.Areas
import SyscallDecode.Kernel.Descriptor

namespace SyscallDecode.Kernel

variable (t : Target) (layout : KernelLayout)

/-- The object behind a descriptor of a task of a target. -/
def resolve (task : UInt64) (fd : Int32) : Attempt FileView :=
  (fileOf layout task fd).on t.world

/-- The areas of a task of a target. -/
def areas (task : UInt64) : Attempt (List Area) :=
  (areasOf layout task).on t.world

/-- The task at an address. -/
def taskView (task : UInt64) : ProcessView where
  file := resolve t layout task
  areas := areas t layout task

/-- The task that runs on the processor whose own data starts at `base`. -/
def current (base : UInt64) : Reading UInt64 := do
  let symbol ← Reading.symbol layout.currentTaskSymbol
  let task ← Reading.pointer .kernel (symbol + base)
  if task = 0 then .fail (.unresolved "no current task") else return task

/-- The task that runs on such a processor of a target. -/
def currentTask (base : UInt64) : Attempt UInt64 :=
  (current layout base).on t.world

end SyscallDecode.Kernel
