/-
The process a call was captured in, as far as decoding needs it: its open files and its mapped
areas.
-/
import SyscallDecode.Failure
import SyscallDecode.Process.Area
import SyscallDecode.Process.FileView

namespace SyscallDecode

/-- What can be asked of a process. -/
structure ProcessView where
  /-- The object behind a descriptor. -/
  file : Int32 → Attempt FileView
  /-- The mapped areas, in order. -/
  areas : Attempt (List Area)

namespace ProcessView

/-- No process: nothing can be found out. -/
def absent : ProcessView where
  file := fun _ => .fail (.unresolved "no process is known")
  areas := .fail (.unresolved "no process is known")

/-- A process of which the answers are listed. -/
def listed (files : List (Int32 × Attempt FileView)) (areas : Attempt (List Area)) :
    ProcessView where
  file := fun fd => (files.lookup fd).getD (.ok (.unknown fd "not listed"))
  areas := areas

end ProcessView

end SyscallDecode
