/-
From a descriptor number to the object behind it, through kernel memory: task, open files,
descriptor table, slot, file, and then the socket or the directory entry. Every link may be
unreadable or null; the first that is ends the walk.
-/
import SyscallDecode.Inquiry.Memory
import SyscallDecode.Kernel.Layout
import SyscallDecode.Process.FileView

namespace SyscallDecode.Kernel

open SyscallDecode.Text

variable (layout : KernelLayout)

/-- Follows a link, which must not be null. -/
def follow (address : UInt64) (null : String) : Reading UInt64 := do
  let link ← Reading.pointer .kernel address
  if link = 0 then .fail (.unresolved null) else return link

/-- The address of a slot of the descriptor array. The distance has to fit a word. -/
def slotAddress (slots : UInt64) (fd : Nat) : Reading UInt64 :=
  let distance := fd * layout.pointerSize.toNat
  if distance < UInt64.size then return slots + UInt64.ofNat distance
  else .abort (.because "attempt to multiply with overflow")

/-- The open file of a descriptor that is not negative. -/
def openFile (task : UInt64) (fd : Nat) : Reading UInt64 := do
  let files ← follow (task + layout.taskFiles) "task has no open-file table"
  let table ← follow (files + layout.filesTable) "open-file table has no fdtable"
  let maxFds ← Reading.unsigned .kernel (table + layout.tableMaxFds) 4
  if maxFds.toNat ≤ fd then
    .fail (.unresolved
      ("descriptor " ++ toString fd ++ " is past max_fds " ++ toString maxFds.toNat))
  else
    let slots ← follow (table + layout.tableSlots) "fdtable has no descriptor array"
    let slot ← slotAddress layout slots fd
    follow slot ("descriptor " ++ toString fd ++ " is not open")

/-- Whether a file's operations are those of sockets. Without the symbol no file is a socket. -/
def isSocket (ops : UInt64) : Telling Bool := do
  match ← (Reading.symbol layout.socketOpsSymbol).settle with
  | .ok address => return address == ops
  | .error _ => return false

/-- The view of a socket. -/
def socketView (file : UInt64) (fd : Int32) : Reading FileView := do
  let socket ← follow (file + layout.filePrivate) "socket file without a socket"
  let type ← Reading.unsigned .kernel (socket + layout.socketType) 2
  let state ← Reading.unsigned .kernel (socket + layout.socketState) layout.pointerSize.toNat
  return .socket fd (some type) (some state)

/-- The view of any other file, named by its directory entry if it has one. -/
def fileView (file : UInt64) (fd : Int32) : Reading FileView := do
  let dentry ← Reading.pointer .kernel (file + layout.fileDentry)
  if dentry = 0 then return .regular fd none
  else
    let name ← Reading.string .kernel (dentry + layout.dentryName) layout.dentryNameLength
    return .regular fd (some (decodeLossy name))

/-- The object behind a descriptor of a task. -/
def fileOf (task : UInt64) (fd : Int32) : Reading FileView := do
  if fd < 0 then .fail (.unresolved ("invalid descriptor " ++ toString fd.toInt))
  else
    let file ← openFile layout task fd.toInt.toNat
    let ops ← Reading.pointer .kernel (file + layout.fileOps)
    let socket ← Reading.ofTelling (isSocket layout ops)
    if socket then socketView layout file fd else fileView layout file fd

end SyscallDecode.Kernel
