/-
What stands behind a file descriptor, as far as it is shown.
-/
import SyscallDecode.Flags.Socket
import SyscallDecode.Text.Quoted

namespace SyscallDecode

open SyscallDecode.Text

/-- The kind of an open file. -/
inductive FileKind
  | regular
  | socket
  | unknown
  deriving DecidableEq, Repr

/-- A descriptor and the object behind it. Which of the fields are set depends on the kind and on
what could be found out. -/
structure FileView where
  descriptor : Int32
  kind : FileKind
  path : Option String := none
  socketType : Option UInt64 := none
  socketState : Option UInt64 := none
  detail : Option String := none
  deriving DecidableEq, Repr

namespace FileView

/-- A file with a path, if one is known. -/
def regular (descriptor : Int32) (path : Option String) : FileView :=
  { descriptor, kind := .regular, path }

/-- A socket. -/
def socket (descriptor : Int32) (type state : Option UInt64) : FileView :=
  { descriptor, kind := .socket, socketType := type, socketState := state }

/-- Something else. -/
def unknown (descriptor : Int32) (detail : String) : FileView :=
  { descriptor, kind := .unknown, detail := some detail }

/-- A number of a socket in words, if it is known. -/
def socketWord (inWords : UInt64 → String) : Option UInt64 → String
  | some value => inWords value
  | none => "unavailable"

/-- The object in words. A socket never shows a path. -/
def text (view : FileView) : String :=
  match view.kind with
  | .socket =>
    "(socket) -> type: " ++ socketWord Flags.socketType view.socketType ++ " flags: " ++
      socketWord Flags.socketState view.socketState
  | .regular =>
    match view.path with
    | some path => quote path
    | none => "no filename"
  | .unknown => "(unknown) " ++ view.detail.getD "unclassified file object"

end FileView

end SyscallDecode
