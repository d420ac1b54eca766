/-
A cursor: an address and a type that can be changed one after the other, and the value that both
describe. A change that fails leaves the cursor as it was.
-/
import SyscallDecode.Inquiry.Memory

namespace SyscallDecode

/-- A place in memory and, once one was set, a type for what lies there. -/
structure Cursor where
  address : UInt64 := 0
  type : Option CType := none

namespace Cursor

/-! ## Movement -/

/-- Moves to an address. -/
def goTo (cursor : Cursor) (address : UInt64) : Cursor :=
  { cursor with address }

/-- Moves by a signed distance, around the ends of the address space. -/
def move (cursor : Cursor) (offset : Int64) : Cursor :=
  { cursor with address := cursor.address + offset.toUInt64 }

/-- Takes the type of a name. -/
def retype (cursor : Cursor) (name : String) : Reading Cursor := do
  let type ← Reading.typeNamed name
  return { cursor with type := some type }

/-! ## Reading -/

/-- The bytes of the current type; zero without one. -/
def size (cursor : Cursor) : Nat :=
  (cursor.type.map CType.size).getD 0

/-- The current type. -/
def currentType (cursor : Cursor) : Reading CType :=
  match cursor.type with
  | some type => return type
  | none => .fail (.badType "<no type>")

/-- The value as a word; the type has to be a scalar. -/
def value (cursor : Cursor) (space : AddressSpace) : Reading UInt64 := do
  let type ← cursor.currentType
  if type.isScalar then Reading.unsigned space cursor.address type.size
  else .fail (.badType (type.name ++ " is not a scalar type"))

/-- The text of the value. -/
def render (cursor : Cursor) (space : AddressSpace) : Reading String := do
  let type ← cursor.currentType
  Reading.rendered space type cursor.address

/-! ## Steps -/

/-- What can be done with a cursor. -/
inductive Step
  | goTo (address : UInt64)
  | move (offset : Int64)
  | retype (name : String)
  | size
  | value
  | render

/-- What a step answers. -/
inductive Answer
  | address (address : UInt64)
  | type (type : CType)
  | size (size : Nat)
  | value (value : UInt64)
  | text (text : String)

/-- One step: the cursor after it, and its answer or failure. -/
def step (space : AddressSpace) (cursor : Cursor) :
    Step → Telling (Cursor × Except Failure Answer)
  | .goTo address => return (cursor.goTo address, .ok (.address address))
  | .move offset =>
    let moved := cursor.move offset
    return (moved, .ok (.address moved.address))
  | .retype name => do
    match ← (Reading.typeNamed name).settle with
    | .ok type => return ({ cursor with type := some type }, .ok (.type type))
    | .error f => return (cursor, .error f)
  | .size => return (cursor, .ok (.size cursor.size))
  | .value => do return (cursor, (← (cursor.value space).settle).map .value)
  | .render => do return (cursor, (← (cursor.render space).settle).map .text)

/-- Steps in order, each in a space of its own. -/
def steps : Cursor → List (AddressSpace × Step) →
    Telling (Cursor × List (Except Failure Answer))
  | cursor, [] => return (cursor, [])
  | cursor, (space, s) :: rest => do
    let (cursor, answer) ← step space cursor s
    let (cursor, answers) ← steps cursor rest
    return (cursor, answer :: answers)

/-- Steps in order on a target, each in a space of its own. -/
def walk (t : Target) (cursor : Cursor) (list : List (AddressSpace × Step)) :
    Except Abort (Cursor × List (Except Failure Answer)) :=
  (steps cursor list).on t.world

/-- Steps in order on a target, all in one space. -/
def run (t : Target) (space : AddressSpace) (cursor : Cursor) (list : List Step) :
    Except Abort (Cursor × List (Except Failure Answer)) :=
  walk t cursor (list.map fun s => (space, s))

end Cursor

end SyscallDecode
