/-
Readings of user memory by the role of a pointer: paths, buffers, arrays of strings, socket
addresses and message headers. They come behind the generic text of the value.
-/
import SyscallDecode.Decode.Config
import SyscallDecode.Invocation.Binding
import SyscallDecode.Socket.Message
import SyscallDecode.Target.Cursor

namespace SyscallDecode.Overlay

open SyscallDecode.Text

variable (space : AddressSpace)

/-- The value of another register of the call. -/
def sibling (call : Invocation) (index : Nat) : Reading UInt64 :=
  .ofResult (Attempt.ofResult (call.register index))

/-! ## Paths and buffers -/

/-- The bytes of a path, in both views. -/
def path (limit : Nat) (address : UInt64) : Reading String := do
  let bytes ← Reading.string space address limit
  return "\nhex: " ++ hexDump bytes ++ " string: " ++ quote (graphicText bytes)

/-- How many of `count` bytes are wanted. -/
def wantedBytes (limit : Option Nat) (count : Nat) : Nat :=
  match limit with
  | some limit => min count limit
  | none => count

/-- The text of a buffer of `count` bytes of which these were read. -/
def bufferText (count : Nat) (bytes : List UInt8) : String :=
  "\nbuffer content hex (of size " ++ toString count ++ "):\n" ++ hexDump bytes ++
    "\nbuffer content string: " ++ quote (graphicText bytes)

/-- A buffer with the length of another register. -/
def buffer (config : Config) (call : Invocation) (lengthIndex : Nat) (address : UInt64) :
    Reading String := do
  let count ← sibling call lengthIndex
  let wanted := wantedBytes config.bufferLimit count.toNat
  let bytes ← Reading.buffer space address wanted
  let text := bufferText count.toNat bytes
  if wanted < count.toNat then
    return text ++ " (first " ++ toString wanted ++ " of " ++ toString count.toNat ++ " bytes)"
  else return text

/-! ## Arrays of strings -/

/-- An array of strings shows no more entries than this. -/
def maxStrings : Nat := 1024

/-- One entry: the string behind a pointer, or why it cannot be read. -/
def stringEntry (name : String) (limit : Nat) (index : Nat) (pointer : UInt64) :
    Telling (Noted String) := do
  let head := "\n" ++ name ++ "[" ++ toString index ++ "] @ " ++ hexMarked pointer.toNat ++ " -> "
  match ← (Reading.string space pointer limit).settle with
  | .ok bytes => return ⟨head ++ quote (decodeLossy bytes), false⟩
  | .error failure => return ⟨head ++ "cannot dereference: " ++ failure.message, true⟩

/-- The entries from a slot on, up to a null pointer or until no more may be shown. -/
def stringEntries (name : String) (limit : Nat) (type : CType) :
    Nat → Nat → UInt64 → Reading (List (Noted String))
  | _, 0, _ =>
    return [⟨"\n... stopped after " ++ toString maxStrings ++ " entries", false⟩]
  | index, remaining + 1, slot => do
    let pointer ← Cursor.value ⟨slot, some type⟩ space
    if pointer = 0 then return []
    else
      let entry ← Reading.ofTelling (stringEntry space name limit index pointer)
      let rest ←
        stringEntries name limit type (index + 1) remaining (slot + UInt64.ofNat type.size)
      return entry :: rest

/-- An array of pointers to strings that ends with a null pointer. -/
def stringArray (name : String) (limit : Nat) (address : UInt64) : Reading (Noted String) := do
  let type ← Reading.typeNamed "char __user *"
  let entries ← stringEntries space name limit type 0 maxStrings address
  return (Noted.all entries).map String.join

/-! ## Sockets -/

/-- The length of an address of which no argument gives it. -/
def assumedLength : Nat := 16

/-- The length of a socket address. A null pointer to a length stands for the longest one. -/
def addressLength (call : Invocation) : AddressLength → Reading Nat
  | .inRegister index => do
    let length ← sibling call index
    return length.toNat
  | .inMemory index => do
    let pointer ← sibling call index
    if pointer = 0 then return Socket.maxAddressLength
    else
      let type ← Reading.typeNamed "int"
      let length ← Cursor.value ⟨pointer, some type⟩ space
      return length.toNat
  | .absent => return assumedLength

/-- A socket address. -/
def socketAddress (call : Invocation) (length : AddressLength) (address : UInt64) :
    Reading String := do
  let length ← addressLength space call length
  let text ← Socket.addressAt space address length
  return "\n" ++ text

/-! ## By role -/

/-- A text without gaps. -/
def whole (reading : Reading String) : Reading (Noted String) := do
  let text ← reading
  return ⟨text, false⟩

/-- What a role adds to the text of a pointer. -/
def ofRole (config : Config) (call : Invocation) (arg : Argument) (address : UInt64) :
    Reading (Noted String) :=
  match arg.role with
  | .path => whole (path space config.stringLimit address)
  | .buffer lengthIndex => whole (buffer space config call lengthIndex address)
  | .stringArray => stringArray space arg.displayName config.stringLimit address
  | .socketAddress length => whole (socketAddress space call length address)
  | .messageHeader => do
    let message ← Socket.messageAt space address
    return message.map ("\n" ++ ·)
  | _ => return ⟨"", false⟩

end SyscallDecode.Overlay
