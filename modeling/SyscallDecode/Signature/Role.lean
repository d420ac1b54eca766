/-
What an argument means, told from the call it belongs to, its name, its type and the parameter
behind it.
-/
import SyscallDecode.Signature.Basic
import SyscallDecode.Text.Search

namespace SyscallDecode.Role

/-- Calls that create sockets. -/
def socketCalls : List String := ["socket", "socketpair"]

/-- Calls whose flags are message flags. -/
def messageCalls : List String := ["sendto", "recvfrom", "sendmsg", "recvmsg"]

/-- Parameter names of a path. -/
def pathNames : List String := ["filename", "pathname", "oldname", "newname", "path"]

/-- Whether a parameter is named for a length. -/
def isLengthName (name : String) : Bool :=
  Text.contains name "len"

/-- The role of a parameter that is no pointer. -/
def ofValue (call name : String) : Role :=
  if call = "mmap" ∧ name = "flags" then .mapFlags
  else if call = "mmap" ∧ (name = "fd" ∨ name = "pgoff") then .mapBacking
  else if (call = "mmap" ∨ call = "mprotect") ∧ name = "prot" then .protection
  else if call ∈ messageCalls ∧ name = "flags" then .messageFlags
  else if name = "fd" ∨ name = "sockfd" then .descriptor
  else if call ∈ socketCalls ∧ (name = "family" ∨ name = "domain") then .socketChoice .family
  else if call ∈ socketCalls ∧ name = "type" then .socketChoice .type
  else if call ∈ socketCalls ∧ name = "protocol" then .socketChoice .protocol
  else .plain

/-- Where the length of a socket address stands, given the parameter behind it. -/
def addressLength (next : Option Param) (index : Nat) : AddressLength :=
  match next with
  | some next =>
    if isLengthName next.name then
      if next.isPointer then .inMemory (index + 1) else .inRegister (index + 1)
    else .absent
  | none => .absent

/-- Whether the parameter behind a buffer counts its bytes. -/
def isCounted (next : Option Param) : Bool :=
  match next with
  | some next => next.name == "count" || next.name == "len"
  | none => false

/-- The role of a pointer. The buffer that `read` fills is empty when the call begins, so it has
none. -/
def ofPointer (call : String) (param : Param) (next : Option Param) (index : Nat) : Role :=
  let pointee := CType.normalizeName param.type
  if param.name ∈ pathNames then .path
  else if param.name = "buf" ∧ call ≠ "read" ∧ isCounted next then .buffer (index + 1)
  else if param.name = "argv" ∨ param.name = "envp" then .stringArray
  else if pointee = "struct sockaddr" then .socketAddress (addressLength next index)
  else if pointee = "struct msghdr" ∨ pointee = "struct user_msghdr" then .messageHeader
  else .plain

/-- The role of one of the parameters of a call. -/
def classify (call : String) (params : List Param) (index : Nat) : Role :=
  match params[index]? with
  | none => .plain
  | some param =>
    if param.isPointer then ofPointer call param params[index + 1]? index
    else ofValue call param.name

end SyscallDecode.Role
