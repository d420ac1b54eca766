/-
One argument in words. What fails becomes part of the text, so that an argument always has one;
only an abort leaves it without. Arguments are decoded in order, and each leaves a state to the
next.
-/
import SyscallDecode.Decode.Overlay
import SyscallDecode.Flags.Memory

namespace SyscallDecode.Decode

open SyscallDecode.Text

/-! ## What an argument depends on -/

/-- What all arguments of a call may depend on. -/
structure Context where
  config : Config
  call : Invocation

/-- The space that pointers of the call lead into. -/
def Context.space (ctx : Context) : AddressSpace :=
  .user ctx.call.root

/-- What the arguments decoded so far leave to the next. -/
structure State where
  /-- Whether the call asks for a mapping without a file. -/
  anonymous : Bool := false
  /-- Whether something stands for memory that could not be read. -/
  missed : Bool := false
  deriving DecidableEq, Repr

namespace State

/-- The state after a text with or without gaps. -/
def noting (s : State) (missed : Bool) : State :=
  { s with missed := s.missed || missed }

/-- The state after a value of a known type. -/
def afterValue (s : State) (arg : Argument) (value : UInt64) : State :=
  { s with anonymous := s.anonymous || (arg.role == .mapFlags && Flags.isAnonymous value) }

end State

/-! ## Values -/

/-- The object behind a descriptor. A descriptor is a signed number of 32 bits; the upper half of
its register does not count. -/
def fileText (value : UInt64) : Telling String := do
  match ← (Reading.file value.toUInt32.toInt32).settle with
  | .ok view => return view.text
  | .error failure => return "cannot resolve: " ++ failure.message

/-- What a socket is chosen to be. -/
def choiceText (choice : SocketChoice) (value : UInt64) : String :=
  match choice with
  | .family => Flags.family value
  | .type => Flags.socketType value
  | .protocol => Flags.protocol value

/-- The text of the object behind a descriptor, marked as what follows from the value. -/
def fileNote (value : UInt64) : Telling String := do
  let text ← fileText value
  return " -> " ++ text

/-- What a role adds to the text of a value. -/
def valueNote (anonymous : Bool) (arg : Argument) (value : UInt64) : Telling String :=
  match arg.role with
  | .mapFlags => return " (" ++ Flags.mapFlags value ++ ")"
  | .protection => return " (" ++ Flags.protection value ++ ")"
  | .messageFlags => return " (" ++ Flags.messageFlags value ++ ")"
  | .socketChoice choice => return " (" ++ choiceText choice value ++ ")"
  | .mapBacking =>
    if anonymous then return " (ignored due to MAP_ANONYMOUS)"
    else if arg.name = "fd" then fileNote value
    else return ""
  | .descriptor => fileNote value
  | _ => return ""

/-- An argument passed by value. Its type has to be known, though the value is the register
itself. -/
def valueText (s : State) (arg : Argument) (value : UInt64) : Telling (String × State) := do
  match ← (Reading.typeNamed arg.type).settle with
  | .ok _ =>
    let note ← valueNote s.anonymous arg value
    return (arg.type ++ ": " ++ hexMarked value.toNat ++ note, s.afterValue arg value)
  | .error failure =>
    return (hexMarked value.toNat ++ " exception: " ++ failure.message,
      s.noting failure.isUnreadable)

/-! ## Pointers -/

variable (ctx : Context)

/-- What a role adds behind the text of a pointer's value; a failure is a gap. -/
def overlayText (arg : Argument) (value : UInt64) : Telling (Noted String) := do
  match ← (Overlay.ofRole ctx.space ctx.config ctx.call arg value).settle with
  | .ok overlay => return overlay
  | .error failure => return ⟨"\nexception: " ++ failure.message, true⟩

/-- What stands behind a pointer that is not null. -/
def pointeeText (arg : Argument) (value : UInt64) : Telling (Noted String) := do
  match ← (Reading.typeNamed arg.type).settle with
  | .error failure => return ⟨" cannot dereference: " ++ failure.message, false⟩
  | .ok type =>
    match ← (Reading.rendered ctx.space type value).settle with
    | .error failure =>
      return ⟨" cannot dereference: " ++ failure.message, failure.isUnreadable⟩
    | .ok text =>
      let overlay ← overlayText ctx arg value
      return overlay.map fun overlay => " ->\n" ++ text ++ overlay

/-- A pointer argument. -/
def pointerText (arg : Argument) (value : UInt64) : Telling (Noted String) := do
  let head := arg.pointerType ++ ": " ++ hexMarked value.toNat
  if value = 0 then return ⟨head ++ " (NULL)", false⟩
  else
    let pointee ← pointeeText ctx arg value
    return pointee.map (head ++ ·)

/-! ## Arguments -/

/-- The text of an argument, given what its register holds, and the state after it. -/
def argumentText (s : State) (arg : Argument) (register : Except Failure UInt64) :
    Telling (String × State) :=
  match register with
  | .ok value =>
    if arg.isPointer then do
      let text ← pointerText ctx arg value
      return (text.value, s.noting text.missed)
    else valueText s arg value
  | .error failure => return ("skipped: " ++ failure.message, s)

end SyscallDecode.Decode
