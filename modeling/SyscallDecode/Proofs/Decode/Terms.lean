/-
The terms that every part of a decoding keeps to. Memory is read in one space only; types are asked
for by name; the process is asked for descriptors by values alone, and nothing is aborted but by an
answer.
-/
import SyscallDecode.Decode.Call
import SyscallDecode.Proofs.Inquiry.Within

namespace SyscallDecode

open Course (Within)

/-- Terms that allow reads in a space. -/
def Terms.Reads (T : Terms) (space : AddressSpace) : Prop :=
  ∀ address length, T.asks (.read space address length)

variable {T : Terms} {space : AddressSpace}

/-! ## Memory -/

namespace Reading

theorem unsigned_within (h : T.Reads space) (address : UInt64) (size : Nat) :
    (unsigned space address size).Within T :=
  .bind (.ask _ (h _ _)) fun _ => .pure _

theorem pointer_within (h : T.Reads space) (address : UInt64) :
    (pointer space address).Within T :=
  unsigned_within h _ _

theorem byte_within (h : T.Reads space) (address : UInt64) : (byte space address).Within T :=
  .bind (.ask _ (h _ _)) fun _ => .pure _

theorem string_within (h : T.Reads space) (address : UInt64) (limit : Nat) :
    (string space address limit).Within T := by
  induction limit generalizing address with
  | zero => exact .pure _
  | succ limit ih =>
    refine .bind (byte_within h _) fun byte => ?_
    split
    · exact .pure _
    · exact .bind (ih _) fun _ => .pure _

theorem buffer_within (h : T.Reads space) (address : UInt64) (length : Nat) :
    (buffer space address length).Within T := by
  induction length using Nat.strongRecOn generalizing address with
  | ind length ih =>
    rw [buffer]
    split
    · exact .pure _
    · next hl =>
      refine .bind (.ask _ (h _ _)) fun bytes => .bind (ih _ ?_ _) fun _ => .pure _
      unfold chunkSize; omega

theorem rendered_within (h : T.Reads space) (type : CType) (address : UInt64) :
    (rendered space type address).Within T :=
  .bind (.ask _ (h _ _)) fun _ => .pure _

theorem fail_within {α : Type} {f : Failure} (h : T.stops (.failure f)) :
    (fail f : Reading α).Within T :=
  .stop _ h

end Reading

theorem Cursor.value_within (h : T.Reads space) (hs : ∀ d, T.stops (.failure (.badType d)))
    (address : UInt64) (type : CType) : (Cursor.value ⟨address, some type⟩ space).Within T := by
  refine .bind (.pure type) fun type => ?_
  split
  · exact Reading.unsigned_within h _ _
  · exact Reading.fail_within (hs _)

/-! ## Sockets -/

namespace Socket

theorem addressAt_within (h : T.Reads space) (address : UInt64) (length : Nat) :
    (addressAt space address length).Within T := by
  unfold addressAt
  split
  · exact .pure _
  · refine .bind (.ask _ (h _ _)) fun bytes => ?_
    dsimp only
    split <;> exact .pure _

theorem headerAt_within (h : T.Reads space) (address : UInt64) :
    (headerAt space address).Within T :=
  .bind (Reading.pointer_within h _) fun _ => .bind (Reading.unsigned_within h _ _) fun _ =>
  .bind (Reading.pointer_within h _) fun _ => .bind (Reading.unsigned_within h _ _) fun _ =>
  .bind (Reading.pointer_within h _) fun _ => .bind (Reading.unsigned_within h _ _) fun _ =>
  .bind (Reading.unsigned_within h _ _) fun _ => .pure _

theorem pieceAt_within (h : T.Reads space) (entry : UInt64) : (pieceAt space entry).Within T := by
  refine .bind (Reading.pointer_within h _) fun base =>
    .bind (Reading.unsigned_within h _ _) fun length => .bind ?_ fun _ => .pure _
  unfold previewAt
  split
  · exact .pure _
  · exact .ask _ (h _ _)

theorem orGap_within (ht : T.tolerant) {r : Reading String} (h : r.Within T) :
    (orGap r).Within T := by
  refine .bind (.settle ht h) fun ending => ?_
  cases ending <;> exact .pure _

theorem nameText_within (ht : T.tolerant) (h : T.Reads space) (m : MessageHeader) :
    (nameText space m).Within T := by
  unfold nameText
  split
  · exact .pure _
  · refine .bind (.settle ht (addressAt_within h _ _)) fun ending => ?_
    cases ending <;> exact .pure _

theorem pieceLine_within (ht : T.tolerant) (h : T.Reads space) (m : MessageHeader) (index : Nat) :
    (pieceLine space m index).Within T :=
  .bind (orGap_within ht (pieceAt_within h _)) fun _ => .pure _

theorem shownPieces_within (ht : T.tolerant) (h : T.Reads space) (m : MessageHeader) :
    ∀ indices, (shownPieces space id m indices).Within T
  | [] => .pure _
  | index :: rest =>
    .bind (pieceLine_within ht h m index) fun _ =>
      .bind (shownPieces_within ht h m rest) fun _ => .pure _

theorem pieceLines_within (ht : T.tolerant) (h : T.Reads space) (m : MessageHeader) :
    (pieceLines space id Noted.plain m).Within T := by
  unfold pieceLines
  split
  · exact .pure _
  · refine .bind (shownPieces_within ht h m _) fun shown => ?_
    split <;> exact .pure _

theorem messageAt_within (ht : T.tolerant) (h : T.Reads space) (address : UInt64) :
    (messageAt space address).Within T := by
  refine .bind (headerAt_within h _) fun m => .bind (.ofTelling ht ?_) fun _ => .pure _
  exact .bind (.bind (nameText_within ht h m) fun _ => .pure _) fun _ =>
    .bind (pieceLines_within ht h m) fun _ => .pure _

end Socket

/-! ## Overlays -/

/-- Failures that come of the call itself: a register without a value, or a type that is not known
or does not fit. -/
def Failure.OfCall : Failure → Prop
  | .missingRegister _ | .malformedRegister _ _ | .badType _ => True
  | _ => False

theorem Invocation.register_error {call : Invocation} {index : Nat} {f : Failure}
    (h : call.register index = .error f) : f.OfCall := by
  unfold Invocation.register readRegister at h
  split at h
  · cases h; trivial
  · split at h <;> cases h; trivial

/-- Terms that allow failures that come of the call. -/
def Terms.FailsByCall (T : Terms) : Prop :=
  ∀ f : Failure, f.OfCall → T.stops (.failure f)

namespace Overlay

theorem sibling_within (hs : T.FailsByCall) (call : Invocation) (index : Nat) :
    (sibling call index).Within T := by
  unfold sibling
  cases h : call.register index with
  | ok value => exact .pure _
  | error f => exact .stop _ (hs f (Invocation.register_error h))

theorem path_within (h : T.Reads space) (limit : Nat) (address : UInt64) :
    (path space limit address).Within T :=
  .bind (Reading.string_within h _ _) fun _ => .pure _

theorem buffer_within (h : T.Reads space) (hs : T.FailsByCall) (config : Config)
    (call : Invocation) (index : Nat) (address : UInt64) :
    (buffer space config call index address).Within T := by
  refine .bind (sibling_within hs call index) fun count =>
    .bind (Reading.buffer_within h _ _) fun bytes => ?_
  dsimp only
  split <;> exact .pure _

theorem stringEntry_within (ht : T.tolerant) (h : T.Reads space) (name : String)
    (limit index : Nat) (pointer : UInt64) :
    (stringEntry space name limit index pointer).Within T := by
  refine .bind (.settle ht (Reading.string_within h _ _)) fun ending => ?_
  cases ending <;> exact .pure _

theorem stringEntries_within (ht : T.tolerant) (h : T.Reads space) (hs : T.FailsByCall)
    (name : String) (limit : Nat) (type : CType) (index remaining : Nat) (slot : UInt64) :
    (stringEntries space name limit type index remaining slot).Within T := by
  induction remaining generalizing index slot with
  | zero => exact .pure _
  | succ remaining ih =>
    refine .bind (Cursor.value_within h (fun d => hs (.badType d) trivial) _ _) fun pointer => ?_
    split
    · exact .pure _
    · exact .bind (.ofTelling ht (stringEntry_within ht h _ _ _ _)) fun _ =>
        .bind (ih _ _) fun _ => .pure _

theorem stringArray_within (ht : T.tolerant) (h : T.Reads space)
    (htypes : ∀ name, T.asks (.typeNamed name)) (hs : T.FailsByCall) (name : String) (limit : Nat)
    (address : UInt64) : (stringArray space name limit address).Within T :=
  .bind (.ask _ (htypes _)) fun _ =>
    .bind (stringEntries_within ht h hs _ _ _ _ _ _) fun _ => .pure _

theorem addressLength_within (h : T.Reads space) (htypes : ∀ name, T.asks (.typeNamed name))
    (hs : T.FailsByCall) (call : Invocation) (length : AddressLength) :
    (addressLength space call length).Within T := by
  cases length with
  | absent => exact .pure _
  | inRegister index => exact .bind (sibling_within hs _ _) fun _ => .pure _
  | inMemory index =>
    refine .bind (sibling_within hs _ _) fun pointer => ?_
    split
    · exact .pure _
    · exact .bind (.ask _ (htypes _)) fun type =>
        .bind (Cursor.value_within h (fun d => hs (.badType d) trivial) _ _) fun _ => .pure _

theorem socketAddress_within (h : T.Reads space) (htypes : ∀ name, T.asks (.typeNamed name))
    (hs : T.FailsByCall) (call : Invocation) (length : AddressLength) (address : UInt64) :
    (socketAddress space call length address).Within T :=
  .bind (addressLength_within h htypes hs call length) fun _ =>
    .bind (Socket.addressAt_within h _ _) fun _ => .pure _

theorem whole_within {r : Reading String} (h : r.Within T) : (whole r).Within T :=
  .bind h fun _ => .pure _

theorem ofRole_within (ht : T.tolerant) (h : T.Reads space)
    (htypes : ∀ name, T.asks (.typeNamed name)) (hs : T.FailsByCall) (config : Config)
    (call : Invocation) (arg : Argument) (address : UInt64) :
    (ofRole space config call arg address).Within T := by
  unfold ofRole
  split
  · exact whole_within (path_within h _ _)
  · exact whole_within (buffer_within h hs _ _ _ _)
  · exact stringArray_within ht h htypes hs _ _ _
  · exact whole_within (socketAddress_within h htypes hs _ _ _)
  · exact .bind (Socket.messageAt_within ht h _) fun _ => .pure _
  · exact .pure _

end Overlay

/-! ## Arguments -/

namespace Decode

/-- What an argument may ask for: types, memory of the root of the call, and descriptors. -/
def terms (root : UInt64) : Terms where
  asks
    | .typeNamed _ | .file _ => True
    | .read space _ _ => space = .user root
    | .symbol _ | .areas => False
  stops s := ∃ f : Failure, f.OfCall ∧ s = .failure f

theorem terms_reads (root : UInt64) : (terms root).Reads (.user root) := fun _ _ => rfl

theorem terms_failsByCall (root : UInt64) : (terms root).FailsByCall := fun f hf => ⟨f, hf, rfl⟩

theorem terms_not_abort {root : UInt64} (a : Abort) : ¬ (terms root).stops (.abort a) := by
  rintro ⟨f, -, h⟩; cases h

theorem fileNote_within (h : ∀ fd, T.asks (.file fd)) (ht : T.tolerant) (value : UInt64) :
    (fileNote value).Within T := by
  refine .bind (.bind (.settle ht (.ask _ (h _))) fun ending => ?_) fun _ => .pure _
  cases ending <;> exact .pure _

theorem valueNote_within (h : ∀ fd, T.asks (.file fd)) (ht : T.tolerant) (anonymous : Bool)
    (arg : Argument) (value : UInt64) : (valueNote anonymous arg value).Within T := by
  unfold valueNote
  split
  all_goals try exact .pure _
  · split
    · exact .pure _
    · split
      · exact fileNote_within h ht value
      · exact .pure _
  · exact fileNote_within h ht value

theorem valueText_within (h : ∀ fd, T.asks (.file fd)) (htypes : ∀ name, T.asks (.typeNamed name))
    (ht : T.tolerant) (s : State) (arg : Argument) (value : UInt64) :
    (valueText s arg value).Within T := by
  refine .bind (.settle ht (.ask _ (htypes _))) fun ending => ?_
  cases ending with
  | ok type => exact .bind (valueNote_within h ht _ _ _) fun _ => .pure _
  | error f => exact .pure _

theorem overlayText_within (ht : T.tolerant) (ctx : Context) (h : T.Reads ctx.space)
    (htypes : ∀ name, T.asks (.typeNamed name)) (hs : T.FailsByCall) (arg : Argument)
    (value : UInt64) : (overlayText ctx arg value).Within T := by
  refine .bind (.settle ht (Overlay.ofRole_within ht h htypes hs _ _ _ _)) fun ending => ?_
  cases ending <;> exact .pure _

theorem pointerText_within (ht : T.tolerant) (ctx : Context) (h : T.Reads ctx.space)
    (htypes : ∀ name, T.asks (.typeNamed name)) (hs : T.FailsByCall) (arg : Argument)
    (value : UInt64) : (pointerText ctx arg value).Within T := by
  unfold pointerText
  dsimp only
  split
  · exact .pure _
  refine .bind (.bind (.settle ht (.ask _ (htypes _))) fun type => ?_) fun _ => .pure _
  cases type with
  | error f => exact .pure _
  | ok type =>
    refine .bind (.settle ht (Reading.rendered_within h _ _)) fun text => ?_
    cases text with
    | error f => exact .pure _
    | ok text => exact .bind (overlayText_within ht ctx h htypes hs _ _) fun _ => .pure _

/-- Nothing is looked up behind a null pointer. -/
theorem pointerText_zero (ctx : Context) (arg : Argument) :
    pointerText ctx arg 0 = pure ⟨arg.pointerType ++ ": 0x0 (NULL)", false⟩ := by
  have zero : ": " ++ (Text.hexMarked (UInt64.toNat 0) ++ " (NULL)") = ": 0x0 (NULL)" := by decide
  unfold pointerText
  simp only [if_true, String.append_assoc, zero]

theorem argumentText_within (ctx : Context) (s : State) (arg : Argument)
    (register : Except Failure UInt64) :
    (argumentText ctx s arg register).Within (terms ctx.call.root) := by
  unfold argumentText
  split
  · split
    · exact .bind (pointerText_within trivial ctx (terms_reads _) (fun _ => trivial)
        (terms_failsByCall _) _ _) fun _ => .pure _
    · exact valueText_within (fun _ => trivial) (fun _ => trivial) trivial _ _ _
  · exact .pure _

end Decode

end SyscallDecode
