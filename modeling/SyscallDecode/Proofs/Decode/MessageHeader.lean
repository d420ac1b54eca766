/-
Two readings of one message header. A call that sends or receives a message shows its header twice:
as the struct that the catalogue describes, read at once, and as a message, read member by member.
Where memory is made of single bytes both have the same numbers.
-/
import SyscallDecode.Proofs.CType.Members
import SyscallDecode.Proofs.Decode.MemoryMap
import SyscallDecode.Proofs.Socket.Message

namespace SyscallDecode

open SyscallDecode.Text

/-! ## The struct -/

theorem memberValue_scalar {bytes : List UInt8} {offset size : Nat}
    (inside : offset + size ≤ bytes.length) (name type : String) (kind : ScalarKind) :
    memberValue bytes (.mk name offset (.scalar type size kind)) =
      CType.renderScalar kind size ((bytes.drop offset).take size) := by
  unfold memberValue
  dsimp only [Member.offset, Member.type, CType.size]
  rw [slice?_of_le inside]
  dsimp only
  rw [CType.renderValue, List.take_take, Nat.min_self]

namespace Socket

/-- The header that lies in the bytes of a struct. -/
def headerOf (bytes : List UInt8) : MessageHeader where
  name := wordIn bytes 0 8
  nameLength := wordIn bytes 8 4
  pieces := wordIn bytes 16 8
  pieceCount := wordIn bytes 24 8
  control := wordIn bytes 32 8
  controlLength := wordIn bytes 40 8
  flags := wordIn bytes 48 4

/-- A pointer as it is shown in a struct. -/
def pointerShown (pointer : UInt64) : String :=
  if pointer = 0 then "NULL" else hexMarked pointer.toNat

/-- The text of a header as a struct. -/
def MessageHeader.structText (h : MessageHeader) : String :=
  "struct msghdr \x7b" ++
    memberLine "msg_name" (pointerShown h.name) ++
    memberLine "msg_namelen" (toString (signedValue h.nameLength 4)) ++
    memberLine "msg_iov" (pointerShown h.pieces) ++
    memberLine "msg_iovlen" (toString h.pieceCount.toNat) ++
    memberLine "msg_control" (pointerShown h.control) ++
    memberLine "msg_controllen" (toString h.controlLength.toNat) ++
    memberLine "msg_flags" (toString h.flags.toNat) ++ "\n\x7d"

/-- The type of a header in the catalogue. -/
def messageType : CType :=
  .struct "struct msghdr" 56 CType.msghdrMembers

/-- The struct has the texts of the words that lie at the offsets of its members. -/
theorem render_headerOf {bytes : List UInt8} (length : bytes.length = 56) :
    messageType.render bytes = (headerOf bytes).structText := by
  have inside {offset size : Nat} (h : offset + size ≤ 56) : offset + size ≤ bytes.length := by
    rw [length]
    exact h
  rw [messageType, CType.render_struct length]
  unfold CType.msghdrMembers CType.voidPointer CType.int CType.uint
  simp only [List.map_cons, List.map_nil, String.join_cons]
  iterate 7 rw [memberValue_scalar (inside (by decide))]
  have opening : "struct msghdr" ++ " \x7b" = "struct msghdr \x7b" := rfl
  have closing : String.join [] ++ "\n\x7d" = "\n\x7d" := rfl
  unfold MessageHeader.structText
  rw [opening]
  simp only [String.append_assoc, closing]
  rfl

/-- Member by member the same words are read. -/
theorem headerAttempts_of_read {t : Target} {cell : AddressSpace → UInt64 → Option UInt8}
    (memory : t.ByteAddressed cell) {space : AddressSpace} {address : UInt64}
    {bytes : List UInt8} (whole : t.read space address 56 = .ok bytes) :
    headerAttempts t space address = (headerOf bytes).words.map .ok := by
  have word {start size : Nat} (inside : start + size ≤ 56) (small : size ≤ 8) :=
    memory.readUnsigned_of_read whole inside small
  have name : t.readPointer space address = .ok (wordIn bytes 0 8) := by
    have zero := @word 0 8 (by decide) (by decide)
    rwa [offset_zero] at zero
  have nameLength : t.readUnsigned space (address + 8) 4 = .ok (wordIn bytes 8 4) :=
    @word 8 4 (by decide) (by decide)
  have pieces : t.readPointer space (address + 16) = .ok (wordIn bytes 16 8) :=
    @word 16 8 (by decide) (by decide)
  have pieceCount : t.readUnsigned space (address + 24) 8 = .ok (wordIn bytes 24 8) :=
    @word 24 8 (by decide) (by decide)
  have control : t.readPointer space (address + 32) = .ok (wordIn bytes 32 8) :=
    @word 32 8 (by decide) (by decide)
  have controlLength : t.readUnsigned space (address + 40) 8 = .ok (wordIn bytes 40 8) :=
    @word 40 8 (by decide) (by decide)
  have flags : t.readUnsigned space (address + 48) 4 = .ok (wordIn bytes 48 4) :=
    @word 48 4 (by decide) (by decide)
  unfold headerAttempts
  rw [name, nameLength, pieces, pieceCount, control, controlLength, flags]
  rfl

/-! ## The message -/

variable {t : Target} {space : AddressSpace}

/-- The lines of a message with this header: what stands behind the pointer to a name, and the lines
of the pieces, do not come from the header alone. -/
def MessageHeader.told (h : MessageHeader) (behind : String) (pieces : List String) :
    List String :=
  ["msg_name: " ++ pointerShown h.name ++ behind ++ " (namelen " ++
     toString h.nameLength.toNat ++ ")",
   "msg_iov: " ++ hexMarked h.pieces.toNat ++ " msg_iovlen: " ++ toString h.pieceCount.toNat] ++
  pieces ++
  ["msg_control: " ++ hexMarked h.control.toNat ++ " msg_controllen: " ++
     toString h.controlLength.toNat,
   "msg_flags: " ++ Flags.messageFlags h.flags]

/-- What stands behind a pointer to a name is set off from it. -/
theorem value_namePlan (h : MessageHeader) :
    ∃ behind, (behind = "" ∨ ∃ rest, behind = " " ++ rest) ∧
      ((namePlan space h).lineOn t).value = "msg_name: " ++ pointerShown h.name ++ behind ++
        " (namelen " ++ toString h.nameLength.toNat ++ ")" := by
  unfold namePlan pointerShown
  by_cases null : h.name = 0
  · refine ⟨"", .inl rfl, ?_⟩
    simp only [null, if_true, String.append_empty]
    rfl
  · simp only [null, if_false]
    unfold LinePlan.lineOn
    cases (addressAt space h.name h.nameLength.toNat).on t.world with
    | ok text =>
      have arrow : " -> " = " " ++ "-> " := rfl
      refine ⟨" -> " ++ text, .inr ⟨"-> " ++ text, ?_⟩, ?_⟩
      · rw [arrow, String.append_assoc]
      · simp only [LinePlan.ended, String.append_assoc]
    | error stop =>
      refine ⟨" " ++ ("cannot dereference: " ++ stop.message), .inr ⟨_, rfl⟩, ?_⟩
      simp only [LinePlan.ended, String.append_assoc]

/-- A message of which the header can be read at once has the numbers of that header. -/
theorem readMessage_of_read {cell : AddressSpace → UInt64 → Option UInt8}
    (memory : t.ByteAddressed cell) {address : UInt64} {bytes : List UInt8}
    (whole : t.read space address 56 = .ok bytes) :
    ∃ behind pieces missed, (behind = "" ∨ ∃ rest, behind = " " ++ rest) ∧
      readMessage t space address =
        .ok ⟨"\n".intercalate ((headerOf bytes).told behind pieces), missed⟩ := by
  have attempts := headerAttempts_of_read memory whole
  rcases readMessage_ends memory.calm space address with ⟨stop, stopped, -⟩ | ⟨h, gives, ends⟩
  · rw [attempts, firstStop_map_ok] at stopped
    cases stopped
  · have words : h.words = (headerOf bytes).words :=
      (List.map_inj_right fun _ _ => Except.ok.inj).1 (gives.symm.trans attempts)
    cases MessageHeader.eq_of_words words
    obtain ⟨behind, apart, name⟩ := @value_namePlan t space (headerOf bytes)
    refine ⟨behind, ((piecePlans space (headerOf bytes)).map fun p => (p.lineOn t).value),
      ((plan space (headerOf bytes)).map fun p => p.lineOn t).any Noted.missed, apart, ?_⟩
    rw [ends]
    unfold MessageHeader.told
    rw [← name]
    unfold plan
    simp only [Noted.all, Noted.map, List.map_append, List.map_map]
    rfl

/-- The length of a name is shown signed in one place and unsigned in the other. -/
theorem signedValue_emod (value : UInt64) :
    signedValue value 4 % 4294967296 = (value.toNat : Int) % 4294967296 := by
  rw [signedValue_eq_bmod (by decide) (by decide)]
  exact Int.bmod_emod

end Socket

namespace Decode

open SyscallDecode.Socket

/-! ## Both in a report -/

/-- The message of a call that sends or receives one. -/
def messageArgument (direction : Direction) : Argument :=
  ⟨1, "msg", "struct msghdr", true, direction, .messageHeader⟩

/-- Sending and receiving a message have it as their second argument. -/
theorem find?_message {number : UInt64} (h : number = 46 ∨ number = 47) :
    ∃ s direction, Signature.find? number = some s ∧
      s.arguments[1]? = some (messageArgument direction) ∧
      (messageArgument direction).pointerType ++ ": " = "struct msghdr __user *: " := by
  have send : (Signature.find? 46).bind (·.arguments[1]?) = some (messageArgument .read) := by
    decide +kernel
  have receive : (Signature.find? 47).bind (·.arguments[1]?) = some (messageArgument .write) := by
    decide +kernel
  rcases h with rfl | rfl
  · obtain ⟨s, known, argument⟩ := Option.bind_eq_some_iff.1 send
    exact ⟨s, .read, known, argument, rfl⟩
  · obtain ⟨s, known, argument⟩ := Option.bind_eq_some_iff.1 receive
    exact ⟨s, .write, known, argument, rfl⟩

theorem on_overlayText {ctx : Context} {w : World} {arg : Argument} {value : UInt64}
    {overlay : Noted String}
    (laid : (Overlay.ofRole ctx.space ctx.config ctx.call arg value).on w = .ok overlay) :
    (overlayText ctx arg value).on w = .ok overlay := by
  unfold overlayText
  rw [Course.on_bind_ok _ (Reading.on_settle_ok _ laid)]
  rfl

/-- A pointer with a generic text shows what its role adds behind it. -/
theorem on_pointerText_of_overlayText {ctx : Context} {w : World} {arg : Argument} {value : UInt64}
    {type : CType} {generic : String} {overlay : Noted String} (nonnull : value ≠ 0)
    (known : (Reading.typeNamed arg.type).on w = .ok type)
    (shown : (Reading.rendered ctx.space type value).on w = .ok generic)
    (overlaid : (overlayText ctx arg value).on w = .ok overlay) :
    (pointerText ctx arg value).on w = .ok (overlay.map fun overlay =>
      arg.pointerType ++ ": " ++ hexMarked value.toNat ++ " ->\n" ++ generic ++ overlay) := by
  have pointee : (pointeeText ctx arg value).on w =
      .ok (overlay.map fun overlay => " ->\n" ++ generic ++ overlay) := by
    unfold pointeeText
    rw [Course.on_bind_ok _ (Reading.on_settle_ok _ known)]
    dsimp only
    rw [Course.on_bind_ok _ (Reading.on_settle_ok _ shown)]
    dsimp only
    rw [Course.on_bind_ok _ overlaid]
    rfl
  unfold pointerText
  dsimp only
  rw [if_neg nonnull, Course.on_bind_ok _ pointee]
  simp only [Course.on_pure, Noted.map, String.append_assoc]

/-- A pointer with a generic text and an overlay shows both. -/
theorem on_pointerText {ctx : Context} {w : World} {arg : Argument} {value : UInt64}
    {type : CType} {generic : String} {overlay : Noted String} (nonnull : value ≠ 0)
    (known : (Reading.typeNamed arg.type).on w = .ok type)
    (shown : (Reading.rendered ctx.space type value).on w = .ok generic)
    (laid : (Overlay.ofRole ctx.space ctx.config ctx.call arg value).on w = .ok overlay) :
    (pointerText ctx arg value).on w = .ok (overlay.map fun overlay =>
      arg.pointerType ++ ": " ++ hexMarked value.toNat ++ " ->\n" ++ generic ++ overlay) :=
  on_pointerText_of_overlayText nonnull known shown (on_overlayText laid)

theorem builtin?_message : CType.builtin? "struct msghdr" = some messageType := rfl

/-- Where the struct can be shown, the text of the argument has both readings of its header. -/
theorem on_messageText {t : Target} {cell : AddressSpace → UInt64 → Option UInt8}
    (memory : t.ByteAddressed cell) (process : ProcessView) (ctx : Context)
    (direction : Direction) {value : UInt64} (nonnull : value ≠ 0)
    (typed : t.typeNamed "struct msghdr" = .ok messageType) {generic : String}
    (shown : t.renderAt ctx.space messageType value = .ok generic) :
    ∃ (h : MessageHeader) (behind : String) (pieces : List String) (missed : Bool),
      generic = h.structText ∧ (behind = "" ∨ ∃ rest, behind = " " ++ rest) ∧
      (pointerText ctx (messageArgument direction) value).on ⟨t, process⟩ =
        .ok ⟨(messageArgument direction).pointerType ++ ": " ++ hexMarked value.toNat ++ " ->\n" ++
          generic ++ "\n" ++ "\n".intercalate (h.told behind pieces), missed⟩ := by
  obtain ⟨bytes, whole, text⟩ := Target.bytes_of_renderAt shown
  obtain ⟨behind, pieces, missed, apart, message⟩ := readMessage_of_read memory whole
  refine ⟨headerOf bytes, behind, pieces, missed, ?_, apart, ?_⟩
  · rw [text, render_headerOf (t.read_length whole)]
  -- neither reading takes notice of the process
  · have rendered : (Reading.rendered ctx.space messageType value).on ⟨t, process⟩ =
        .ok generic := by
      have within := Reading.rendered_within (overlayTerms_reads ctx.space) messageType value
      rw [(congr_of_overlayTerms within t process .absent).1]
      exact shown
    have laid : (Overlay.ofRole ctx.space ctx.config ctx.call (messageArgument direction)
        value).on ⟨t, process⟩ =
          .ok ⟨"\n" ++ "\n".intercalate ((headerOf bytes).told behind pieces), missed⟩ := by
      have within := ofRole_within_overlayTerms ctx (messageArgument direction) value
      rw [(congr_of_overlayTerms within t process .absent).1]
      exact Course.on_bind_ok _ message _
    have known : (Reading.typeNamed (messageArgument direction).type).on ⟨t, process⟩ =
        .ok messageType := typed
    rw [on_pointerText nonnull known rendered laid]
    simp only [Noted.map, String.append_assoc]

/-- Where memory is made of single bytes, a message header that is shown as a struct is also shown as
a message, and both have the same numbers: the struct has the length of the name as a signed one, and
the flags as a number. Only an abort of the argument before it keeps the call from showing them. -/
theorem decode_message {t : Target} {cell : AddressSpace → UInt64 → Option UInt8}
    (memory : t.ByteAddressed cell)
    (types : ∀ name type, CType.builtin? name = some type → t.typeNamed name = .ok type)
    (process : ProcessView) (config : Config) {call : Invocation}
    (number : call.number = 46 ∨ call.number = 47) {value : UInt64}
    (message : call.register 1 = .ok value) (nonnull : value ≠ 0) {type : CType}
    (known : CType.builtin? "struct msghdr" = some type) {generic : String}
    (shown : t.renderAt (.user call.root) type value = .ok generic) :
    ∃ (h : MessageHeader) (behind : String) (pieces : List String),
      generic = h.structText ∧
      signedValue h.nameLength 4 % 4294967296 = (h.nameLength.toNat : Int) % 4294967296 ∧
      (behind = "" ∨ ∃ rest, behind = " " ++ rest) ∧
      ((decode t process config call).lines[1]? =
          some ⟨"msg", "struct msghdr __user *: " ++ hexMarked value.toNat ++ " ->\n" ++ generic ++
            "\n" ++ "\n".intercalate (h.told behind pieces), 1⟩ ∨
        ((decode t process config call).lines = [] ∧
          (decode t process config call).diagnostics ≠ [])) := by
  obtain ⟨s, direction, signed, argument, pointer⟩ := find?_message number
  cases builtin?_message.symm.trans known
  obtain ⟨h, behind, pieces, missed, struct, apart, text⟩ :=
    on_messageText memory process ⟨config, call⟩ direction nonnull (types _ _ known) shown
  refine ⟨h, behind, pieces, struct, signedValue_emod _, apart, ?_⟩
  cases done : ((firstArguments config call s 1).run ⟨t, process⟩).abort with
  | none =>
    left
    rw [pointer] at text
    exact line_of_pointer signed argument rfl message done text
  | some a =>
    right
    obtain ⟨lines, diagnostics⟩ := decode_of_aborted signed done
    refine ⟨?_, diagnostics⟩
    rw [lines]
    exact List.eq_nil_of_length_eq_zero (Nat.lt_one_iff.1 (length_firstArguments_lt done))

/-- `sendmsg(3, 0x7000, 0)`. -/
def sendCall : Invocation :=
  ⟨46, .ofList [some "3", some "0x7000", some "0"], 0x1000⟩

/-- A header that leads nowhere is shown twice all the same. -/
theorem message_headerOnly :
    ∃ (h : MessageHeader) (behind : String) (pieces : List String),
      headerOnly.renderAt (.user 0x1000) messageType 0x7000 = .ok h.structText ∧
      (decode headerOnly .absent {} sendCall).lines[1]? =
        some ⟨"msg", "struct msghdr __user *: " ++ hexMarked 0x7000 ++ " ->\n" ++ h.structText ++
          "\n" ++ "\n".intercalate (h.told behind pieces), 1⟩ := by
  obtain ⟨_, memory⟩ := byteAddressed_headerOnly
  have types : ∀ name type, CType.builtin? name = some type →
      headerOnly.typeNamed name = .ok type := by
    intro name type known
    unfold headerOnly Cells.target catalogueTypes
    simp only [known]
  have read : sendCall.register 1 = .ok 0x7000 := rfl
  have readable : (headerOnly.renderAt (.user 0x1000) messageType 0x7000).isOk = true := by
    decide +kernel
  cases shown : headerOnly.renderAt (.user 0x1000) messageType 0x7000 with
  | error stop =>
    rw [shown] at readable
    cases readable
  | ok generic =>
    obtain ⟨h, behind, pieces, rfl, -, -, line | ⟨none, -⟩⟩ := decode_message memory types .absent
      {} (.inl rfl) read (by decide) builtin?_message shown
    · exact ⟨h, behind, pieces, rfl, line⟩
    · have all : (decode headerOnly .absent {} sendCall).lines.length = 3 := by decide +kernel
      rw [none] at all
      cases all

end Decode

end SyscallDecode
