/-
Socket addresses among the arguments of a call. An address is shown as the struct of the catalogue
first, which takes sixteen bytes whatever length is declared, and only where that could be shown as
the address of the declared length. So an address that is shorter than the struct is shown where the
bytes behind its end happen to be there, and is passed over where they are not.
-/
import SyscallDecode.Proofs.Decode.MessageHeader

namespace SyscallDecode

open SyscallDecode.Text

namespace Socket

/-- The type of an address in the catalogue. -/
def addressType : CType :=
  .struct "struct sockaddr" 16
    [.mk "sa_family" 0 (CType.uint "sa_family_t" 2), .mk "sa_data" 2 (CType.charArray 14)]

theorem builtin?_address {name : String} (h : CType.normalizeName name = "struct sockaddr") :
    CType.builtin? name = some addressType := by
  unfold CType.builtin?
  rw [h]
  rfl

variable {t : Target} {space : AddressSpace}

/-- An address can be read where its bytes can, and no byte behind its declared end takes part. -/
theorem readAddress_of_read {address : UInt64} {length : Nat} (long : 2 ≤ length)
    {bytes : List UInt8}
    (read : t.read space address (min length maxAddressLength) = .ok bytes) :
    readAddress t space address length = .ok (addressText bytes ++
      if maxAddressLength < length then
        " (length " ++ toString length ++ " clamped to " ++ toString maxAddressLength ++ ")"
      else "") := by
  have asked : (Reading.bytes space address (min length maxAddressLength)).on t.world =
      .ok bytes := read
  unfold readAddress addressAt
  rw [if_neg (Nat.not_lt.2 long), Course.on_bind_ok _ asked]
  dsimp only
  split
  · simp only [Course.on_pure, String.append_assoc]
  · rw [String.append_empty]
    rfl

end Socket

namespace Decode

open SyscallDecode.Socket

variable {ctx : Context} {w : World} {arg : Argument} {value : UInt64}

/-! ## Pointers -/

/-- A pointer behind which the type of its argument cannot be shown shows nothing else either. -/
theorem on_pointerText_unshown {type : CType} {f : Failure} (nonnull : value ≠ 0)
    (known : (Reading.typeNamed arg.type).on w = .ok type)
    (unshown : (Reading.rendered ctx.space type value).on w = .error (.failure f)) :
    (pointerText ctx arg value).on w = .ok ⟨arg.pointerType ++ ": " ++ hexMarked value.toNat ++
      " cannot dereference: " ++ f.message, f.isUnreadable⟩ := by
  have pointee : (pointeeText ctx arg value).on w =
      .ok ⟨" cannot dereference: " ++ f.message, f.isUnreadable⟩ := by
    unfold pointeeText
    rw [Course.on_bind_ok _ (Reading.on_settle_ok _ known)]
    dsimp only
    rw [Course.on_bind_ok _ (Reading.on_settle_failure _ unshown)]
    rfl
  unfold pointerText
  dsimp only
  rw [if_neg nonnull, Course.on_bind_ok _ pointee]
  simp only [Course.on_pure, Noted.map, String.append_assoc]

/-! ## Addresses -/

variable {t : Target} {cell : AddressSpace → UInt64 → Option UInt8} {process : ProcessView}

/-- What the role of an address adds, once its length is known and its bytes can be read. -/
theorem on_ofRole_address (ctx : Context) {length : AddressLength}
    (role : arg.role = .socketAddress length) {count : Nat}
    (counted : (Overlay.addressLength ctx.space ctx.call length).on ⟨t, process⟩ = .ok count)
    {text : String} (read : readAddress t ctx.space value count = .ok text) :
    (Overlay.ofRole ctx.space ctx.config ctx.call arg value).on ⟨t, process⟩ =
      .ok ⟨"\n" ++ text, false⟩ := by
  have reads : (addressAt ctx.space value count).on ⟨t, process⟩ = .ok text := by
    have within := addressAt_within (overlayTerms_reads ctx.space) value count
    rw [(congr_of_overlayTerms within t process .absent).1]
    exact read
  have address : (Overlay.socketAddress ctx.space ctx.call length value).on ⟨t, process⟩ =
      .ok ("\n" ++ text) :=
    (Course.on_bind_ok _ counted _).trans (Course.on_bind_ok _ reads _)
  unfold Overlay.ofRole
  rw [role]
  exact Course.on_bind_ok _ address _

/-- Of the sixteen bytes of the struct, those behind the declared end of an address are there. All of
them are for an address that is no shorter than the struct. -/
def RestResident (cell : AddressSpace → UInt64 → Option UInt8) (space : AddressSpace)
    (address : UInt64) (count : Nat) : Prop :=
  ∀ i, count ≤ i → i < addressType.size → (cell space (address + UInt64.ofNat i)).isSome

theorem resident_addressType {space : AddressSpace} {address : UInt64} {count : Nat}
    (resident : Target.Resident cell space address (min count maxAddressLength)) :
    Target.Resident cell space address addressType.size ↔ RestResident cell space address count := by
  have small : addressType.size ≤ maxAddressLength := by decide
  constructor
  · exact fun whole i _ inside => whole i inside
  · intro rest i inside
    by_cases declared : i < count
    · exact resident i (by omega)
    · exact rest i (by omega) inside

/-- Where memory is made of single bytes, an address of which the declared bytes are there can be
decoded, and its text stands in the line of the argument if the rest of the struct is there as well.
If it is not, the line only says that the struct cannot be shown. -/
theorem decode_socketAddress (memory : t.ByteAddressed cell)
    (types : ∀ name type, CType.builtin? name = some type → t.typeNamed name = .ok type)
    (process : ProcessView) (config : Config) {call : Invocation} {s : Signature}
    (known : Signature.find? call.number = some s) {i : Nat} {arg : Argument}
    (declared : s.arguments[i]? = some arg) {length : AddressLength}
    (role : arg.role = .socketAddress length) {value : UInt64}
    (held : call.register i = .ok value) (nonnull : value ≠ 0) {count : Nat}
    (counted : (Overlay.addressLength (.user call.root) call length).on ⟨t, process⟩ = .ok count)
    (long : 2 ≤ count)
    (resident : Target.Resident cell (.user call.root) value (min count maxAddressLength)) :
    ∃ text, readAddress t (.user call.root) value count = .ok text ∧
      (RestResident cell (.user call.root) value count →
        ∃ generic, t.renderAt (.user call.root) addressType value = .ok generic ∧
          (decode t process config call).Tells i ⟨arg.displayName,
            arg.pointerType ++ ": " ++ hexMarked value.toNat ++ " ->\n" ++ generic ++ "\n" ++ text,
            1⟩) ∧
      (¬ RestResident cell (.user call.root) value count →
        ∃ f, t.renderAt (.user call.root) addressType value = .error (.failure f) ∧
          (decode t process config call).Tells i ⟨arg.displayName,
            arg.pointerType ++ ": " ++ hexMarked value.toNat ++ " cannot dereference: " ++ f.message,
            1⟩) := by
  obtain ⟨pointer, pointee⟩ :=
    Signature.pointer_of_socketAddress known (List.mem_of_getElem? declared) role
  have typed : (Reading.typeNamed arg.type).on ⟨t, process⟩ = .ok addressType :=
    types _ _ (builtin?_address pointee)
  obtain ⟨bytes, read⟩ := memory.resident_iff.1 resident
  have decoded := readAddress_of_read long read
  have laid := on_ofRole_address ⟨config, call⟩ role counted decoded
  -- the struct takes no notice of the process
  have rendered : (Reading.rendered (.user call.root) addressType value).on ⟨t, process⟩ =
      t.renderAt (.user call.root) addressType value := by
    have within := Reading.rendered_within (overlayTerms_reads (.user call.root)) addressType value
    rw [(congr_of_overlayTerms within t process .absent).1]
    rfl
  refine ⟨_, decoded, fun rest => ?_, fun missing => ?_⟩
  · obtain ⟨struct, whole⟩ := memory.resident_iff.1 ((resident_addressType resident).2 rest)
    have asked : (Reading.bytes (.user call.root) value addressType.size).on t.world =
        .ok struct := whole
    have shown : t.renderAt (.user call.root) addressType value =
        .ok (addressType.render struct) := Course.on_bind_ok _ asked _
    refine ⟨_, shown, ?_⟩
    have told : (pointerText ⟨config, call⟩ arg value).on ⟨t, process⟩ = .ok _ :=
      on_pointerText nonnull typed (rendered.trans shown) laid
    have line := tells_of_pointer known declared pointer held told
    simp only [Noted.map, String.append_assoc] at line ⊢
    exact line
  · have unread : ¬ ∃ struct, t.read (.user call.root) value addressType.size = .ok struct :=
      fun whole => missing ((resident_addressType resident).1 (memory.resident_iff.2 whole))
    rcases struct : t.read (.user call.root) value addressType.size with (f | a) | bytes
    · have asked : (Reading.bytes (.user call.root) value addressType.size).on t.world =
          .error (.failure f) := struct
      have unshown : t.renderAt (.user call.root) addressType value = .error (.failure f) :=
        Course.on_bind_error _ asked _
      refine ⟨f, unshown, ?_⟩
      have told : (pointerText ⟨config, call⟩ arg value).on ⟨t, process⟩ = .ok _ :=
        on_pointerText_unshown nonnull typed (rendered.trans unshown)
      exact tells_of_pointer known declared pointer held told
    · exact absurd struct (memory.calm _ _ _ _)
    · exact absurd ⟨bytes, struct⟩ unread

/-- A target that holds the address of a local socket twice: at the beginning of the last sixteen
bytes of a page, and at their end. The page behind it is missing. -/
def pageEnd : Target :=
  Cells.target
    (fun _ a =>
      if 0x4ff0 ≤ a ∧ a < 0x5000 then
        .ok ([1, 0, 0x2f, 0x61, 0x2e, 0x73, 0, 0, 0, 0, 1, 0, 0x2f, 0x61, 0x2e, 0x73].getD
          (a - 0x4ff0).toNat 0)
      else .fail (.unreadable a "page not present"))
    catalogueTypes fun name => .fail (.unknownSymbol name)

theorem byteAddressed_pageEnd : ∃ cell, pageEnd.ByteAddressed cell := by
  refine ⟨_, Cells.byteAddressed_target _ _ fun space address a => ?_⟩
  split <;> rintro ⟨⟩

theorem typeNamed_pageEnd (name : String) (type : CType) (h : CType.builtin? name = some type) :
    pageEnd.typeNamed name = .ok type := by
  unfold pageEnd Cells.target catalogueTypes
  simp only [h]

/-- `connect(3, address, 6)`. -/
def connectCall (address : String) : Invocation :=
  ⟨42, .ofList [some "3", some address, some "6"], 0x1000⟩

/-- The address of a call that connects. -/
def connectArgument : Argument :=
  ⟨1, "uservaddr", "struct sockaddr", true, .read, .socketAddress (.inRegister 2)⟩

theorem find?_connect :
    ∃ s, Signature.find? 42 = some s ∧ s.arguments[1]? = some connectArgument := by
  have argument : (Signature.find? 42).bind (·.arguments[1]?) = some connectArgument := by
    decide +kernel
  exact Option.bind_eq_some_iff.1 argument

theorem readAddress_pageEnd {address : UInt64}
    (h : pageEnd.read (.user 0x1000) address 6 = .ok [1, 0, 0x2f, 0x61, 0x2e, 0x73]) :
    readAddress pageEnd (.user 0x1000) address 6 = .ok "AF_UNIX \"/a.s\"" := by
  have text : addressText [1, 0, 0x2f, 0x61, 0x2e, 0x73] ++ "" = "AF_UNIX \"/a.s\"" := by
    decide +kernel
  rw [← text]
  exact readAddress_of_read (by decide) h

/-- The first of the two is decoded, as the rest of the struct is there. -/
theorem decode_socketAddress_connect :
    ∃ generic, (decode pageEnd (.listed [] (.ok [])) {} (connectCall "0x4ff0")).lines[1]? =
      some ⟨"uservaddr", "struct sockaddr __user *: " ++ hexMarked 0x4ff0 ++ " ->\n" ++ generic ++
        "\n" ++ "AF_UNIX \"/a.s\"", 1⟩ := by
  obtain ⟨cell, memory⟩ := byteAddressed_pageEnd
  obtain ⟨s, known, argument⟩ := find?_connect
  have whole : Target.Resident cell (.user 0x1000) 0x4ff0 16 :=
    memory.resident_iff.2 ⟨_, rfl⟩
  have held : (connectCall "0x4ff0").register 1 = .ok 0x4ff0 := rfl
  have counted : (Overlay.addressLength (.user 0x1000) (connectCall "0x4ff0") (.inRegister 2)).on
      ⟨pageEnd, .listed [] (.ok [])⟩ = .ok 6 := rfl
  obtain ⟨text, read, shown, -⟩ := decode_socketAddress memory typeNamed_pageEnd
    (.listed [] (.ok [])) {} known argument rfl held (by decide) counted (by decide)
    fun i inside => whole i (by omega)
  obtain ⟨generic, -, told⟩ := shown fun i _ inside => whole i inside
  cases read.symm.trans (readAddress_pageEnd rfl)
  have lines : (decode pageEnd (.listed [] (.ok [])) {} (connectCall "0x4ff0")).lines.length = 3 := by
    decide +kernel
  have head : connectArgument.pointerType ++ ": " = "struct sockaddr __user *: " := by decide
  rw [head] at told
  refine ⟨generic, told.resolve_right fun aborted => ?_⟩
  have short := aborted.1
  omega

/-- The second has all its bytes and can be decoded, but its text is not in the line. -/
theorem passedOver_connect :
    (∃ cell, pageEnd.ByteAddressed cell ∧ Target.Resident cell (.user 0x1000) 0x4ffa 6) ∧
    (∀ name type, CType.builtin? name = some type → pageEnd.typeNamed name = .ok type) ∧
    (∃ s, Signature.find? (connectCall "0x4ffa").number = some s ∧
      s.arguments[1]? = some connectArgument) ∧
    (connectCall "0x4ffa").register 1 = .ok 0x4ffa ∧
    (Overlay.addressLength (.user 0x1000) (connectCall "0x4ffa") (.inRegister 2)).on
      ⟨pageEnd, .listed [] (.ok [])⟩ = .ok 6 ∧
    readAddress pageEnd (.user 0x1000) 0x4ffa 6 = .ok "AF_UNIX \"/a.s\"" ∧
    ∃ line,
      (decode pageEnd (.listed [] (.ok [])) { memoryMap := false } (connectCall "0x4ffa")).lines[1]? =
        some line ∧
      line.text = "struct sockaddr __user *: 0x4ffa cannot dereference: " ++
        "cannot read 0x5000: page not present" ∧
      ¬ "AF_UNIX \"/a.s\"".toList <:+: line.text.toList := by
  obtain ⟨cell, memory⟩ := byteAddressed_pageEnd
  refine ⟨⟨cell, memory, memory.resident_iff.2 ⟨_, rfl⟩⟩, typeNamed_pageEnd, find?_connect, rfl, rfl,
    readAddress_pageEnd rfl, ?_⟩
  exact ⟨⟨"uservaddr", "struct sockaddr __user *: 0x4ffa cannot dereference: " ++
    "cannot read 0x5000: page not present", 1⟩, by decide +kernel, rfl, by decide +kernel⟩

end Decode

end SyscallDecode
