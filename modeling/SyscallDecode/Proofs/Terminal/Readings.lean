/-
What is read of user memory is shown safely: bytes come into texts as numbers, dumps and quotes
only, and what goes wrong on the way can be shown wherever it is put.
-/
import SyscallDecode.Proofs.Decode.Gaps
import SyscallDecode.Proofs.Terminal.Yields

namespace SyscallDecode

open SyscallDecode.Text
open Course (readTerms)

variable {w : World} {space : AddressSpace}

/-- A text with gaps that can be shown. -/
def Noted.Safe (item : Noted String) : Prop :=
  Text.Safe item.value

theorem Noted.Safe.map {item : Noted String} {f : String → String} (h : item.Safe)
    (hf : ∀ text, Text.Safe text → Text.Safe (f text)) : (item.map f).Safe :=
  hf item.value h

theorem Noted.safe_all {items : List (Noted String)} (h : ∀ item ∈ items, item.Safe) :
    ∀ text ∈ (Noted.all items).value, Text.Safe text := by
  intro text ht
  obtain ⟨item, hi, rfl⟩ := List.mem_map.1 ht
  exact h item hi

/-! ## Sockets -/

namespace Socket

theorem safe_addressAt (h : w.Safe) (address : UInt64) (length : Nat) :
    (addressAt space address length).Yields w Text.Safe := by
  unfold addressAt
  split
  · exact .pure (by simp (disch := decide) [safe_of_bytes])
  · refine .bind (h.reads _ _ _) fun bytes _ => ?_
    dsimp only
    split
    · exact .pure (by simp (disch := decide) [safe_of_bytes])
    · exact .pure (safe_addressText bytes)

theorem safe_orGap {r : Reading String} (h : r.Yields w Text.Safe) :
    (orGap r).Yields w Noted.Safe := by
  refine .bind h.settle fun ending safe => ?_
  cases ending with
  | ok text => exact .pure safe
  | error f => exact .pure (safe_behind rfl safe)

theorem safe_previewAt (h : w.Safe) (base : UInt64) (length : Nat) :
    (previewAt space base length).Yields w fun _ => True := by
  unfold previewAt
  split
  · exact .pure trivial
  · exact h.reads _ _ _

theorem safe_pieceAt (h : w.Safe) (entry : UInt64) :
    (pieceAt space entry).Yields w Text.Safe := by
  refine .bind (h.reading (Reading.pointer_within readTerms_reads _)) fun base _ =>
    .bind (h.reading (Reading.unsigned_within readTerms_reads _ _)) fun length _ =>
    .bind (safe_previewAt h _ _) fun preview _ => .pure ?_
  split <;> simp (disch := decide) [safe_of_bytes]

theorem safe_nameText (h : w.Safe) (m : MessageHeader) :
    (nameText space m).Yields w Noted.Safe := by
  unfold nameText
  split
  · exact .pure (safe_of_bytes rfl : Text.Safe "NULL")
  · have address : ∀ {front}, allSafeBytes front →
        Text.Safe (hexMarked m.name.toNat ++ front) := fun h =>
      safe_append.2 ⟨safe_hexMarked _, safe_of_bytes h⟩
    refine .bind (safe_addressAt h _ _).settle fun ending safe => ?_
    cases ending with
    | ok text => exact .pure (safe_append.2 ⟨address rfl, safe⟩)
    | error f => exact .pure (safe_append.2 ⟨address rfl, safe⟩)

theorem safe_nameLine (h : w.Safe) (m : MessageHeader) :
    (nameLine space m).Yields w Noted.Safe :=
  .bind (safe_nameText h m) fun name safe =>
    .pure (safe.map fun text ht => by simp (disch := decide) [safe_of_bytes, ht])

theorem safe_pieceLine (h : w.Safe) (m : MessageHeader) (index : Nat) :
    (pieceLine space m index).Yields w Noted.Safe :=
  .bind (safe_orGap (safe_pieceAt h _)) fun piece safe =>
    .pure (safe.map fun text ht => by simp (disch := decide) [safe_of_bytes, ht])

theorem safe_shownPieces (h : w.Safe) (m : MessageHeader) (indices : List Nat) :
    (shownPieces space id m indices).Yields w fun lines => ∀ line ∈ lines, line.Safe := by
  induction indices with
  | nil => exact .pure fun _ hl => (List.not_mem_nil hl).elim
  | cons index rest ih =>
    exact .bind (safe_pieceLine h m index) fun line hl => .bind ih fun lines hls =>
      .pure (List.forall_mem_cons.2 ⟨hl, hls⟩)

theorem safe_pieceLines (h : w.Safe) (m : MessageHeader) :
    (pieceLines space id Noted.plain m).Yields w fun lines => ∀ line ∈ lines, line.Safe := by
  unfold pieceLines
  split
  · exact .pure fun _ hl => (List.not_mem_nil hl).elim
  · refine .bind (safe_shownPieces h m _) fun shown hs => ?_
    split
    · refine .pure (List.forall_mem_append.2 ⟨hs, List.forall_mem_singleton.2 ?_⟩)
      simp (disch := decide) [safe_of_bytes, Noted.Safe]
    · exact .pure hs

theorem safe_notedLines (h : w.Safe) (m : MessageHeader) :
    (notedLines space m).Yields w fun lines => ∀ line ∈ lines, line.Safe := by
  refine .bind (safe_nameLine h m) fun name hn => .bind (safe_pieceLines h m) fun pieces hp => ?_
  refine .pure ?_
  simp only [List.forall_mem_append, List.forall_mem_cons]
  refine ⟨⟨⟨hn, ?_, nofun⟩, hp⟩, ?_, ?_, nofun⟩ <;>
    simp (disch := decide) [safe_of_bytes, Noted.Safe]

theorem safe_messageAt (h : w.Safe) (address : UInt64) :
    (messageAt space address).Yields w Noted.Safe :=
  .bind (h.reading (headerAt_within readTerms_reads _)) fun m _ =>
    .bind (safe_notedLines h m).ofTelling fun _ hl =>
      .pure (safe_intercalate (safe_of_bytes rfl) (Noted.safe_all hl))

end Socket

/-! ## Overlays -/

/-- A register that gives no value says so safely, whatever its text is. -/
theorem Invocation.safe_register {call : Invocation} {index : Nat} {f : Failure}
    (h : call.register index = .error f) : Text.Safe f.message := by
  unfold register readRegister at h
  split at h
  · cases h
    show Text.Safe ("register for argument " ++ toString index ++ " was not supplied")
    simp (disch := decide) [safe_of_bytes]
  · next text _ =>
    split at h <;> cases h
    show Text.Safe ("register for argument " ++ toString index ++ " is not a hex value: " ++
      quote text)
    simp (disch := decide) [safe_of_bytes]

theorem safe_badType {description : String} (h : Text.Safe description) :
    Text.Safe (Failure.badType description).message := by
  show Text.Safe ("type \"" ++ description ++ "\" is unknown to the introspection engine")
  simp (disch := decide) [safe_of_bytes, h]

theorem Cursor.safe_value (h : w.Safe) {type : CType} (named : ∀ n ∈ type.names, Text.Safe n)
    (address : UInt64) : (Cursor.value ⟨address, some type⟩ space).Yields w fun _ => True := by
  have name : Text.Safe (CType.name type) := by
    cases type <;> exact named _ List.mem_cons_self
  have current : (Cursor.currentType ⟨address, some type⟩).Yields w (· = type) := .pure rfl
  refine .bind current fun _ same => ?_
  subst same
  split
  · exact h.reading (Reading.unsigned_within readTerms_reads _ _)
  · exact .fail (safe_badType (safe_append.2 ⟨name, safe_of_bytes rfl⟩))

namespace Overlay

theorem safe_sibling (call : Invocation) (index : Nat) :
    (sibling call index).Yields w fun _ => True := by
  unfold sibling
  cases hr : call.register index with
  | ok value => trivial
  | error f => exact Invocation.safe_register hr

theorem safe_path (h : w.Safe) (limit : Nat) (address : UInt64) :
    (path space limit address).Yields w Text.Safe :=
  .bind (h.reading (Reading.string_within readTerms_reads _ _)) fun bytes _ =>
    .pure (by simp (disch := decide) [safe_of_bytes])

theorem safe_buffer (h : w.Safe) (config : Config) (call : Invocation) (lengthIndex : Nat)
    (address : UInt64) : (buffer space config call lengthIndex address).Yields w Text.Safe := by
  refine .bind (safe_sibling call lengthIndex) fun count _ =>
    .bind (h.reading (Reading.buffer_within readTerms_reads _ _)) fun bytes _ => ?_
  have text : Text.Safe (bufferText count.toNat bytes) := by
    unfold bufferText
    simp (disch := decide) [safe_of_bytes]
  dsimp only
  split
  · exact .pure (by simp (disch := decide) [safe_of_bytes, text])
  · exact .pure text

theorem safe_stringEntry (h : w.Safe) {name : String} (named : Text.Safe name) (limit index : Nat)
    (pointer : UInt64) : (stringEntry space name limit index pointer).Yields w Noted.Safe := by
  have head : Text.Safe
      ("\n" ++ name ++ "[" ++ toString index ++ "] @ " ++ hexMarked pointer.toNat ++ " -> ") := by
    simp (disch := decide) [safe_of_bytes, named]
  refine .bind (h.reading (Reading.string_within readTerms_reads _ _)).settle
    fun ending safe => ?_
  cases ending with
  | ok bytes => exact .pure (safe_append.2 ⟨head, safe_quote _⟩)
  | error f => exact .pure (safe_append.2 ⟨safe_append.2 ⟨head, safe_of_bytes rfl⟩, safe⟩)

theorem safe_stringEntries (h : w.Safe) {name : String} (named : Text.Safe name) (limit : Nat)
    {type : CType} (types : ∀ n ∈ type.names, Text.Safe n) (index remaining : Nat)
    (slot : UInt64) :
    (stringEntries space name limit type index remaining slot).Yields w
      fun entries => ∀ entry ∈ entries, entry.Safe := by
  induction remaining generalizing index slot with
  | zero =>
    refine .pure (List.forall_mem_singleton.2 ?_)
    simp (disch := decide) [safe_of_bytes, Noted.Safe]
  | succ remaining ih =>
    refine .bind (Cursor.safe_value h types _) fun pointer _ => ?_
    split
    · exact .pure fun _ hl => (List.not_mem_nil hl).elim
    · exact .bind (safe_stringEntry h named _ _ _).ofTelling fun entry he =>
        .bind (ih _ _) fun rest hr => .pure (List.forall_mem_cons.2 ⟨he, hr⟩)

theorem safe_stringArray (h : w.Safe) {name : String} (named : Text.Safe name) (limit : Nat)
    (address : UInt64) : (stringArray space name limit address).Yields w Noted.Safe :=
  .bind (h.types _ (safe_of_bytes rfl)) fun _ types =>
    .bind (safe_stringEntries h named limit types _ _ _) fun _ he =>
      .pure (safe_join (Noted.safe_all he))

theorem safe_addressLength (h : w.Safe) (call : Invocation) (length : AddressLength) :
    (addressLength space call length).Yields w fun _ => True := by
  cases length with
  | absent => exact .pure trivial
  | inRegister index => exact .bind (safe_sibling call index) fun _ _ => .pure trivial
  | inMemory index =>
    refine .bind (safe_sibling call index) fun pointer _ => ?_
    split
    · exact .pure trivial
    · exact .bind (h.types _ (safe_of_bytes rfl)) fun type types =>
        .bind (Cursor.safe_value h types _) fun _ _ => .pure trivial

theorem safe_socketAddress (h : w.Safe) (call : Invocation) (length : AddressLength)
    (address : UInt64) : (socketAddress space call length address).Yields w Text.Safe :=
  .bind (safe_addressLength h call length) fun _ _ =>
    .bind (Socket.safe_addressAt h _ _) fun _ safe =>
      .pure (safe_behind rfl safe)

theorem safe_whole {r : Reading String} (h : r.Yields w Text.Safe) :
    (whole r).Yields w Noted.Safe :=
  .bind h fun _ safe => .pure safe

/-- What a role adds is safe, whatever the memory holds. -/
theorem safe_ofRole (h : w.Safe) (config : Config) (call : Invocation) {arg : Argument}
    (named : arg.Safe) (address : UInt64) :
    (ofRole space config call arg address).Yields w Noted.Safe := by
  unfold ofRole
  split
  · exact safe_whole (safe_path h _ _)
  · exact safe_whole (safe_buffer h _ _ _ _)
  · exact safe_stringArray h named.displayName _ _
  · exact safe_whole (safe_socketAddress h _ _ _)
  · exact .bind (Socket.safe_messageAt h _) fun m safe =>
      .pure (safe.map fun text ht => safe_behind rfl ht)
  · exact .pure (safe_of_bytes rfl : Text.Safe "")

end Overlay

end SyscallDecode
