/-
What is marked as missed. Texts that go on after unreadable memory say so in their notes, and
overlays that go through have missed something exactly where one of their reads failed. An overlay
that fails without such a read fails by the call itself.
-/
import SyscallDecode.Proofs.Decode.Terms
import SyscallDecode.Proofs.Inquiry.Gaps

namespace SyscallDecode

open Course (Within Marks marks_pure strictTerms readTerms)

variable {space : AddressSpace} {w : World}

theorem strictTerms_reads : strictTerms.Reads space := fun _ _ => trivial

theorem strictTerms_failsByCall : strictTerms.FailsByCall := fun _ _ => trivial

theorem readTerms_reads : (readTerms space).Reads space := fun address length =>
  ⟨address, length, rfl⟩

/-! ## Messages -/

namespace Socket

theorem orGap_marks {r : Reading String} (h : r.Within (readTerms space)) :
    (orGap r).Marks w Noted.missed :=
  h.marks_settle.map fun ending => by cases ending <;> exact ⟨_, rfl, rfl⟩

theorem nameText_marks (m : MessageHeader) : (nameText space m).Marks w Noted.missed := by
  unfold nameText
  split
  · exact marks_pure rfl
  · exact (addressAt_within readTerms_reads _ _).marks_settle.map fun ending => by
      cases ending <;> exact ⟨_, rfl, rfl⟩

theorem pieceLine_marks (m : MessageHeader) (index : Nat) :
    (pieceLine space m index).Marks w Noted.missed :=
  (orGap_marks (pieceAt_within readTerms_reads _)).map fun _ => ⟨_, rfl, rfl⟩

theorem shownPieces_marks (m : MessageHeader) (indices : List Nat) :
    (shownPieces space id m indices).Marks w fun lines => lines.any Noted.missed := by
  induction indices with
  | nil => exact marks_pure rfl
  | cons index rest ih => exact (pieceLine_marks m index).both ih fun _ _ => List.any_cons

theorem pieceLines_marks (m : MessageHeader) :
    (pieceLines space id Noted.plain m).Marks w fun lines => lines.any Noted.missed := by
  unfold pieceLines
  split
  · exact marks_pure rfl
  · refine (shownPieces_marks m _).map fun lines => ?_
    split
    · exact ⟨_, rfl, by simp⟩
    · exact ⟨_, rfl, rfl⟩

theorem notedLines_marks (m : MessageHeader) :
    (notedLines space m).Marks w fun lines => lines.any Noted.missed := by
  refine (((nameText_marks m).map fun _ => ⟨_, rfl, rfl⟩ : (nameLine space m).Marks w
    Noted.missed)).both (pieceLines_marks m) fun name pieces => ?_
  simp

theorem messageAt_marks (address : UInt64) : (messageAt space address).Marks w Noted.missed :=
  (headerAt_within strictTerms_reads address).marks.andThen fun m =>
    (notedLines_marks m).ofTelling.map fun _ => ⟨_, rfl, rfl⟩

end Socket

/-! ## Overlays -/

namespace Overlay

theorem stringEntry_marks (name : String) (limit index : Nat) (pointer : UInt64) :
    (stringEntry space name limit index pointer).Marks w Noted.missed :=
  (Reading.string_within readTerms_reads _ _).marks_settle.map fun ending => by
    cases ending <;> exact ⟨_, rfl, rfl⟩

theorem stringEntries_marks (name : String) (limit : Nat) (type : CType) (index remaining : Nat)
    (slot : UInt64) : (stringEntries space name limit type index remaining slot).Marks w
      fun entries => entries.any Noted.missed := by
  induction remaining generalizing index slot with
  | zero => exact marks_pure rfl
  | succ remaining ih =>
    refine (Cursor.value_within strictTerms_reads (fun _ => trivial) _ _).marks.andThen
      fun pointer => ?_
    split
    · exact marks_pure rfl
    · exact (stringEntry_marks _ _ _ _).ofTelling.both (ih _ _) fun _ _ => List.any_cons

theorem stringArray_marks (name : String) (limit : Nat) (address : UInt64) :
    (stringArray space name limit address).Marks w Noted.missed :=
  (Within.ask (T := strictTerms) _ trivial).marks.andThen fun _ =>
    (stringEntries_marks _ _ _ _ _ _).map fun _ => ⟨_, rfl, rfl⟩

theorem whole_marks {r : Reading String} (h : r.Within strictTerms) :
    (whole r).Marks w Noted.missed :=
  h.marks.map fun _ => ⟨_, rfl, rfl⟩

/-- What a role adds, when it adds something, has missed memory exactly where a read failed. -/
theorem ofRole_marks (config : Config) (call : Invocation) (arg : Argument) (address : UInt64) :
    (ofRole space config call arg address).Marks w Noted.missed := by
  unfold ofRole
  split
  · exact whole_marks (path_within strictTerms_reads _ _)
  · exact whole_marks (buffer_within strictTerms_reads strictTerms_failsByCall _ _ _ _)
  · exact stringArray_marks _ _ _
  · exact whole_marks (socketAddress_within strictTerms_reads (fun _ => trivial)
      strictTerms_failsByCall _ _ _)
  · exact (Socket.messageAt_marks _).map fun _ => ⟨_, rfl, rfl⟩
  · exact marks_pure rfl

end Overlay

end SyscallDecode
