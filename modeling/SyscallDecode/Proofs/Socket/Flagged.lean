/-
Messages under a flag. The reads of the header leave the flag as it was, also where one of them
fails; behind them every line with a gap raises it, so that a message that goes through has the
lines that it has with its gaps beside them, and the flag tells whether there are any.
-/
import SyscallDecode.Socket.Message

namespace SyscallDecode.Socket

open Flagged (noting runFrom_bind_error runFrom_bind_ok runFrom_noting runFrom_pure)

variable {w : World} {space : AddressSpace} {h : MessageHeader} {flag : Bool}

/-- The header is read under a flag as it is without one. -/
theorem flaggedHeader_spares (address : UInt64) :
    (flaggedHeader space address).Spares w (headerAt space address) :=
  .bind (.reading _) fun _ => .bind (.reading _) fun _ => .bind (.reading _) fun _ =>
  .bind (.reading _) fun _ => .bind (.reading _) fun _ => .bind (.reading _) fun _ =>
  .bind (.reading _) fun _ => .pure _

/-- Lines with their gaps, and the same lines after which the flag tells of the gaps. -/
def Tells (w : World) (noted : Telling (List (Noted String))) (flagged : Flagged (List String)) :
    Prop :=
  ∀ flag lines, noted.on w = .ok lines →
    flagged.runFrom w flag = (.ok (lines.map Noted.value), flag || lines.any Noted.missed)

theorem tells_shownPieces (indices : List Nat) :
    Tells w (shownPieces space id h indices) (shownPieces space noting h indices) := by
  induction indices with
  | nil =>
    intro flag lines told
    cases told
    exact congrArg (Prod.mk _) (Bool.or_false flag).symm
  | cons index rest ih =>
    intro flag lines told
    obtain ⟨line, first, told⟩ := (Course.on_bind_eq_ok w).1 told
    obtain ⟨others, later, told⟩ := (Course.on_bind_eq_ok w).1 told
    cases told
    refine (runFrom_bind_ok (runFrom_noting first) _).trans ?_
    refine (runFrom_bind_ok (ih _ others later) _).trans ?_
    rw [runFrom_pure, List.map_cons, List.any_cons, Bool.or_assoc]

theorem tells_pieceLines :
    Tells w (pieceLines space id Noted.plain h) (pieceLines space noting id h) := by
  intro flag lines told
  unfold pieceLines at told ⊢
  split
  · next null =>
    rw [if_pos null] at told
    cases told
    exact congrArg (Prod.mk _) (Bool.or_false flag).symm
  · next nonnull =>
    rw [if_neg nonnull] at told
    obtain ⟨shown, read, told⟩ := (Course.on_bind_eq_ok w).1 told
    refine (runFrom_bind_ok (tells_shownPieces _ _ shown read) _).trans ?_
    split at told
    · next more =>
      cases told
      rw [if_pos more, runFrom_pure]
      simp
    · next all =>
      cases told
      rw [if_neg all, runFrom_pure]

theorem tells_notedLines : Tells w (notedLines space h) (flaggedLines space h) := by
  intro flag lines told
  obtain ⟨name, first, told⟩ := (Course.on_bind_eq_ok w).1 told
  obtain ⟨pieces, read, told⟩ := (Course.on_bind_eq_ok w).1 told
  cases told
  refine (runFrom_bind_ok (runFrom_noting first) _).trans ?_
  refine (runFrom_bind_ok (tells_pieceLines _ pieces read) _).trans ?_
  rw [runFrom_pure]
  simp [Bool.or_assoc]

/-- A message that goes through goes through under a flag, which is raised by its gaps. -/
theorem runFrom_flaggedMessage_ok {address : UInt64} {message : Noted String}
    (told : (messageAt space address).on w = .ok message) (flag : Bool) :
    (flaggedMessage space address).runFrom w flag =
      (.ok message.value, flag || message.missed) := by
  obtain ⟨header, read, told⟩ := (Course.on_bind_eq_ok w).1 told
  obtain ⟨lines, listed, told⟩ := (Course.on_bind_eq_ok w).1 told
  cases told
  have noted : (notedLines space header).on w = .ok lines := by
    rw [Reading.on_ofTelling] at listed
    cases on : (notedLines space header).on w with
    | error a => rw [on] at listed; cases listed
    | ok lines' => rw [on] at listed; cases listed; rfl
  have run := @flaggedHeader_spares w space address flag
  rw [read] at run
  refine (runFrom_bind_ok run _).trans ?_
  exact (runFrom_bind_ok (tells_notedLines flag lines noted) _).trans rfl

/-- A message that fails with its header leaves the flag as it was. -/
theorem runFrom_flaggedMessage_error {address : UInt64} {stop : Stop}
    (failed : (headerAt space address).on w = .error stop) (flag : Bool) :
    (flaggedMessage space address).runFrom w flag = (.error stop, flag) := by
  have run := @flaggedHeader_spares w space address flag
  rw [failed] at run
  exact runFrom_bind_error run _

end SyscallDecode.Socket
