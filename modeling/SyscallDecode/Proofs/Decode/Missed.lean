/-
What arguments miss. An argument leaves word of something missed when a read behind its pointer
failed, or when its overlay failed without one; descriptors and unknown types leave none.
-/
import SyscallDecode.Proofs.Decode.Arguments
import SyscallDecode.Proofs.Decode.Gaps

namespace SyscallDecode

/-- Types are unknown and memory is unreadable, but nothing else goes wrong. -/
structure Target.FailsInKind (t : Target) : Prop where
  types : ∀ name stop, t.typeNamed name = .error stop → ∃ d, stop = .failure (.badType d)
  reads : ∀ space address length stop, t.read space address length = .error stop →
    ∃ a reason, stop = .failure (.unreadable a reason)

namespace Decode

variable {ctx : Context} {s : State} {w : World} {arg : Argument} {value : UInt64}

/-! ## Overlays -/

/-- The overlay behind a pointer fails though none of its reads does. -/
structure OverlayFails (w : World) (ctx : Context) (arg : Argument) (value : UInt64) (f : Failure) :
    Prop where
  /-- There is an overlay only where the value behind the pointer is shown. -/
  shown : value ≠ 0 ∧ ∃ type, (Reading.typeNamed arg.type).on w = .ok type ∧
    ∃ text, (Reading.rendered ctx.space type value).on w = .ok text
  fails : (Overlay.ofRole ctx.space ctx.config ctx.call arg value).on w = .error (.failure f)
  reads : ¬ ∃ q ∈ (Overlay.ofRole ctx.space ctx.config ctx.call arg value).asked w, w.Misses q

theorem asked_overlayText :
    (overlayText ctx arg value).asked w =
      (Overlay.ofRole ctx.space ctx.config ctx.call arg value).asked w := by
  unfold overlayText
  rw [Course.asked_bind, Reading.asked_settle, Reading.on_settle]
  rcases (Overlay.ofRole ctx.space ctx.config ctx.call arg value).on w with (f | a) | overlay <;>
    exact List.append_nil _

theorem missed_overlayText {overlay : Noted String}
    (shown : value ≠ 0 ∧ ∃ type, (Reading.typeNamed arg.type).on w = .ok type ∧
      ∃ text, (Reading.rendered ctx.space type value).on w = .ok text)
    (h : (overlayText ctx arg value).on w = .ok overlay) :
    overlay.missed = true ↔
      (∃ q ∈ (overlayText ctx arg value).asked w, w.Misses q) ∨
        ∃ f, OverlayFails w ctx arg value f := by
  unfold overlayText at h
  rw [Course.on_bind, Reading.on_settle] at h
  rw [asked_overlayText]
  have marks := @Overlay.ofRole_marks ctx.space w ctx.config ctx.call arg value
  rcases hr : (Overlay.ofRole ctx.space ctx.config ctx.call arg value).on w with (f | a) | result
  · rw [hr] at h
    cases h
    refine iff_of_true rfl ?_
    -- either one of its reads failed, or the overlay failed by itself
    by_cases miss : ∃ q ∈ (Overlay.ofRole ctx.space ctx.config ctx.call arg value).asked w,
        w.Misses q
    · exact .inl miss
    · exact .inr ⟨f, shown, hr, miss⟩
  · rw [hr] at h; cases h
  · rw [hr] at h
    cases h
    rw [marks overlay hr]
    refine ⟨.inl, ?_⟩
    rintro (miss | ⟨f, -, fails, -⟩)
    · exact miss
    · rw [hr] at fails; cases fails

/-! ## Pointers -/

/-- A value that cannot be shown lies in memory that cannot be read. -/
theorem rendered_failure (kind : w.target.FailsInKind) {space : AddressSpace} {type : CType}
    {f : Failure} (h : (Reading.rendered space type value).on w = .error (.failure f)) :
    f.isUnreadable = true ∧ ∃ q ∈ (Reading.rendered space type value).asked w, w.Misses q := by
  have within : (Reading.rendered space type value).Within (Course.readTerms space) :=
    Reading.rendered_within readTerms_reads type value
  obtain ⟨q, hq, answer⟩ :=
    (within.stop_or_answer (Reading.stop?_eq_some.2 h)).resolve_left id
  obtain ⟨address, length, rfl⟩ := within.asks_of_mem q hq
  obtain ⟨a, reason, hf⟩ := kind.reads _ _ _ _ answer
  cases hf
  exact ⟨rfl, _, hq, _, answer⟩

/-- What stands behind a pointer comes in three ways: without a type, without a value, or with its
overlay. -/
theorem pointeeText_cases {pointee : Noted String}
    (h : (pointeeText ctx arg value).on w = .ok pointee) :
    (∃ f, (Reading.typeNamed arg.type).on w = .error (.failure f) ∧ pointee.missed = false ∧
      (pointeeText ctx arg value).asked w = [.typeNamed arg.type]) ∨
    (∃ type f, (Reading.typeNamed arg.type).on w = .ok type ∧
      (Reading.rendered ctx.space type value).on w = .error (.failure f) ∧
      pointee.missed = f.isUnreadable ∧
      (pointeeText ctx arg value).asked w =
        .typeNamed arg.type :: (Reading.rendered ctx.space type value).asked w) ∨
    (∃ type text overlay, (Reading.typeNamed arg.type).on w = .ok type ∧
      (Reading.rendered ctx.space type value).on w = .ok text ∧
      (overlayText ctx arg value).on w = .ok overlay ∧ pointee.missed = overlay.missed ∧
      (pointeeText ctx arg value).asked w =
        .typeNamed arg.type :: ((Reading.rendered ctx.space type value).asked w ++
          (overlayText ctx arg value).asked w)) := by
  unfold pointeeText at h ⊢
  rcases ht : (Reading.typeNamed arg.type).on w with (f | a) | type
  · rw [Course.on_bind_ok w (Reading.on_settle_failure w ht)] at h
    rw [Course.asked_bind_ok w (Reading.on_settle_failure w ht)]
    cases h
    exact .inl ⟨f, rfl, rfl, rfl⟩
  · rw [Course.on_bind_error w (Reading.on_settle_abort w ht)] at h
    cases h
  · rw [Course.on_bind_ok w (Reading.on_settle_ok w ht)] at h
    rw [Course.asked_bind_ok w (Reading.on_settle_ok w ht)]
    dsimp only at h ⊢
    right
    rcases hr : (Reading.rendered ctx.space type value).on w with (f | a) | text
    · rw [Course.on_bind_ok w (Reading.on_settle_failure w hr)] at h
      rw [Course.asked_bind_ok w (Reading.on_settle_failure w hr)]
      cases h
      refine .inl ⟨type, f, rfl, hr, rfl, ?_⟩
      rw [Reading.asked_settle, Reading.asked_settle]
      exact congrArg _ (List.append_nil _)
    · rw [Course.on_bind_error w (Reading.on_settle_abort w hr)] at h
      cases h
    · rw [Course.on_bind_ok w (Reading.on_settle_ok w hr)] at h
      rw [Course.asked_bind_ok w (Reading.on_settle_ok w hr)]
      cases ho : (overlayText ctx arg value).on w with
      | error a => rw [Course.on_bind_error w ho] at h; cases h
      | ok overlay =>
        rw [Course.on_bind_ok w ho] at h
        rw [Course.asked_bind_ok w ho]
        cases h
        refine .inr ⟨type, text, overlay, rfl, hr, rfl, rfl, ?_⟩
        rw [Reading.asked_settle, Reading.asked_settle, Course.asked_pure, List.append_nil]
        rfl

theorem missed_pointeeText (kind : w.target.FailsInKind) (nonnull : value ≠ 0)
    {pointee : Noted String} (h : (pointeeText ctx arg value).on w = .ok pointee) :
    pointee.missed = true ↔
      (∃ q ∈ (pointeeText ctx arg value).asked w, w.Misses q) ∨
        ∃ f, OverlayFails w ctx arg value f := by
  have unread : ¬ w.Misses (.typeNamed arg.type) := id
  obtain ⟨f, unknown, missed, asked⟩ | ⟨type, f, -, hr, missed, asked⟩ |
    ⟨type, text, overlay, ht, hr, ho, missed, asked⟩ := pointeeText_cases h
  · rw [missed, asked]
    refine iff_of_false Bool.false_ne_true ?_
    rintro (⟨q, hq, miss⟩ | ⟨f, ⟨-, type, known, -⟩, -, -⟩)
    · cases List.mem_singleton.1 hq
      exact unread miss
    · rw [unknown] at known
      cases known
  · obtain ⟨unreadable, q, hq, miss⟩ := rendered_failure kind hr
    rw [missed, asked]
    exact iff_of_true unreadable (.inl ⟨q, List.mem_cons_of_mem _ hq, miss⟩)
  · have rendered : ¬ ∃ q ∈ (Reading.rendered ctx.space type value).asked w, w.Misses q := by
      rw [← (Reading.rendered_within strictTerms_reads type value).marks text hr]
      exact Bool.false_ne_true
    rw [missed, asked, missed_overlayText ⟨nonnull, type, ht, text, hr⟩ ho]
    -- the type was no read, and the reads of the value did not fail
    simp only [List.mem_cons, List.mem_append, or_and_right, exists_or, exists_eq_left, rendered,
      false_or, unread]

theorem missed_pointerText (kind : w.target.FailsInKind) {text : Noted String}
    (h : (pointerText ctx arg value).on w = .ok text) :
    text.missed = true ↔
      (∃ q ∈ (pointerText ctx arg value).asked w, w.Misses q) ∨
        ∃ f, OverlayFails w ctx arg value f := by
  by_cases null : value = 0
  · subst null
    rw [pointerText_zero] at h ⊢
    cases h
    refine iff_of_false Bool.false_ne_true ?_
    rintro (⟨q, hq, -⟩ | ⟨f, ⟨nonnull, -⟩, -, -⟩)
    · cases hq
    · exact nonnull rfl
  · unfold pointerText at h ⊢
    rw [if_neg null] at h ⊢
    cases hp : (pointeeText ctx arg value).on w with
    | error a => rw [Course.on_bind_error w hp] at h; cases h
    | ok pointee =>
      rw [Course.on_bind_ok w hp] at h
      rw [Course.asked_bind_ok w hp]
      cases h
      rw [Course.asked_pure, List.append_nil]
      have missed := missed_pointeeText kind null hp
      exact missed

/-! ## Arguments -/

/-- What makes a memory map due on behalf of an argument: a failing read behind its pointer, or an
overlay that fails without one. -/
def Misses (w : World) (ctx : Context) (arg : Argument) (register : Except Failure UInt64) :
    Prop :=
  arg.isPointer = true ∧ ∃ value, register = .ok value ∧
    ((∃ q ∈ (pointerText ctx arg value).asked w, w.Misses q) ∨
      ∃ f, OverlayFails w ctx arg value f)

theorem missed_of_leaves (kind : w.target.FailsInKind) {s' : State}
    {register : Except Failure UInt64} (h : Leaves w ctx s arg register s') :
    s'.missed = true ↔ s.missed = true ∨ Misses w ctx arg register := by
  cases h with
  | skipped f =>
    refine (or_iff_left ?_).symm
    rintro ⟨-, value, hv, -⟩
    cases hv
  | pointer value text pointer shown =>
    have state : (s.noting text.missed).missed = (s.missed || text.missed) := rfl
    rw [state, Bool.or_eq_true, missed_pointerText kind shown]
    unfold Misses
    simp only [pointer, Except.ok.injEq, exists_eq_left', true_and]
  | untyped value f pointer unknown =>
    -- a type is missing for other reasons than memory
    obtain ⟨d, hd⟩ := kind.types _ _ unknown
    cases hd
    simp [State.noting, Failure.isUnreadable, Misses, pointer]
  | typed value type pointer known => simp [State.afterValue, Misses, pointer]

/-- After arguments that were not aborted the state tells whether one of them missed something. -/
theorem missed_of_leavesAll (kind : w.target.FailsInKind) {s' : State}
    {bound : List (Argument × Except Failure UInt64)} (h : LeavesAll w ctx s bound s') :
    s'.missed = true ↔ s.missed = true ∨ ∃ b ∈ bound, Misses w ctx b.1 b.2 := by
  induction h with
  | nil s => simp
  | cons first _ ih =>
    rw [ih, missed_of_leaves kind first, or_assoc]
    simp only [List.mem_cons, or_and_right, exists_or, exists_eq_left]

end Decode

end SyscallDecode
