/-
Courses that keep to terms: which questions they may ask, with which stops they may break off by
themselves, and whether they may go on after a failure. What a course within its terms asks and how
it ends is told here once, for all of them: an abort in the answers is always the end, and where no
failure is tolerated, neither is one.
-/
import SyscallDecode.Inquiry.Course

namespace SyscallDecode

/-- Nothing is aborted by this world. -/
def World.Quiet (w : World) : Prop :=
  ∀ q a, w.answer q ≠ .error (.abort a)

theorem Target.quiet_catalogued {byte : AddressSpace → Attempt UInt8}
    (h : ∀ space a, byte space ≠ .error (.abort a)) :
    World.Quiet ⟨.catalogued byte, .absent⟩ := by
  intro q a ha
  cases q with
  | typeNamed name =>
    change (Target.catalogued byte).typeNamed name = _ at ha
    rw [typeNamed_catalogued] at ha
    generalize CType.builtin? name = type at ha
    cases type <;> cases ha
  | read space address length =>
    have bytes : (byte space).map (List.replicate length) = .error (.abort a) := ha
    cases hb : byte space with
    | ok b => rw [hb] at bytes; cases bytes
    | error stop => rw [hb] at bytes; cases bytes; exact h space a hb
  | symbol name => cases ha
  | file descriptor => cases ha
  | areas => cases ha

/-! ## How a course is broken off -/

/-- Reasons to break off a course. -/
class Ending (ε : Type) where
  asStop : ε → Stop

instance : Ending Stop where
  asStop := id

instance : Ending Abort where
  asStop := .abort

namespace Course

variable {ε α β : Type} {w : World}

/-- A sequence asks what its first part asks, and then what the second does if the first goes
through. -/
theorem mem_asked_bind {c : Course ε β} {k : β → Course ε α} {q : Question} :
    q ∈ (c >>= k).asked w ↔ q ∈ c.asked w ∨ ∃ b, c.on w = .ok b ∧ q ∈ (k b).asked w := by
  cases h : c.on w with
  | ok b => simp [asked_bind_ok w h]
  | error e => simp [asked_bind_error w h]

variable [Ending ε]

/-- What breaks off a course in a world, if anything does. -/
def stop? (w : World) (c : Course ε α) : Option Stop :=
  match c.on w with
  | .ok _ => none
  | .error e => some (Ending.asStop e)

theorem stop?_eq_none_iff {c : Course ε α} : c.stop? w = none ↔ ∃ a, c.on w = .ok a := by
  unfold stop?
  cases c.on w <;> simp

theorem stop?_of_on_ok {c : Course ε α} {a : α} (h : c.on w = .ok a) : c.stop? w = none :=
  stop?_eq_none_iff.2 ⟨a, h⟩

/-- A sequence is broken off in its first part, or in the second after the first went through. -/
theorem stop?_bind {c : Course ε β} {k : β → Course ε α} {s : Stop} :
    (c >>= k).stop? w = some s ↔
      c.stop? w = some s ∨ ∃ b, c.on w = .ok b ∧ (k b).stop? w = some s := by
  unfold stop?
  cases h : c.on w with
  | ok b => simp [on_bind_ok w h]
  | error e => simp [on_bind_error w h]

end Course

theorem Reading.stop?_eq_some {α : Type} {r : Reading α} {w : World} {s : Stop} :
    r.stop? w = some s ↔ r.on w = .error s := by
  unfold Course.stop?
  cases r.on w <;> simp [Ending.asStop]

theorem Telling.stop?_eq_some {α : Type} {t : Telling α} {w : World} {s : Stop} :
    t.stop? w = some s ↔ ∃ a, s = .abort a ∧ t.on w = .error a := by
  unfold Course.stop?
  cases t.on w <;> simp [Ending.asStop, eq_comm]

theorem Telling.on_eq_error {α : Type} {t : Telling α} {w : World} {a : Abort} :
    t.on w = .error a ↔ t.stop? w = some (.abort a) := by
  rw [stop?_eq_some]
  simp

/-! ## Terms -/

/-- Terms of a course. -/
structure Terms where
  /-- The questions it may ask. -/
  asks : Question → Prop
  /-- The stops it may end with by itself, whatever the answers. -/
  stops : Stop → Prop := fun _ => False
  /-- Whether it may go on after a failure. -/
  tolerant : Prop := True

/-- Courses that keep to terms. -/
inductive Course.Within (T : Terms) : {ε : Type} → [Ending ε] → {α : Type} → Course ε α → Prop
  | pure {ε : Type} [Ending ε] {α : Type} (a : α) : Within T (pure a : Course ε α)
  | bind {ε : Type} [Ending ε] {α β : Type} {c : Course ε β} {k : β → Course ε α} :
    Within T c → (∀ b, Within T (k b)) → Within T (c >>= k)
  | ask (q : Question) : T.asks q → Within T (Reading.ask q)
  | stop {α : Type} (s : Stop) : T.stops s → Within T (Course.ofResult (.error s) : Reading α)
  | settle {α : Type} {r : Reading α} : T.tolerant → Within T r → Within T r.settle
  | ofTelling {α : Type} {t : Telling α} : T.tolerant → Within T t → Within T (Reading.ofTelling t)

namespace Course.Within

variable {T : Terms} {ε α : Type} [Ending ε] {c : Course ε α} {w : World}

/-- Only questions of the terms are asked. -/
theorem asks_of_mem (h : c.Within T) : ∀ q ∈ c.asked w, T.asks q := by
  induction h with
  | pure a => intro q hq; cases hq
  | bind _ _ ih ihk =>
    intro q hq
    rcases mem_asked_bind.1 hq with hq | ⟨b, -, hq⟩
    · exact ih q hq
    · exact ihk b q hq
  | ask q hq => intro q' hq'; rwa [List.mem_singleton.1 hq']
  | stop s _ => intro q hq; cases hq
  | settle _ _ ih => rwa [Reading.asked_settle]
  | ofTelling _ _ ih => rwa [Reading.asked_ofTelling]

/-- What breaks off a course is a stop of its terms or of one of the answers. -/
theorem stop_or_answer (h : c.Within T) {s : Stop} (hs : c.stop? w = some s) :
    T.stops s ∨ ∃ q ∈ c.asked w, w.answer q = .error s := by
  induction h generalizing s with
  | pure a => cases hs
  | bind _ _ ih ihk =>
    rcases stop?_bind.1 hs with hs | ⟨b, hb, hs⟩
    · exact (ih hs).imp_right fun ⟨q, hq, ha⟩ => ⟨q, mem_asked_bind.2 (.inl hq), ha⟩
    · exact (ihk b hs).imp_right fun ⟨q, hq, ha⟩ => ⟨q, mem_asked_bind.2 (.inr ⟨b, hb, hq⟩), ha⟩
  | ask q _ => exact .inr ⟨q, List.mem_singleton.2 rfl, Reading.stop?_eq_some.1 hs⟩
  | stop s' h' => cases hs; exact .inl h'
  | @settle _ r _ _ ih =>
    -- settling takes failures as results, so that what still stops it was an abort of the reading
    obtain ⟨a, rfl, ha⟩ := Telling.stop?_eq_some.1 hs
    rw [Reading.asked_settle]
    apply ih
    rw [Reading.stop?_eq_some]
    rw [Reading.on_settle] at ha
    rcases hr : r.on w with (f | b) | v <;> rw [hr] at ha <;> cases ha
    rfl
  | @ofTelling _ t _ _ ih =>
    rw [Reading.stop?_eq_some, Reading.on_ofTelling] at hs
    rw [Reading.asked_ofTelling]
    apply ih
    rw [Telling.stop?_eq_some]
    rcases ht : t.on w with a | v <;> rw [ht] at hs <;> cases hs
    exact ⟨a, rfl, rfl⟩

/-- An abort among the answers breaks off the course. -/
theorem stop_of_abort (h : c.Within T) {q : Question} (hq : q ∈ c.asked w) {a : Abort}
    (ha : w.answer q = .error (.abort a)) : c.stop? w = some (.abort a) := by
  induction h with
  | pure a => cases hq
  | bind _ _ ih ihk =>
    rcases mem_asked_bind.1 hq with hq | ⟨b, hb, hq⟩
    · exact stop?_bind.2 (.inl (ih hq))
    · exact stop?_bind.2 (.inr ⟨b, hb, ihk b hq⟩)
  | ask q' _ => rw [Reading.stop?_eq_some]; rwa [List.mem_singleton.1 hq] at ha
  | stop s _ => cases hq
  | settle _ _ ih =>
    rw [Reading.asked_settle] at hq
    rw [← Telling.on_eq_error, Reading.on_settle, Reading.stop?_eq_some.1 (ih hq)]
    rfl
  | ofTelling _ _ ih =>
    rw [Reading.asked_ofTelling] at hq
    rw [Reading.stop?_eq_some, Reading.on_ofTelling, Telling.on_eq_error.2 (ih hq)]
    rfl

/-- Where no failure is tolerated, every stop among the answers breaks off the course. -/
theorem stop_of_answer (h : c.Within T) (strict : ¬ T.tolerant) {q : Question}
    (hq : q ∈ c.asked w) {s : Stop} (ha : w.answer q = .error s) : c.stop? w = some s := by
  induction h with
  | pure a => cases hq
  | bind _ _ ih ihk =>
    rcases mem_asked_bind.1 hq with hq | ⟨b, hb, hq⟩
    · exact stop?_bind.2 (.inl (ih hq))
    · exact stop?_bind.2 (.inr ⟨b, hb, ihk b hq⟩)
  | ask q' _ => rw [Reading.stop?_eq_some]; rwa [List.mem_singleton.1 hq] at ha
  | stop s _ => cases hq
  -- only settling can lose a stop, and these terms do not allow it
  | settle ht _ _ => exact absurd ht strict
  | ofTelling ht _ _ => exact absurd ht strict

/-- A course without aborts of its own is aborted exactly by an abort among the answers. -/
theorem abort_iff (h : c.Within T) (hT : ∀ a, ¬ T.stops (.abort a)) {a : Abort} :
    c.stop? w = some (.abort a) ↔ ∃ q ∈ c.asked w, w.answer q = .error (.abort a) :=
  ⟨fun hs => (h.stop_or_answer hs).resolve_left (hT a), fun ⟨_, hq, ha⟩ => h.stop_of_abort hq ha⟩

end Course.Within

/-! ## Answers -/

namespace Course

variable {T : Terms} {ε α β : Type} {c : Course ε α} {w : World}

/-- All that the course asks in a world is answered with a value. -/
def Answered (w : World) (c : Course ε α) : Prop :=
  ∀ q ∈ c.asked w, ∃ value, w.answer q = .ok value

theorem Answered.first {c : Course ε β} {k : β → Course ε α} (h : (c >>= k).Answered w) :
    c.Answered w :=
  fun q hq => h q (mem_asked_bind.2 (.inl hq))

theorem Answered.second {c : Course ε β} {k : β → Course ε α} (h : (c >>= k).Answered w) {b : β}
    (hb : c.on w = .ok b) : (k b).Answered w :=
  fun q hq => h q (mem_asked_bind.2 (.inr ⟨b, hb, hq⟩))

/-- With values for all answers a course is broken off by itself only. -/
theorem Answered.stops [Ending ε] (answered : c.Answered w) (h : c.Within T) {s : Stop}
    (hs : c.stop? w = some s) : T.stops s := by
  refine (h.stop_or_answer hs).resolve_right ?_
  rintro ⟨q, hq, ha⟩
  obtain ⟨value, hv⟩ := answered q hq
  cases hv.symm.trans ha

theorem Answered.on_eq_ok [Ending ε] (answered : c.Answered w) (h : c.Within T)
    (hT : ∀ s, ¬ T.stops s) : ∃ a, c.on w = .ok a := by
  rw [← stop?_eq_none_iff, Option.eq_none_iff_forall_ne_some]
  exact fun s hs => hT s (answered.stops h hs)

theorem Answered.of_settle {r : Reading α} (h : r.settle.Answered w) : r.Answered w := by
  unfold Answered at h ⊢
  rwa [Reading.asked_settle] at h

theorem Answered.of_ofTelling {t : Telling α} (h : (Reading.ofTelling t).Answered w) :
    t.Answered w := by
  unfold Answered at h ⊢
  rwa [Reading.asked_ofTelling] at h

theorem Answered.value {q : Question} (h : (Reading.ask q).Answered w) :
    ∃ value, (Reading.ask q).on w = .ok value :=
  h q (List.mem_singleton.2 rfl)

end Course

end SyscallDecode
