/-
Courses that mark their gaps: when such a course goes through, its result says whether a read on
the way failed. The rules follow the ways in which courses are built, so that the marks of a long
course come from those of its parts.
-/
import SyscallDecode.Proofs.Inquiry.Within

namespace SyscallDecode

/-- A read that fails. -/
def World.Misses (w : World) : Question → Prop
  | .read space address length => ∃ stop, w.target.read space address length = .error stop
  | _ => False

theorem World.Misses.answer {w : World} {q : Question} (h : w.Misses q) :
    ∃ stop, w.answer q = .error stop := by
  cases q with
  | read space address length => exact h
  | _ => cases h

namespace Course

variable {ε α β γ : Type} {w : World}

/-- The gaps in the result, if there is one, are the reads that failed. -/
def Marks (w : World) (gaps : α → Bool) (c : Course ε α) : Prop :=
  ∀ a, c.on w = .ok a → (gaps a = true ↔ ∃ q ∈ c.asked w, w.Misses q)

theorem marks_pure {gaps : α → Bool} {a : α} (h : gaps a = false) :
    Marks w gaps (pure a : Course ε α) := by
  intro b hb
  cases hb
  simp [h]

/-- A course without gaps is followed by one that marks its own. -/
theorem Marks.andThen {gaps : α → Bool} {c : Course ε β} {k : β → Course ε α}
    (h : c.Marks w fun _ => false) (hk : ∀ b, (k b).Marks w gaps) : (c >>= k).Marks w gaps := by
  intro a ha
  cases hc : c.on w with
  | error e => rw [on_bind_error w hc] at ha; cases ha
  | ok b =>
    rw [on_bind_ok w hc] at ha
    have first : ¬ ∃ q ∈ c.asked w, w.Misses q := by simp [← h b hc]
    rw [hk b a ha, asked_bind_ok w hc]
    simp only [List.mem_append, or_and_right, exists_or, first, false_or]

/-- A course is followed by one without questions that keeps the marks. -/
theorem Marks.map {g : β → Bool} {gaps : α → Bool} {c : Course ε β} {k : β → Course ε α}
    (h : c.Marks w g) (hk : ∀ b, ∃ a, k b = pure a ∧ gaps a = g b) : (c >>= k).Marks w gaps := by
  intro a ha
  cases hc : c.on w with
  | error e => rw [on_bind_error w hc] at ha; cases ha
  | ok b =>
    obtain ⟨a', hk, hg⟩ := hk b
    rw [on_bind_ok w hc, hk] at ha
    cases ha
    rw [hg, h b hc, asked_bind_ok w hc, hk, asked_pure, List.append_nil]

/-- Two courses put together mark the gaps of both. -/
theorem Marks.both {g : β → Bool} {g' : γ → Bool} {gaps : α → Bool} {c : Course ε β}
    {d : Course ε γ} {f : β → γ → α} (h : c.Marks w g) (h' : d.Marks w g')
    (hf : ∀ b x, gaps (f b x) = (g b || g' x)) :
    (c >>= fun b => d >>= fun x => pure (f b x)).Marks w gaps := by
  intro a ha
  cases hc : c.on w with
  | error e => rw [on_bind_error w hc] at ha; cases ha
  | ok b =>
    rw [on_bind_ok w hc] at ha
    cases hd : d.on w with
    | error e => rw [on_bind_error w hd] at ha; cases ha
    | ok x =>
      rw [on_bind_ok w hd] at ha
      cases ha
      rw [hf, Bool.or_eq_true, h b hc, h' x hd, asked_bind_ok w hc, asked_bind_ok w hd]
      simp only [asked_pure, List.append_nil, List.mem_append, or_and_right, exists_or]

theorem Marks.ofTelling {gaps : α → Bool} {t : Telling α} (h : t.Marks w gaps) :
    (Reading.ofTelling t).Marks w gaps := by
  intro a ha
  rw [Reading.on_ofTelling] at ha
  rw [Reading.asked_ofTelling]
  apply h
  cases ht : t.on w with
  | error e => rw [ht] at ha; cases ha
  | ok b => rw [ht] at ha; cases ha; rfl

/-! ## Strict courses -/

/-- Any question and any stop, but no failure is tolerated. -/
def strictTerms : Terms where
  asks := fun _ => True
  stops := fun _ => True
  tolerant := False

/-- Reads in a space and nothing else; they alone can stop the course, and each that fails does. -/
def readTerms (space : AddressSpace) : Terms where
  asks := fun q => ∃ address length, q = .read space address length
  tolerant := False

/-- A course that tolerates no failure has no gaps when it goes through. -/
theorem Within.marks [Ending ε] {c : Course ε α} (h : c.Within strictTerms) :
    c.Marks w fun _ => false := by
  intro a ha
  simp only [Bool.false_eq_true, false_iff]
  rintro ⟨q, hq, miss⟩
  obtain ⟨stop, answer⟩ := miss.answer
  have := h.stop_of_answer not_false hq answer
  rw [stop?_of_on_ok ha] at this
  cases this

/-- A reading of memory that is settled fails exactly where one of its reads does. -/
theorem Within.marks_settle {space : AddressSpace} {r : Reading α}
    (h : r.Within (readTerms space)) :
    r.settle.Marks w fun ending => !ending.toBool := by
  intro ending hs
  rw [Reading.on_settle] at hs
  rw [Reading.asked_settle]
  rcases hr : r.on w with (f | a) | a
  · rw [hr] at hs
    cases hs
    refine iff_of_true rfl ?_
    -- the terms have no stops of their own and ask for nothing but reads
    obtain ⟨q, hq, answer⟩ := (h.stop_or_answer (Reading.stop?_eq_some.2 hr)).resolve_left id
    obtain ⟨address, length, rfl⟩ := h.asks_of_mem q hq
    exact ⟨_, hq, _, answer⟩
  · rw [hr] at hs; cases hs
  · rw [hr] at hs
    cases hs
    refine iff_of_false Bool.false_ne_true ?_
    rintro ⟨q, hq, miss⟩
    obtain ⟨stop, answer⟩ := miss.answer
    have := h.stop_of_answer not_false hq answer
    rw [stop?_of_on_ok hr] at this
    cases this

end Course

end SyscallDecode
