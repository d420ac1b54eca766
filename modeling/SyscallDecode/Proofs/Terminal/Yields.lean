/-
What courses yield. A course that goes through yields a value, and one that is broken off a stop,
which is always to be safe to show. The rules follow the ways in which courses are built, and
courses that ask safe questions only and keep to their answers need none of them.
-/
import SyscallDecode.Proofs.Inquiry.Gaps
import SyscallDecode.Proofs.Terminal.Words

namespace SyscallDecode

/-! ## Stops -/

/-- A stop that can be shown. -/
def Stop.Safe (s : Stop) : Prop :=
  Text.Safe s.message

/-- A settled result: a value that is good, or a failure that can be shown. -/
def Settled {α : Type} (good : α → Prop) : Except Failure α → Prop
  | .ok a => good a
  | .error f => Text.Safe f.message

/-! ## Courses -/

namespace Course

variable {ε α β : Type} [Ending ε] {w : World} {good : α → Prop}

/-- The course ends with a good value, or with a stop that can be shown. -/
def Yields (w : World) (good : α → Prop) (c : Course ε α) : Prop :=
  match c.on w with
  | .ok a => good a
  | .error e => (Ending.asStop e).Safe

namespace Yields

theorem of_ok {c : Course ε α} {a : α} (h : c.Yields w good) (ha : c.on w = .ok a) : good a := by
  unfold Yields at h
  rwa [ha] at h

theorem of_error {c : Course ε α} {e : ε} (h : c.Yields w good) (he : c.on w = .error e) :
    (Ending.asStop e).Safe := by
  unfold Yields at h
  rwa [he] at h

theorem pure {a : α} (h : good a) : (Pure.pure a : Course ε α).Yields w good := h

theorem bind {held : β → Prop} {c : Course ε β} {k : β → Course ε α} (h : c.Yields w held)
    (hk : ∀ b, held b → (k b).Yields w good) : (c >>= k).Yields w good := by
  unfold Yields
  cases hc : c.on w with
  | ok b =>
    rw [on_bind_ok w hc]
    exact hk b (h.of_ok hc)
  | error e =>
    rw [on_bind_error w hc]
    exact h.of_error hc

theorem mono {held : α → Prop} {c : Course ε α} (h : c.Yields w held)
    (hk : ∀ a, held a → good a) : c.Yields w good := by
  unfold Yields
  cases hc : c.on w with
  | ok a => exact hk a (h.of_ok hc)
  | error e => exact h.of_error hc

theorem settle {r : Reading α} (h : r.Yields w good) : r.settle.Yields w (Settled good) := by
  unfold Yields at h ⊢
  rw [Reading.on_settle]
  rcases hr : r.on w with (f | a) | a <;> rw [hr] at h <;> exact h

theorem ofTelling {t : Telling α} (h : t.Yields w good) :
    (Reading.ofTelling t).Yields w good := by
  unfold Yields at h ⊢
  rw [Reading.on_ofTelling]
  rcases ht : t.on w with a | a <;> rw [ht] at h <;> exact h

theorem fail {f : Failure} (h : Text.Safe f.message) :
    (Reading.fail f : Reading α).Yields w good := h

end Yields

/-- A course breaks off safely if it does so by itself and the answers to its questions do. -/
theorem Within.yields {T : Terms} {c : Course ε α} (h : c.Within T)
    (own : ∀ s, T.stops s → s.Safe)
    (answers : ∀ q, T.asks q → ∀ s, w.answer q = .error s → s.Safe) :
    c.Yields w fun _ => True := by
  unfold Yields
  cases hc : c.on w with
  | ok a => trivial
  | error e =>
    have stopped : c.stop? w = some (Ending.asStop e) := by
      unfold stop?
      rw [hc]
    rcases h.stop_or_answer stopped with hs | ⟨q, hq, answer⟩
    · exact own _ hs
    · exact answers q (h.asks_of_mem q hq) _ answer

end Course

/-! ## Worlds -/

/-- A world of which the answers can be shown: types with safe names for safe names, files and areas
as far as they are shown, and reasons why there is no answer. -/
structure World.Safe (w : World) : Prop where
  types : ∀ name, Text.Safe name →
    (Reading.typeNamed name).Yields w fun type => ∀ n ∈ type.names, Text.Safe n
  reads : ∀ space address length,
    (Reading.bytes space address length).Yields w fun _ => True
  files : ∀ fd, (Reading.file fd).Yields w fun view => Text.Safe view.text
  areas : Reading.areas.Yields w fun list =>
    ∀ a ∈ list, ∀ path, a.path = some path → Text.Safe path

/-- A course of reads breaks off safely in a safe world. -/
theorem World.Safe.reading {w : World} (h : w.Safe) {ε α : Type} [Ending ε] {c : Course ε α}
    {space : AddressSpace} (within : c.Within (Course.readTerms space)) :
    c.Yields w fun _ => True := by
  refine within.yields (fun _ own => own.elim) fun q hq s answer => ?_
  obtain ⟨address, length, rfl⟩ := hq
  exact (h.reads space address length).of_error answer

end SyscallDecode
