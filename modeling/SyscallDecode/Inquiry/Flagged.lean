/-
Courses under a flag of their caller's. A gap raises the flag; it is part of the state of a run, so
that it is known also where the run is broken off.
-/
import SyscallDecode.Inquiry.Course
import SyscallDecode.Noted

namespace SyscallDecode

/-- A reading that can see and raise a flag. -/
abbrev Flagged := ExceptT Stop (StateT Bool Inquiry)

namespace Flagged

variable {α β : Type} (w : World)

/-- How a run ends that begins with this flag, and the flag by then. -/
def runFrom (flag : Bool) (c : Flagged α) : Except Stop α × Bool :=
  (StateT.run (ExceptT.run c) flag).run w

/-- A reading that knows nothing of the flag. -/
def reading (r : Reading α) : Flagged α :=
  ExceptT.mk (StateT.lift r.ending)

/-- What is told, with its gap, if it has one, in the flag. -/
def noting (telling : Telling (Noted α)) : Flagged α := do
  let item ← reading (.ofTelling telling)
  if item.missed then set true
  return item.value

variable {w} {flag flag' : Bool}

@[simp] theorem runFrom_pure (a : α) : runFrom w flag (pure a) = (.ok a, flag) := rfl

@[simp] theorem runFrom_reading (r : Reading α) : runFrom w flag (reading r) = (r.on w, flag) := rfl

theorem runFrom_bind_ok {c : Flagged β} {b : β} (h : c.runFrom w flag = (.ok b, flag'))
    (k : β → Flagged α) : (c >>= k).runFrom w flag = (k b).runFrom w flag' := by
  show ((ExceptT.bindCont k (c.runFrom w flag).1).run (c.runFrom w flag).2).run w = _
  rw [h]
  rfl

theorem runFrom_bind_error {c : Flagged β} {stop : Stop}
    (h : c.runFrom w flag = (.error stop, flag')) (k : β → Flagged α) :
    (c >>= k).runFrom w flag = (.error stop, flag') := by
  show ((ExceptT.bindCont k (c.runFrom w flag).1).run (c.runFrom w flag).2).run w = _
  rw [h]
  rfl

/-- The run ends like a reading, and leaves the flag as it was. -/
def Spares (w : World) (c : Flagged α) (r : Reading α) : Prop :=
  ∀ flag, c.runFrom w flag = (r.on w, flag)

namespace Spares

theorem pure (a : α) : Spares w (Pure.pure a) (Pure.pure a) := fun _ => rfl

theorem reading (r : Reading α) : Spares w (reading r) r := fun _ => rfl

theorem bind {c : Flagged β} {r : Reading β} {k : β → Flagged α} {k' : β → Reading α}
    (first : Spares w c r) (next : ∀ b, Spares w (k b) (k' b)) :
    Spares w (c >>= k) (r >>= k') := by
  intro flag
  have run := first flag
  cases on : r.on w with
  | ok b =>
    rw [on] at run
    rw [runFrom_bind_ok run, Course.on_bind_ok w on, next b flag]
  | error stop =>
    rw [on] at run
    rw [runFrom_bind_error run, Course.on_bind_error w on]

end Spares

/-- A gap raises the flag. -/
theorem runFrom_noting {telling : Telling (Noted α)} {item : Noted α}
    (told : telling.on w = .ok item) :
    (noting telling).runFrom w flag = (.ok item.value, flag || item.missed) := by
  have read : (reading (.ofTelling telling)).runFrom w flag = (.ok item, flag) := by
    rw [runFrom_reading, Reading.on_ofTelling, told]
    rfl
  obtain ⟨value, missed⟩ := item
  refine (runFrom_bind_ok read _).trans ?_
  cases missed with
  | false =>
    rw [Bool.or_false]
    rfl
  | true =>
    rw [Bool.or_true]
    rfl

end Flagged

end SyscallDecode
