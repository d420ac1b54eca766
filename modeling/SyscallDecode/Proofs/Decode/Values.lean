/-
Arguments passed by value. A value of a known type is shown by its type, its number and a note. Only
the note of a descriptor asks the process; it shows the object behind the descriptor, or why there
is none.
-/
import SyscallDecode.Proofs.Decode.Terms

namespace SyscallDecode

open SyscallDecode.Text

/-- The file behind the argument is looked up: it is a descriptor, or that of a mapping with a file
behind it. -/
def Argument.AsksFile (arg : Argument) (anonymous : Bool) : Prop :=
  arg.role = .descriptor ∨ arg.role = .mapBacking ∧ anonymous = false ∧ arg.name = "fd"

/-- A text that tells what a process answers for the descriptor in a register: the object behind it,
or the failure to find one. -/
inductive ProcessView.Tells (process : ProcessView) (value : UInt64) : String → Prop
  | found (view : FileView) : process.file value.toUInt32.toInt32 = .ok view →
      Tells process value view.text
  | failed (f : Failure) : process.file value.toUInt32.toInt32 = .error (.failure f) →
      Tells process value ("cannot resolve: " ++ f.message)

namespace Decode

variable {w : World} {s : State} {arg : Argument} {anonymous : Bool} {value : UInt64}

/-! ## Descriptors -/

/-- The note of a descriptor tells what the process answers. -/
theorem on_fileNote_of_tells {text : String} (h : w.process.Tells value text) :
    (fileNote value).on w = .ok (" -> " ++ text) := by
  unfold fileNote fileText
  cases h with
  | found view found =>
    have answer : (Reading.file value.toUInt32.toInt32).on w = .ok view := found
    rw [Course.on_bind, Course.on_bind_ok w (Reading.on_settle_ok w answer)]
    rfl
  | failed f failed =>
    have answer : (Reading.file value.toUInt32.toInt32).on w = .error (.failure f) := failed
    rw [Course.on_bind, Course.on_bind_ok w (Reading.on_settle_failure w answer)]
    rfl

theorem on_fileNote_of_abort {a : Abort}
    (h : w.process.file value.toUInt32.toInt32 = .error (.abort a)) :
    (fileNote value).on w = .error a := by
  have answer : (Reading.file value.toUInt32.toInt32).on w = .error (.abort a) := h
  unfold fileNote fileText
  rw [Course.on_bind, Course.on_bind_error w (Reading.on_settle_abort w answer)]
  rfl

/-! ## Notes -/

theorem valueNote_of_asksFile (h : arg.AsksFile anonymous) :
    valueNote anonymous arg value = fileNote value := by
  unfold valueNote
  rcases h with role | ⟨role, rfl, name⟩
  · rw [role]
  · rw [role]
    simp [name]

/-- Every other note is known without a question. -/
theorem valueNote_of_not_asksFile (h : ¬ arg.AsksFile anonymous) (value : UInt64) :
    ∃ note, valueNote anonymous arg value = pure note := by
  unfold valueNote
  split
  all_goals try exact ⟨_, rfl⟩
  · next role =>
    split
    · exact ⟨_, rfl⟩
    · next backed =>
      refine ⟨"", if_neg fun name => h (.inr ⟨role, ?_, name⟩)⟩
      simpa using backed
  · next role => exact absurd (.inl role) h

/-! ## Texts -/

theorem argumentText_of_value (ctx : Context) (h : arg.isPointer = false) (value : UInt64) :
    argumentText ctx s arg (.ok value) = valueText s arg value := by
  unfold argumentText
  simp [h]

/-- Only the flags of a mapping leave anything to later arguments. -/
theorem afterValue_of_role (h : arg.role ≠ .mapFlags) : s.afterValue arg value = s := by
  have silent : (arg.role == .mapFlags) = false := beq_eq_false_iff_ne.2 h
  unfold State.afterValue
  rw [silent, Bool.false_and, Bool.or_false]

/-- The text of a value of a known type, up to its note. -/
def valueHead (arg : Argument) (value : UInt64) : String :=
  arg.type ++ ": " ++ hexMarked value.toNat

theorem on_valueText {type : CType} (known : (Reading.typeNamed arg.type).on w = .ok type) :
    (valueText s arg value).on w =
      ((valueNote s.anonymous arg value).on w).map fun note =>
        (valueHead arg value ++ note, s.afterValue arg value) := by
  unfold valueText
  rw [Course.on_bind_ok w (Reading.on_settle_ok w known), Course.on_bind]
  cases (valueNote s.anonymous arg value).on w <;> rfl

theorem asked_valueText {type : CType} (known : (Reading.typeNamed arg.type).on w = .ok type) :
    (valueText s arg value).asked w =
      .typeNamed arg.type :: (valueNote s.anonymous arg value).asked w := by
  unfold valueText
  rw [Course.asked_bind_ok w (Reading.on_settle_ok w known), Reading.asked_settle]
  refine congrArg (_ :: ·) ?_
  cases hn : (valueNote s.anonymous arg value).on w with
  | ok note => exact (Course.asked_bind_ok w hn _).trans (List.append_nil _)
  | error a => exact Course.asked_bind_error w hn _

end Decode

end SyscallDecode
