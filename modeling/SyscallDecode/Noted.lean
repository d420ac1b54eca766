/-
Values with gaps: what could be shown, and whether memory was missed on the way.
-/

namespace SyscallDecode

/-- A value, and whether something stands in it for memory that could not be read. -/
structure Noted (α : Type) where
  value : α
  missed : Bool := false
  deriving DecidableEq, Repr

namespace Noted

/-- A value without gaps. -/
def plain {α : Type} (value : α) : Noted α :=
  ⟨value, false⟩

/-- The values together; memory was missed when it was missed for one of them. -/
def all {α : Type} (items : List (Noted α)) : Noted (List α) :=
  ⟨items.map value, items.any missed⟩

/-- The same gaps around another value. -/
def map {α β : Type} (f : α → β) (item : Noted α) : Noted β :=
  ⟨f item.value, item.missed⟩

@[simp] theorem value_plain {α : Type} (value : α) : (plain value).value = value := rfl

@[simp] theorem missed_plain {α : Type} (value : α) : (plain value).missed = false := rfl

end Noted

end SyscallDecode
