/-
Roles and the registers they lead to. A role fits its parameter: pointers have roles of pointers and
values those of values. A length stands in the parameter right behind, which is one of the call and,
for an address, named for a length; so a register that carries no declared argument is never looked
at.
-/
import SyscallDecode.Proofs.Decode.Isolation

namespace SyscallDecode.Role

open SyscallDecode.Text

variable {call : String} {params : List Param} {index : Nat}

/-! ## Pointers and values -/

theorem isPointer_of_isForPointer (inside : index < params.length)
    (h : (classify call params index).isForPointer = true) : params[index].isPointer = true := by
  obtain ⟨param, declared, pointer, -⟩ := classify_eq_ofPointer h
  cases (List.getElem?_eq_getElem inside).symm.trans declared
  exact pointer

theorem not_isPointer_of_isForValue (inside : index < params.length)
    (h : (classify call params index).isForValue = true) : params[index].isPointer = false := by
  rw [Bool.eq_false_iff]
  intro pointer
  have role : classify call params index =
      ofPointer call params[index] params[index + 1]? index := by
    unfold classify
    rw [List.getElem?_eq_getElem inside]
    exact if_pos pointer
  rw [role, ofPointer_not_forValue] at h
  cases h

/-! ## Lengths -/

/-- A name is one of a length when the letters stand somewhere in it. -/
theorem isLengthName_iff {name : String} :
    isLengthName name = true ↔ "len".toList <:+: name.toList :=
  occursIn_iff _ _

/-- What the parameter behind an address has to do with where its length stands. -/
inductive Placed (next : Option Param) (index : Nat) : AddressLength → Prop
  | inRegister (length : Param) : next = some length → length.isPointer = false →
    "len".toList <:+: length.name.toList → Placed next index (.inRegister (index + 1))
  | inMemory (length : Param) : next = some length → length.isPointer = true →
    "len".toList <:+: length.name.toList → Placed next index (.inMemory (index + 1))
  | absent : (∀ length, next = some length → ¬ "len".toList <:+: length.name.toList) →
    Placed next index .absent

theorem placed_addressLength (next : Option Param) (index : Nat) :
    Placed next index (addressLength next index) := by
  cases next with
  | none => exact .absent nofun
  | some length =>
    unfold addressLength
    dsimp only
    split_ifs with named pointer
    · exact .inMemory length rfl pointer (isLengthName_iff.1 named)
    · exact .inRegister length rfl (Bool.eq_false_iff.2 pointer) (isLengthName_iff.1 named)
    · refine .absent ?_
      rintro _ ⟨⟩ letters
      exact named (isLengthName_iff.2 letters)

/-- The length of an address is placed by the parameter behind it. -/
theorem placed_of_classify {length : AddressLength}
    (h : classify call params index = .socketAddress length) :
    Placed params[index + 1]? index length := by
  obtain ⟨param, -, -, role⟩ := classify_eq_ofPointer (by rw [h]; rfl)
  rw [h] at role
  unfold ofPointer at role
  dsimp only at role
  split_ifs at role
  cases role
  exact placed_addressLength _ _

/-- When a call to `read` begins there is nothing in its buffer yet. -/
theorem classify_read_ne_buffer (l : Nat) : classify "read" params index ≠ .buffer l := by
  intro h
  obtain ⟨param, -, -, role⟩ := classify_eq_ofPointer (by rw [h]; rfl)
  rw [h] at role
  unfold ofPointer at role
  dsimp only at role
  split_ifs at role with _ counted
  exact counted.2.1 rfl

/-! ## Both -/

/-- What the role of a parameter says of it, of the parameter behind it, and of the registers that
are looked at. -/
structure Consistent (call : String) (params : List Param) (index : Fin params.length)
    (role : Role) : Prop where
  pointer : role.isForPointer = true → params[index].isPointer = true
  value : role.isForValue = true → params[index].isPointer = false
  /-- A length stands right behind, and in the list. -/
  length : ∀ l, role.lengthIndex = some l → l = index + 1 ∧ l < params.length
  inRegister : ∀ l, role = .socketAddress (.inRegister l) → ∃ next, params[l]? = some next ∧
    next.isPointer = false ∧ "len".toList <:+: next.name.toList
  inMemory : ∀ l, role = .socketAddress (.inMemory l) → ∃ next, params[l]? = some next ∧
    next.isPointer = true ∧ "len".toList <:+: next.name.toList
  /-- No length is given only where no parameter behind is named for one. -/
  absent : role = .socketAddress .absent → ∀ next, params[index.val + 1]? = some next →
    ¬ "len".toList <:+: next.name.toList
  read : call = "read" → ∀ l, role ≠ .buffer l
  /-- What an argument of this role adds depends on no register but the one right behind its own,
  and on that only if it carries a declared argument. -/
  siblings : ∀ arg : Argument, arg.role = role → ∀ c c' : Invocation,
    (index.val + 1 < params.length → c.register (index + 1) = c'.register (index + 1)) →
      ∀ space config address,
        Overlay.ofRole space config c arg address = Overlay.ofRole space config c' arg address

/-- Every parameter of every call has a role that is consistent with the parameters. -/
theorem classify_consistent (call : String) (params : List Param) (index : Fin params.length) :
    Consistent call params index (classify call params index) := by
  have length : ∀ l, (classify call params index).lengthIndex = some l →
      l = index + 1 ∧ l < params.length := fun _ => lengthIndex_classify
  constructor
  case pointer => exact isPointer_of_isForPointer index.isLt
  case value => exact not_isPointer_of_isForValue index.isLt
  case length => exact length
  case inRegister =>
    intro l role
    cases placed_of_classify role with
    | inRegister next behind value letters => exact ⟨next, behind, value, letters⟩
  case inMemory =>
    intro l role
    cases placed_of_classify role with
    | inMemory next behind pointer letters => exact ⟨next, behind, pointer, letters⟩
  case absent =>
    intro role
    cases placed_of_classify role with
    | absent unnamed => exact unnamed
  case read =>
    rintro rfl l
    exact classify_read_ne_buffer l
  case siblings =>
    intro arg role c c' agree space config address
    refine Overlay.ofRole_congr (fun l hl => ?_) space config address
    rw [role] at hl
    obtain ⟨rfl, inside⟩ := length l hl
    exact agree inside

/-- The first fitting rule decides: a buffer that `read` fills may still be shown as an address. -/
example : classify "read" [⟨"struct sockaddr", "buf", some .write⟩, ⟨"int", "len", none⟩] 0 =
    .socketAddress (.inRegister 1) := by
  decide +kernel

end SyscallDecode.Role
