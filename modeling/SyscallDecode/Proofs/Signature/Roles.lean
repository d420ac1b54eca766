/-
What signatures guarantee of their arguments: they are few enough for the registers, stand at their
index, and their roles point at other arguments of the same call only.
-/
import Mathlib.Tactic.SplitIfs
import SyscallDecode.CType.Catalogue
import SyscallDecode.Invocation.Binding
import SyscallDecode.Signature.Lookup

namespace SyscallDecode

namespace Role

/-- The argument that a pointer of this role takes its length from. -/
def lengthIndex : Role → Option Nat
  | buffer index | socketAddress (.inRegister index) | socketAddress (.inMemory index) => some index
  | _ => none

theorem lengthIndex_eq_some {role : Role} {l : Nat} (h : role.lengthIndex = some l) :
    role = .buffer l ∨ role = .socketAddress (.inRegister l) ∨
      role = .socketAddress (.inMemory l) := by
  unfold lengthIndex at h
  split at h <;> cases h
  · exact .inl rfl
  · exact .inr (.inl rfl)
  · exact .inr (.inr rfl)

theorem ofPointer_not_forValue (call : String) (param : Param) (next : Option Param)
    (index : Nat) : (ofPointer call param next index).isForValue = false := by
  unfold ofPointer
  dsimp only
  split_ifs <;> rfl

/-- Values have mapping roles in the mapping call only, and never a length. -/
theorem ofValue_spec (call name : String) :
    (ofValue call name = .mapFlags → call = "mmap" ∧ name = "flags") ∧
    (ofValue call name = .mapBacking → call = "mmap" ∧ (name = "fd" ∨ name = "pgoff")) ∧
    (ofValue call name).lengthIndex = none := by
  unfold ofValue
  split
  · next flags => exact ⟨fun _ => flags, nofun, rfl⟩
  split
  · next backing => exact ⟨nofun, fun _ => backing, rfl⟩
  repeat' split
  all_goals exact ⟨nofun, nofun, rfl⟩

/-- Roles of values belong to parameters that are no pointers. -/
theorem classify_eq_ofValue {call : String} {params : List Param} {index : Nat}
    (h : (classify call params index).isForValue = true) :
    ∃ param, params[index]? = some param ∧
      classify call params index = ofValue call param.name := by
  unfold classify at h ⊢
  cases hp : params[index]? with
  | none => rw [hp] at h; cases h
  | some param =>
    rw [hp] at h
    dsimp only at h ⊢
    split at h
    · rw [ofPointer_not_forValue] at h; cases h
    · next value => exact ⟨param, rfl, if_neg value⟩

theorem classify_eq_mapFlags {call : String} {params : List Param} {index : Nat}
    (h : classify call params index = .mapFlags) :
    call = "mmap" ∧ ∃ param, params[index]? = some param ∧ param.name = "flags" := by
  obtain ⟨param, hp, role⟩ := classify_eq_ofValue (by rw [h]; rfl)
  obtain ⟨hc, hn⟩ := (ofValue_spec call param.name).1 (role.symm.trans h)
  exact ⟨hc, param, hp, hn⟩

theorem classify_eq_mapBacking {call : String} {params : List Param} {index : Nat}
    (h : classify call params index = .mapBacking) :
    call = "mmap" ∧
      ∃ param, params[index]? = some param ∧ (param.name = "fd" ∨ param.name = "pgoff") := by
  obtain ⟨param, hp, role⟩ := classify_eq_ofValue (by rw [h]; rfl)
  obtain ⟨hc, hn⟩ := (ofValue_spec call param.name).2.1 (role.symm.trans h)
  exact ⟨hc, param, hp, hn⟩

theorem ofValue_not_forPointer (call name : String) :
    (ofValue call name).isForPointer = false := by
  unfold ofValue
  split_ifs <;> rfl

/-- Roles of pointers belong to parameters that are pointers. -/
theorem classify_eq_ofPointer {call : String} {params : List Param} {index : Nat}
    (h : (classify call params index).isForPointer = true) :
    ∃ param, params[index]? = some param ∧ param.isPointer = true ∧
      classify call params index = ofPointer call param params[index + 1]? index := by
  unfold classify at h ⊢
  cases hp : params[index]? with
  | none => rw [hp] at h; cases h
  | some param =>
    rw [hp] at h
    dsimp only at h ⊢
    split at h
    · next pointer => exact ⟨param, rfl, pointer, if_pos pointer⟩
    · rw [ofValue_not_forPointer] at h; cases h

/-- A socket address stands behind a pointer to one. -/
theorem classify_eq_socketAddress {call : String} {params : List Param} {index : Nat}
    {length : AddressLength} (h : classify call params index = .socketAddress length) :
    ∃ param, params[index]? = some param ∧ param.isPointer = true ∧
      CType.normalizeName param.type = "struct sockaddr" := by
  obtain ⟨param, hp, pointer, role⟩ := classify_eq_ofPointer (by rw [h]; rfl)
  refine ⟨param, hp, pointer, ?_⟩
  rw [h] at role
  unfold ofPointer at role
  dsimp only at role
  split_ifs at role with _ _ _ pointee
  exact pointee

/-- An array of strings is named for the arguments or the environment of a program. -/
theorem classify_eq_stringArray {call : String} {params : List Param} {index : Nat}
    (h : classify call params index = .stringArray) :
    ∃ param, params[index]? = some param ∧ param.isPointer = true ∧
      (param.name = "argv" ∨ param.name = "envp") := by
  obtain ⟨param, hp, pointer, role⟩ := classify_eq_ofPointer (by rw [h]; rfl)
  refine ⟨param, hp, pointer, ?_⟩
  rw [h] at role
  unfold ofPointer at role
  dsimp only at role
  split_ifs at role with _ _ named
  exact named

theorem isSome_of_isCounted {next : Option Param} (h : isCounted next) : next.isSome := by
  cases next with
  | none => cases h
  | some next => rfl

theorem lengthIndex_addressLength {next : Option Param} {index l : Nat}
    (h : (socketAddress (addressLength next index)).lengthIndex = some l) :
    l = index + 1 ∧ next.isSome := by
  unfold addressLength at h
  split at h
  · split_ifs at h <;> cases h <;> exact ⟨rfl, rfl⟩
  · cases h

theorem lengthIndex_ofPointer {call : String} {param : Param} {next : Option Param}
    {index l : Nat} (h : (ofPointer call param next index).lengthIndex = some l) :
    l = index + 1 ∧ next.isSome := by
  unfold ofPointer at h
  dsimp only at h
  split_ifs at h with _ counted
  · cases h
  · cases h; exact ⟨rfl, isSome_of_isCounted counted.2.2⟩
  · cases h
  · exact lengthIndex_addressLength h
  · cases h
  · cases h

/-- A length stands in the argument right behind its pointer. -/
theorem lengthIndex_classify {call : String} {params : List Param} {index l : Nat}
    (h : (classify call params index).lengthIndex = some l) :
    l = index + 1 ∧ l < params.length := by
  unfold classify at h
  split at h
  · cases h
  · split at h
    · obtain ⟨rfl, hn⟩ := lengthIndex_ofPointer h
      obtain ⟨next, hn⟩ := Option.isSome_iff_exists.1 hn
      exact ⟨rfl, (List.getElem?_eq_some_iff.1 hn).1⟩
    · next param _ _ =>
      rw [(ofValue_spec call param.name).2.2] at h
      cases h

/-- A pointer of this role takes its length from the value of another register. -/
def CountedBy (role : Role) (l : Nat) : Prop :=
  role = .buffer l ∨ role = .socketAddress (.inRegister l)

theorem CountedBy.lengthIndex {role : Role} {l : Nat} (h : role.CountedBy l) :
    role.lengthIndex = some l := by
  rcases h with rfl | rfl <;> rfl

/-- A pointer parameter whose length may be the value of the parameter behind it. -/
def Counts (param next : Param) : Prop :=
  param.name = "buf" ∨
    next.isPointer = false ∧ isLengthName next.name ∧
      CType.normalizeName param.type = "struct sockaddr"

instance (param next : Param) : Decidable (Counts param next) :=
  inferInstanceAs (Decidable (_ ∨ _))

theorem inRegister_addressLength {next : Option Param} {index l : Nat}
    (h : addressLength next index = .inRegister l) :
    ∃ length, next = some length ∧ length.isPointer = false ∧ isLengthName length.name := by
  unfold addressLength at h
  split at h
  · next length =>
    split_ifs at h with named value
    exact ⟨length, rfl, by simpa using value, named⟩
  · cases h

theorem classify_countedBy {call : String} {params : List Param} {index l : Nat}
    (h : (classify call params index).CountedBy l) :
    ∃ param next, params[index]? = some param ∧ params[index + 1]? = some next ∧
      param.isPointer = true ∧ Counts param next := by
  have pointers : (classify call params index).isForPointer = true := by
    rcases h with h | h <;> rw [h] <;> rfl
  obtain ⟨param, hp, pointer, role⟩ := classify_eq_ofPointer pointers
  rw [role] at h
  unfold ofPointer at h
  dsimp only at h
  split_ifs at h with _ counted _ pointee
  · rcases h with h | h <;> cases h
  · obtain ⟨next, hn⟩ := Option.isSome_iff_exists.1 (isSome_of_isCounted counted.2.2)
    exact ⟨param, next, hp, hn, pointer, .inl counted.1⟩
  · rcases h with h | h <;> cases h
  · obtain h | h := h
    · cases h
    · obtain ⟨next, hn, value, named⟩ := inRegister_addressLength (Role.socketAddress.inj h)
      exact ⟨param, next, hp, hn, pointer, .inr ⟨value, named, pointee⟩⟩
  · rcases h with h | h <;> cases h
  · rcases h with h | h <;> cases h

end Role

/-- No call has more arguments than there are registers. -/
theorem Prototype.length_params_le : ∀ p ∈ Prototype.all, p.params.length ≤ argumentRegisters := by
  decide +kernel

/-! ## Known signatures -/

/-- What decoding relies on in a signature. -/
structure Signature.Sound (s : Signature) : Prop where
  /-- Every argument has a register. -/
  arity_le : s.arguments.length ≤ argumentRegisters
  index_eq : ∀ (i : Nat) (a : Argument), s.arguments[i]? = some a → a.index = i
  /-- Lengths stand in declared arguments. -/
  length_lt : ∀ a ∈ s.arguments, ∀ l, a.role.lengthIndex = some l → l < s.arguments.length
  mapFlags : ∀ a ∈ s.arguments, a.role = .mapFlags → a.name = "flags"
  mapBacking : ∀ a ∈ s.arguments, a.role = .mapBacking →
    s.name = "mmap" ∧ (a.name = "fd" ∨ a.name = "pgoff")

theorem Prototype.getElem?_arguments (p : Prototype) (i : Nat) :
    p.signature.arguments[i]? = p.params[i]?.map (p.argument i) :=
  List.getElem?_mapIdx

theorem Prototype.mem_arguments {p : Prototype} {a : Argument} (h : a ∈ p.signature.arguments) :
    ∃ i param, p.params[i]? = some param ∧ a = p.argument i param := by
  obtain ⟨i, hi⟩ := List.mem_iff_getElem?.1 h
  rw [getElem?_arguments] at hi
  obtain ⟨param, hp, rfl⟩ := Option.map_eq_some_iff.1 hi
  exact ⟨i, param, hp, rfl⟩

theorem Prototype.signature_sound {p : Prototype} (h : p.params.length ≤ argumentRegisters) :
    p.signature.Sound := by
  have length : p.signature.arguments.length = p.params.length := List.length_mapIdx
  refine ⟨length ▸ h, fun i a ha => ?_, fun a ha l hl => ?_, fun a ha hr => ?_, fun a ha hr => ?_⟩
  · rw [getElem?_arguments] at ha
    obtain ⟨param, -, rfl⟩ := Option.map_eq_some_iff.1 ha
    rfl
  · obtain ⟨i, param, -, rfl⟩ := mem_arguments ha
    rw [length]
    exact (Role.lengthIndex_classify hl).2
  · obtain ⟨i, param, hp, rfl⟩ := mem_arguments ha
    obtain ⟨-, param', hp', hn⟩ := Role.classify_eq_mapFlags hr
    rw [hp] at hp'; cases hp'
    exact hn
  · obtain ⟨i, param, hp, rfl⟩ := mem_arguments ha
    obtain ⟨hc, param', hp', hn⟩ := Role.classify_eq_mapBacking hr
    rw [hp] at hp'; cases hp'
    exact ⟨hc, hn⟩

/-- An argument that is a socket address is a pointer to one. -/
theorem Signature.pointer_of_socketAddress {number : UInt64} {s : Signature}
    (h : Signature.find? number = some s) {a : Argument} (ha : a ∈ s.arguments)
    {length : AddressLength} (role : a.role = .socketAddress length) :
    a.isPointer = true ∧ CType.normalizeName a.type = "struct sockaddr" := by
  obtain ⟨p, -, -, rfl⟩ := Signature.find?_eq_some h
  obtain ⟨i, param, hp, rfl⟩ := Prototype.mem_arguments ha
  obtain ⟨param', hp', pointer, pointee⟩ := Role.classify_eq_socketAddress role
  rw [hp] at hp'
  cases hp'
  exact ⟨pointer, pointee⟩

/-- All arrays of strings are declared alike. -/
theorem Prototype.type_of_stringArray : ∀ p ∈ Prototype.all, ∀ param ∈ p.params,
    param.isPointer = true → param.name = "argv" ∨ param.name = "envp" →
      param.type = "char __user *" := by
  decide +kernel

/-- An argument that is an array of strings is a pointer to pointers to characters. -/
theorem Signature.pointer_of_stringArray {number : UInt64} {s : Signature}
    (h : Signature.find? number = some s) {a : Argument} (ha : a ∈ s.arguments)
    (role : a.role = .stringArray) : a.isPointer = true ∧ a.type = "char __user *" := by
  obtain ⟨p, hall, -, rfl⟩ := Signature.find?_eq_some h
  obtain ⟨i, param, hp, rfl⟩ := Prototype.mem_arguments ha
  obtain ⟨param', hp', pointer, named⟩ := Role.classify_eq_stringArray role
  rw [hp] at hp'
  cases hp'
  exact ⟨pointer, Prototype.type_of_stringArray p hall param (List.mem_of_getElem? hp) pointer named⟩

theorem Signature.name_of_stringArray {number : UInt64} {s : Signature}
    (h : Signature.find? number = some s) {a : Argument} (ha : a ∈ s.arguments)
    (role : a.role = .stringArray) : a.name = "argv" ∨ a.name = "envp" := by
  obtain ⟨p, -, -, rfl⟩ := Signature.find?_eq_some h
  obtain ⟨i, param, hp, rfl⟩ := Prototype.mem_arguments ha
  obtain ⟨param', hp', -, named⟩ := Role.classify_eq_stringArray role
  cases hp.symm.trans hp'
  exact named

/-- A length stands in the argument right behind its pointer. -/
theorem Signature.lengthIndex_eq {number : UInt64} {s : Signature}
    (h : Signature.find? number = some s) {i l : Nat} {a : Argument}
    (ha : s.arguments[i]? = some a) (length : a.role.lengthIndex = some l) : l = i + 1 := by
  obtain ⟨p, -, -, rfl⟩ := Signature.find?_eq_some h
  rw [Prototype.getElem?_arguments] at ha
  obtain ⟨param, -, rfl⟩ := Option.map_eq_some_iff.1 ha
  exact (Role.lengthIndex_classify length).1

set_option synthInstance.maxSize 1000 in
/-- A length of four bytes is a plain value, and the last argument of its call. -/
theorem Prototype.last_of_narrow : ∀ p ∈ Prototype.all, ∀ i < p.params.length,
    ∀ param ∈ p.params[i]?, ∀ next ∈ p.params[i + 1]?, param.isPointer = true →
      Role.Counts param next → (CType.builtin? next.type).map CType.size = some 4 →
        p.params.length = i + 2 ∧ next.isPointer = false ∧
          Role.ofValue p.name next.name = .plain := by
  decide +kernel

/-- What is known of a length of four bytes and of the pointer that it belongs to. -/
structure Signature.NarrowLength (s : Signature) (i l : Nat) (arg length : Argument) : Prop where
  index_eq : l = i + 1
  arity_eq : s.arguments.length = i + 2
  pointer : arg.isPointer = true
  value : length.isPointer = false
  plain : length.role = .plain

theorem Signature.narrowLength {number : UInt64} {s : Signature}
    (h : Signature.find? number = some s) {i l : Nat} {arg length : Argument}
    (declared : s.arguments[i]? = some arg) (counted : arg.role.CountedBy l)
    (counts : s.arguments[l]? = some length)
    (narrow : (CType.builtin? length.type).map CType.size = some 4) :
    s.NarrowLength i l arg length := by
  obtain rfl := lengthIndex_eq h declared counted.lengthIndex
  obtain ⟨p, hall, -, rfl⟩ := Signature.find?_eq_some h
  rw [Prototype.getElem?_arguments] at declared counts
  obtain ⟨param, hp, rfl⟩ := Option.map_eq_some_iff.1 declared
  obtain ⟨next, hn, rfl⟩ := Option.map_eq_some_iff.1 counts
  obtain ⟨param', next', hp', hn', pointer, pair⟩ := Role.classify_countedBy counted
  cases hp.symm.trans hp'
  cases hn.symm.trans hn'
  obtain ⟨arity, value, plain⟩ := Prototype.last_of_narrow p hall i
    (List.getElem?_eq_some_iff.1 hp).1 param hp next hn pointer pair narrow
  have role : Role.classify p.name p.params (i + 1) = .plain := by
    unfold Role.classify
    rw [hn]
    simp only [value, Bool.false_eq_true, if_false, plain]
  exact ⟨rfl, List.length_mapIdx.trans arity, pointer, value, role⟩

theorem Signature.sound_of_find? {number : UInt64} {s : Signature}
    (h : Signature.find? number = some s) : s.Sound := by
  obtain ⟨p, hp, -, rfl⟩ := Signature.find?_eq_some h
  exact Prototype.signature_sound (Prototype.length_params_le p hp)

/-! ## Arguments with their registers -/

theorem Invocation.bind_eq {s : Signature} (h : s.Sound) (call : Invocation) :
    call.bind s = s.arguments.map fun a => (a, call.register a.index) := by
  unfold Invocation.bind
  rw [List.take_of_length_le h.arity_le]

theorem Invocation.getElem?_bind {s : Signature} (h : s.Sound) (call : Invocation) (i : Nat) :
    (call.bind s)[i]? = s.arguments[i]?.map fun a => (a, call.register i) := by
  rw [call.bind_eq h, List.getElem?_map]
  cases ha : s.arguments[i]? with
  | none => rfl
  | some a => rw [Option.map_some, Option.map_some, h.index_eq i a ha]

theorem Invocation.mem_bind {s : Signature} (h : s.Sound) {call : Invocation} {a : Argument}
    {register : Except Failure UInt64} :
    (a, register) ∈ call.bind s ↔ a ∈ s.arguments ∧ register = call.register a.index := by
  rw [call.bind_eq h, List.mem_map]
  constructor
  · rintro ⟨a', ha, he⟩; cases he; exact ⟨ha, rfl⟩
  · rintro ⟨ha, rfl⟩; exact ⟨a, ha, rfl⟩

theorem Invocation.length_bind {s : Signature} (h : s.Sound) (call : Invocation) :
    (call.bind s).length = s.arguments.length := by
  rw [call.bind_eq h, List.length_map]

/-- One argument among all of them, with its register. -/
theorem Invocation.bind_eq_append {s : Signature} (h : s.Sound) (call : Invocation) {i : Nat}
    {a : Argument} (ha : s.arguments[i]? = some a) :
    call.bind s =
      (call.bind s).take i ++ (a, call.register i) :: (call.bind s).drop (i + 1) := by
  have hi : (call.bind s)[i]? = some (a, call.register i) := by
    rw [call.getElem?_bind h, ha, Option.map_some]
  obtain ⟨hlt, hget⟩ := List.getElem?_eq_some_iff.1 hi
  rw [← hget, ← List.drop_eq_getElem_cons hlt, List.take_append_drop]

end SyscallDecode
