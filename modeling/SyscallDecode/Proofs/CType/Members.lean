/-
Structs shown member by member. A value is shown by one read, and the text of a struct has one line per
member; what stands there is the text of the member by itself, read at its own address, or a word on a
member that does not lie inside. A member never takes part in the line of another one.
-/
import Mathlib.Data.List.Forall2
import SyscallDecode.Proofs.CType.Nesting
import SyscallDecode.Proofs.CType.Slices
import SyscallDecode.Proofs.Target.Bytes

namespace SyscallDecode

open SyscallDecode.Text

/-! ## Lines -/

/-- The line of a member of a struct that stands by itself. -/
def memberLine (name value : String) : String :=
  "\n  " ++ name ++ ": " ++ value

/-- What stands in the line of a member of a struct with these bytes. -/
def memberValue (bytes : List UInt8) (m : Member) : String :=
  match slice? bytes m.offset m.type.size with
  | some part => m.type.renderValue part 1
  | none => "<out of bounds>"

theorem CType.renderMembers_eq_join (members : List Member) (bytes : List UInt8) :
    renderMembers members bytes 0 =
      String.join (members.map fun m => memberLine m.name (memberValue bytes m)) := by
  induction members with
  | nil => rfl
  | cons m rest ih =>
    obtain ⟨name, offset, type⟩ := m
    rw [renderMembers, ih, List.map_cons, String.join_cons]
    rfl

/-- The text of a struct that stands by itself. -/
theorem CType.render_struct {size : Nat} {bytes : List UInt8} (length : bytes.length = size)
    (name : String) (members : List Member) :
    (CType.struct name size members).render bytes =
      name ++ " \x7b" ++
        String.join (members.map fun m => memberLine m.name (memberValue bytes m)) ++ "\n\x7d" := by
  have closing : "\n" ++ (indent 0 ++ "\x7d") = "\n\x7d" := rfl
  rw [render, renderValue, if_neg (by decide), List.take_of_length_le (Nat.le_of_eq length),
    renderMembers_eq_join]
  simp only [String.append_assoc, closing]

theorem CType.mem_memberNames {members : List Member} {m : Member} (hm : m ∈ members)
    {name : String} (h : name ∈ m.type.names) : name ∈ memberNames members := by
  induction members with
  | nil => cases hm
  | cons first rest ih =>
    obtain ⟨_, _, type⟩ := first
    rw [memberNames, List.mem_cons, List.mem_append]
    rcases List.mem_cons.1 hm with rfl | hm
    · exact .inr (.inl h)
    · exact .inr (.inr (ih hm))

/-! ## Members in memory -/

namespace Target

variable {t : Target} {cell : AddressSpace → UInt64 → Option UInt8} {space : AddressSpace}
  {address : UInt64}

/-- What the line of a member says, in a struct of this size at this address: the text of the member at
its own address, with a margin behind each line feed, as long as none of its structs lies too deep to be
shown; for a member that does not lie inside, only that. -/
def MemberTells (t : Target) (space : AddressSpace) (address : UInt64) (size : Nat) (m : Member)
    (value : String) : Prop :=
  if m.offset + m.type.size ≤ size then
    ∃ text, t.renderAt space m.type (address + UInt64.ofNat m.offset) = .ok text ∧
      (m.type.ShownWhole 1 → value = indentRest "  " text)
  else value = "<out of bounds>"

theorem memberTells (memory : t.ByteAddressed cell) {size : Nat} {bytes : List UInt8}
    (read : t.read space address size = .ok bytes) {m : Member}
    (single : ∀ name ∈ m.type.names, '\n' ∉ name.toList) :
    t.MemberTells space address size m (memberValue bytes m) := by
  have length := t.read_length read
  unfold MemberTells memberValue slice?
  rw [length]
  split
  · next inside =>
    have part := memory.read_part read inside
    refine ⟨m.type.render ((bytes.drop m.offset).take m.type.size), ?_, fun whole => ?_⟩
    · rw [t.renderAt_eq_map, part]
      rfl
    · exact CType.renderValue_succ m.type single _ 0 whole
  · rfl

theorem asked_rendered (t : Target) (space : AddressSpace) (address : UInt64) (type : CType) :
    (Reading.rendered space type address).asked t.world = [.read space address type.size] := by
  unfold Reading.rendered
  rw [Course.asked_bind]
  cases (Reading.bytes space address type.size).on t.world <;> rfl

theorem renderAt_eq_error_iff (t : Target) (space : AddressSpace) (address : UInt64) (type : CType)
    {stop : Stop} : t.renderAt space type address = .error stop ↔
      t.read space address type.size = .error stop := by
  unfold renderAt Reading.rendered
  rw [Course.on_bind_eq_error]
  refine or_iff_left ?_
  rintro ⟨bytes, -, failed⟩
  cases failed

/-- Values of all types are shown by one read of their bytes, which is all that can fail; no slice of the
bytes leaves them. The text of a struct has the lines of its members in order, each of which says what
is shown of the member by itself. In the types of the catalogue no member lies outside its struct and no
struct too deep to be shown. -/
theorem render_by_members (memory : t.ByteAddressed cell) (space : AddressSpace) (type : CType)
    (single : ∀ name ∈ type.names, '\n' ∉ name.toList) (address : UInt64) :
    (Reading.rendered space type address).asked t.world = [.read space address type.size] ∧
    (∀ stop, t.renderAt space type address = .error stop ↔
      t.read space address type.size = .error stop) ∧
    (∀ bytes, t.read space address type.size = .ok bytes →
      ∃ text, type.slicedValue bytes 0 = some text ∧ t.renderAt space type address = .ok text) ∧
    (∀ name size members, type = .struct name size members →
      ∀ text, t.renderAt space type address = .ok text →
        ∃ values, List.Forall₂ (t.MemberTells space address size) members values ∧
          text = name ++ " \x7b" ++
            String.join (List.zipWith (fun m value => memberLine m.name value) members values) ++
              "\n\x7d") ∧
    ∀ name, CType.builtin? name = some type → ∀ level inner size members,
      CType.Part level (.struct inner size members) type →
        level < CType.maxDepth ∧ ∀ m ∈ members, m.offset + m.type.size ≤ size := by
  refine ⟨?_, fun stop => ?_, fun bytes read => ?_, ?_, ?_⟩
  · exact asked_rendered t space address type
  · exact t.renderAt_eq_error_iff space address type
  · refine ⟨type.render bytes, CType.slicedValue_eq type bytes 0, ?_⟩
    rw [t.renderAt_eq_map, read]
    rfl
  · rintro name size members rfl text shown
    obtain ⟨bytes, read, rfl⟩ := t.bytes_of_renderAt shown
    refine ⟨members.map (memberValue bytes), ?_, ?_⟩
    · rw [List.forall₂_map_right_iff, List.forall₂_same]
      intro m hm
      refine memberTells memory read fun n hn => single n ?_
      exact List.mem_cons_of_mem _ (CType.mem_memberNames hm hn)
    · rw [List.zipWith_map_right, List.zipWith_self]
      exact CType.render_struct (t.read_length read) name members
  · intro name found level inner size members inside
    exact CType.builtin?_struct found inside

/-- A target in which each byte is the last one of its address. -/
def addressBytes : Target :=
  Cells.target (fun _ a => .ok a.toUInt8) catalogueTypes fun name => .fail (.unknownSymbol name)

/-- A struct of two numbers. -/
def point : CType :=
  .struct "struct point" 8 [.mk "x" 0 (.scalar "int" 4 .unsigned),
    .mk "y" 4 (.scalar "int" 4 .unsigned)]

/-- A number, a struct, and a member that does not lie wholly inside. -/
def spread : CType :=
  .struct "struct spread" 12 [.mk "low" 0 (.scalar "int" 4 .unsigned), .mk "at" 4 point,
    .mk "far" 9 (.scalar "int" 4 .unsigned)]

/-- The struct inside has two more blanks in front of its lines, and the member behind it does no harm
to the ones before. -/
theorem render_spread :
    addressBytes.renderAt (.user 0x1000) point 0x104 =
        .ok "struct point \x7b\n  x: 117835012\n  y: 185207048\n\x7d" ∧
      addressBytes.renderAt (.user 0x1000) spread 0x100 =
        .ok ("struct spread \x7b" ++ memberLine "low" "50462976" ++
          memberLine "at" "struct point \x7b\n    x: 117835012\n    y: 185207048\n  \x7d" ++
          memberLine "far" "<out of bounds>" ++ "\n\x7d") := by
  have inner : addressBytes.renderAt (.user 0x1000) point 0x104 =
      .ok "struct point \x7b\n  x: 117835012\n  y: 185207048\n\x7d" := by decide
  have number : addressBytes.renderAt (.user 0x1000) (.scalar "int" 4 .unsigned) 0x100 =
      .ok "50462976" := by decide
  have read : addressBytes.read (.user 0x1000) 0x100 12 = .ok [0, 1, 2, 3, 4, 5, 6, 7, 8, 9, 10, 11] :=
    rfl
  obtain ⟨-, -, shown, lines, -⟩ := addressBytes.render_by_members
    (Cells.byteAddressed_target catalogueTypes _ nofun) (.user 0x1000) spread (by decide) 0x100
  obtain ⟨text, -, shown⟩ := shown _ read
  obtain ⟨values, told, rfl⟩ := lines _ _ _ rfl _ shown
  refine ⟨inner, ?_⟩
  rw [shown]
  obtain _ | ⟨low, _ | ⟨at', _ | ⟨far, _ | _⟩⟩⟩ := told
  obtain ⟨lowText, lowFound, lowShown⟩ := low
  obtain ⟨pointText, pointFound, pointShown⟩ := at'
  cases lowFound.symm.trans number
  cases pointFound.symm.trans inner
  rw [lowShown (CType.shownWhole_of_fits 3 rfl (by decide)),
    pointShown (CType.shownWhole_of_fits 3 rfl (by decide)), show _ = "<out of bounds>" from far]
  decide

end Target

end SyscallDecode
