/-
The words of a report are safe: flags and addresses whatever their bits are, files whatever their
names are, failures as far as their reasons are, and values of types with safe names whatever their
bytes are.
-/
import SyscallDecode.Process.MemoryMap
import SyscallDecode.Proofs.Terminal.Safe
import SyscallDecode.Signature.BareName
import SyscallDecode.Signature.Lookup
import SyscallDecode.Socket.Message

namespace SyscallDecode

open SyscallDecode.Text

/-! ## Flags -/

namespace Flags

variable {names : BitNames}

theorem safe_bitTexts (h : ∀ entry ∈ names, allSafeBytes entry.2) (value : UInt64) :
    ∀ text ∈ bitTexts names value, Safe text := by
  intro text ht
  rcases List.mem_append.1 ht with ht | ht
  · obtain ⟨entry, he, rfl⟩ := List.mem_map.1 ht
    exact safe_of_bytes (h entry (List.mem_filter.1 he).1)
  · split at ht
    · cases ht
    · rw [List.mem_singleton.1 ht]
      simp (disch := decide) [safe_of_bytes]

theorem safe_bitText {empty : String} (hempty : Safe empty)
    (h : ∀ entry ∈ names, allSafeBytes entry.2) (value : UInt64) :
    Safe (bitText empty names value) := by
  unfold bitText
  split
  · exact hempty
  · exact safe_intercalate (safe_of_bytes rfl) (safe_bitTexts h value)

@[simp] theorem safe_unrecognized (value : UInt64) : Safe (unrecognized value) :=
  safe_append.2 ⟨safe_toString_int _, safe_of_bytes rfl⟩

theorem mem_of_lookup {α β : Type} [BEq α] [LawfulBEq α] {entries : List (α × β)} {a : α} {b : β}
    (h : entries.lookup a = some b) : (a, b) ∈ entries := by
  obtain ⟨before, after, rfl, -⟩ := List.lookup_eq_some_iff.1 h
  simp

theorem safe_valueText {names : List (UInt32 × String)}
    (h : ∀ entry ∈ names, allSafeBytes entry.2) (value : UInt64) :
    Safe (valueText names value) := by
  unfold valueText
  split
  · next name found => exact safe_of_bytes (h _ (mem_of_lookup found))
  · exact safe_unrecognized value

@[simp] theorem safe_mapFlags (value : UInt64) : Safe (mapFlags value) :=
  safe_bitText (safe_of_bytes rfl) (by decide) value

@[simp] theorem safe_protection (value : UInt64) : Safe (protection value) :=
  safe_bitText (safe_of_bytes rfl) (by decide) value

@[simp] theorem safe_messageFlags (value : UInt64) : Safe (messageFlags value) :=
  safe_bitText (safe_of_bytes rfl) (by decide) value

@[simp] theorem safe_socketState (value : UInt64) : Safe (socketState value) :=
  safe_bitText (safe_of_bytes rfl) (by decide) value

@[simp] theorem safe_family (value : UInt64) : Safe (family value) :=
  safe_valueText (by decide) value

@[simp] theorem safe_protocol (value : UInt64) : Safe (protocol value) :=
  safe_valueText (by decide) value

@[simp] theorem safe_socketType (value : UInt64) : Safe (socketType value) := by
  have names : ∀ entry ∈ socketTypeNames, allSafeBytes entry.2 := by decide
  unfold socketType
  split
  · next base found =>
    exact safe_intercalate (safe_of_bytes rfl)
      (List.forall_mem_cons.2
        ⟨safe_of_bytes (names _ (mem_of_lookup found)), safe_bitTexts (by decide) _⟩)
  · exact safe_unrecognized value

theorem safeChar_permission {letter absent : Char} (hl : SafeChar letter) (ha : SafeChar absent)
    (value bit : UInt64) : SafeChar (permission value bit letter absent) := by
  unfold permission
  split
  · exact hl
  · exact ha

@[simp] theorem safe_areaFlags (value : UInt64) : Safe (areaFlags value) := by
  have extras : ∀ entry ∈ areaExtras, allSafeBytes entry.2 := by decide
  refine safe_intercalate (safe_of_bytes rfl) (List.forall_mem_cons.2 ⟨safe_ofList.2 ?_, ?_⟩)
  · simp only [List.mem_cons, List.not_mem_nil, or_false, forall_eq_or_imp, forall_eq]
    exact ⟨safeChar_permission (by decide) (by decide) _ _,
      safeChar_permission (by decide) (by decide) _ _,
      safeChar_permission (by decide) (by decide) _ _,
      safeChar_permission (by decide) (by decide) _ _⟩
  · intro text ht
    obtain ⟨entry, he, rfl⟩ := List.mem_map.1 ht
    exact safe_of_bytes (extras entry (List.mem_filter.1 he).1)

end Flags

/-! ## Sockets -/

namespace Socket

@[simp] theorem safe_ipv4Text (octets : List UInt8) : Safe (ipv4Text octets) := by
  refine safe_intercalate (safe_of_bytes rfl) fun text ht => ?_
  obtain ⟨b, -, rfl⟩ := List.mem_map.1 ht
  exact safe_repr _

@[simp] theorem safe_joinGroups (gs : List Nat) : Safe (joinGroups gs) := by
  refine safe_intercalate (safe_of_bytes rfl) fun text ht => ?_
  obtain ⟨g, -, rfl⟩ := List.mem_map.1 ht
  exact safe_hex g

@[simp] theorem safe_ipv6Text (octets : List UInt8) : Safe (ipv6Text octets) := by
  unfold ipv6Text
  dsimp only
  split
  · simp (disch := decide) [safe_of_bytes]
  · split <;> simp (disch := decide) [safe_of_bytes]

@[simp] theorem safe_dataText (family : Nat) (data : List UInt8) : Safe (dataText family data) := by
  unfold dataText
  split
  · simp (disch := decide) [safe_of_bytes, inetText]
  split
  · simp (disch := decide) [safe_of_bytes, inet6Text]
  split
  · unfold localText
    split <;> simp (disch := decide) [safe_of_bytes]
  split <;> simp (disch := decide) [safe_of_bytes, netlinkText]

@[simp] theorem safe_addressText (bytes : List UInt8) : Safe (addressText bytes) := by
  simp (disch := decide) [safe_of_bytes, addressText]

end Socket

/-! ## Types -/

namespace CType

mutual

/-- The names of a type, of its members and of everything inside. -/
def names : CType → List String
  | scalar name _ _ => [name]
  | array name _ element _ => name :: element.names
  | struct name _ members => name :: memberNames members
  | blob name _ => [name]

/-- The names of members and of their types. -/
def memberNames : List Member → List String
  | [] => []
  | .mk name _ type :: rest => name :: (type.names ++ memberNames rest)

end

theorem safe_renderScalar (kind : ScalarKind) (size : Nat) (bytes : List UInt8) :
    Safe (renderScalar kind size bytes) := by
  unfold renderScalar
  dsimp only
  split
  · exact safe_toString_int _
  · exact safe_repr _
  · split
    · next graphic =>
      have char := safeChar_graphicChar (scalarValue bytes).toUInt8
      unfold graphicChar at char
      rw [if_pos graphic] at char
      have shown : Safe (String.ofList [Char.ofNat (scalarValue bytes).toUInt8.toNat]) :=
        safe_ofList.2 fun c hc => List.mem_singleton.1 hc ▸ char
      simp only [safe_append]
      exact ⟨⟨⟨safe_repr _, safe_of_bytes rfl⟩, shown⟩, safe_of_bytes rfl⟩
    · exact safe_repr _
  · split <;> simp (disch := decide) [safe_of_bytes]

theorem mem_untilMissing {items : List (Option String)} {text : String}
    (h : text ∈ untilMissing items) : some text ∈ items := by
  induction items with
  | nil => cases h
  | cons item rest ih =>
    cases item with
    | none => cases h
    | some first =>
      rcases List.mem_cons.1 h with rfl | h
      · exact List.mem_cons_self
      · exact List.mem_cons_of_mem _ (ih h)

theorem safe_indent (depth : Nat) : Safe (indent depth) :=
  Box.safe_replicate (by decide) _

mutual

/-- A value is shown safely whatever its bytes are, if all names in its type are safe. -/
theorem safe_renderValue : ∀ (type : CType), (∀ name ∈ type.names, Safe name) →
    ∀ (bytes : List UInt8) (depth : Nat), Safe (renderValue type bytes depth)
  | .scalar name size kind, _, bytes, depth => by
    rw [renderValue]
    exact safe_renderScalar _ _ _
  | .array name size element length, h, bytes, depth => by
    have items := safe_renderValue element fun n hn => h n (List.mem_cons_of_mem _ hn)
    rw [renderValue]
    dsimp only
    split
    · exact safe_quote _
    · simp only [safe_append]
      refine ⟨⟨safe_of_bytes rfl, safe_intercalate (safe_of_bytes rfl) fun text ht => ?_⟩,
        safe_of_bytes rfl⟩
      have shown : ∀ text ∈ untilMissing ((List.range (min length maxElements)).map fun i =>
          (slice? (bytes.take size) (i * element.size) element.size).map fun part =>
            renderValue element part (depth + 1)), Safe text := by
        intro text ht
        obtain ⟨i, -, hi⟩ := List.mem_map.1 (mem_untilMissing ht)
        obtain ⟨part, -, rfl⟩ := Option.map_eq_some_iff.1 hi
        exact items part _
      split at ht
      · rcases List.mem_append.1 ht with ht | ht
        · exact shown text ht
        · rw [List.mem_singleton.1 ht]
          exact safe_of_bytes rfl
      · exact shown text ht
  | .struct name size members, h, bytes, depth => by
    have named := h name List.mem_cons_self
    rw [renderValue]
    split
    · exact safe_append.2 ⟨named, safe_of_bytes rfl⟩
    · have inside := safe_renderMembers members fun n hn => h n (List.mem_cons_of_mem _ hn)
      simp (disch := decide) [safe_of_bytes, named, inside, safe_indent]
  | .blob name size, h, bytes, depth => by
    have named := h name List.mem_cons_self
    rw [renderValue]
    simp (disch := decide) [safe_of_bytes, named]

/-- Members are shown safely if their names and all names in their types are safe. -/
theorem safe_renderMembers : ∀ (members : List Member), (∀ name ∈ memberNames members, Safe name) →
    ∀ (bytes : List UInt8) (depth : Nat), Safe (renderMembers members bytes depth)
  | [], _, bytes, depth => by
    rw [renderMembers]
    exact safe_of_bytes rfl
  | .mk name offset type :: rest, h, bytes, depth => by
    have named := h name List.mem_cons_self
    have value := safe_renderValue type fun n hn =>
      h n (List.mem_cons_of_mem _ (List.mem_append_left _ hn))
    have later := safe_renderMembers rest fun n hn =>
      h n (List.mem_cons_of_mem _ (List.mem_append_right _ hn))
    rw [renderMembers]
    split <;>
      simp (disch := decide) [safe_of_bytes, safe_indent, named, value, later]

end

end CType

/-! ## Files and areas -/

/-- A file is shown safely whatever its path is, if what is told of it otherwise is safe. -/
theorem FileView.safe_text {view : FileView}
    (h : ∀ detail, view.detail = some detail → Safe detail) : Safe view.text := by
  have word : ∀ (inWords : UInt64 → String) (number : Option UInt64), (∀ n, Safe (inWords n)) →
      Safe (socketWord inWords number) := by
    intro inWords number hw
    cases number with
    | none => exact (safe_of_bytes rfl : Safe "unavailable")
    | some n => exact hw n
  unfold FileView.text
  split
  · simp only [safe_append]
    exact ⟨⟨⟨safe_of_bytes rfl, word _ _ Flags.safe_socketType⟩, safe_of_bytes rfl⟩,
      word _ _ Flags.safe_socketState⟩
  · split
    · exact safe_quote _
    · exact safe_of_bytes rfl
  · refine safe_behind rfl ?_
    cases detail : view.detail with
    | none => exact safe_of_bytes rfl
    | some text => exact h text detail

namespace MemoryMap

theorem safe_record {a : Area} (h : ∀ path, a.path = some path → Safe path) (pageSize : UInt64) :
    ∀ text ∈ record pageSize a, Safe text := by
  simp only [record, address, List.mem_cons, List.not_mem_nil, or_false, forall_eq_or_imp,
    forall_eq]
  refine ⟨by simp (disch := decide) [safe_of_bytes],
    by simp (disch := decide) [safe_of_bytes], by simp, by simp, by simp, ?_, ?_⟩
  · cases a.ioAddress <;> simp (disch := decide) [safe_of_bytes]
  · cases path : a.path with
    | none => exact safe_of_bytes rfl
    | some text => exact h text path

/-- The block of areas with safe paths, or of a safe reason why there are none. -/
theorem safe_block {ending : Except Failure (List Area)}
    (areas : ∀ list, ending = .ok list → ∀ a ∈ list, ∀ path, a.path = some path → Safe path)
    (failure : ∀ f, ending = .error f → Safe f.message) (pageSize : UInt64) :
    Safe (block pageSize ending) := by
  cases ending with
  | error f => exact safe_behind rfl (failure f rfl)
  | ok list =>
    refine safe_behind rfl (Box.safe_draw fun r hr cell hcell => ?_)
    obtain ⟨texts, ht, rfl⟩ := List.mem_map.1 hr
    obtain ⟨text, hx, rfl⟩ := List.mem_map.1 hcell
    apply safe_lines
    rcases List.mem_cons.1 ht with rfl | ht
    · have heads : ∀ text ∈ columns, allSafeBytes text := by decide
      exact safe_of_bytes (heads text hx)
    · obtain ⟨a, ha, rfl⟩ := List.mem_map.1 ht
      exact safe_record (areas list rfl a ha) pageSize text hx

end MemoryMap

/-! ## Calls -/

/-- All texts of all prototypes are safe. -/
theorem Prototype.safe_all {p : Prototype} (h : p ∈ Prototype.all) :
    Safe p.name ∧ Safe p.returns ∧ ∀ param ∈ p.params, Safe param.type ∧ Safe param.name := by
  have all : ∀ p ∈ Prototype.all, allSafeBytes p.name ∧ allSafeBytes p.returns ∧
      ∀ param ∈ p.params, allSafeBytes param.type ∧ allSafeBytes param.name := by
    decide +kernel
  obtain ⟨name, returns, params⟩ := all p h
  exact ⟨safe_of_bytes name, safe_of_bytes returns, fun param hp =>
    (params param hp).imp safe_of_bytes safe_of_bytes⟩

theorem safe_bareCallName (number : UInt64) : Safe (bareCallName number) := by
  have names : ∀ entry ∈ bareCallNames, allSafeBytes entry.2 := by decide +kernel
  unfold bareCallName
  cases found : bareCallNames.lookup number.toNat with
  | none => exact safe_of_bytes rfl
  | some name => exact safe_of_bytes (names _ (Flags.mem_of_lookup found))

/-- The texts of an argument. -/
structure Argument.Safe (a : Argument) : Prop where
  name : Text.Safe a.name
  type : Text.Safe a.type

namespace Argument.Safe

variable {a : Argument}

theorem displayName (h : a.Safe) : Text.Safe a.displayName := by
  unfold Argument.displayName
  split
  · exact safe_of_bytes rfl
  · exact h.name

theorem pointerType (h : a.Safe) : Text.Safe a.pointerType := by
  unfold Argument.pointerType
  cases a.direction <;> simp (disch := decide) [safe_of_bytes, Direction.annotation, h.type]

theorem prototype (h : a.Safe) : Text.Safe a.prototype := by
  unfold Argument.prototype
  split
  · exact safe_append.2 ⟨h.pointerType, h.name⟩
  · simp (disch := decide) [safe_of_bytes, h.type, h.name]

end Argument.Safe

theorem Prototype.safe_arguments {p : Prototype} (h : p ∈ Prototype.all) :
    ∀ a ∈ p.signature.arguments, a.Safe := by
  intro a ha
  obtain ⟨-, -, params⟩ := Prototype.safe_all h
  obtain ⟨i, hi, rfl⟩ := List.mem_mapIdx.1 ha
  obtain ⟨type, name⟩ := params p.params[i] (List.getElem_mem hi)
  exact ⟨name, type⟩

/-- The header of a call with a signature. -/
theorem Prototype.safe_header {p : Prototype} (h : p ∈ Prototype.all) :
    Safe (p.signature.name ++ ": " ++ p.signature.prototype) := by
  obtain ⟨name, returns, -⟩ := Prototype.safe_all h
  have arguments := Prototype.safe_arguments h
  unfold Signature.prototype
  simp only [safe_append]
  refine ⟨⟨name, safe_of_bytes rfl⟩,
    ⟨⟨⟨⟨returns, safe_of_bytes rfl⟩, name⟩, safe_of_bytes rfl⟩, ?_⟩, safe_of_bytes rfl⟩
  split
  · exact safe_of_bytes rfl
  · refine safe_intercalate (safe_of_bytes rfl) fun text ht => ?_
    obtain ⟨a, ha, rfl⟩ := List.mem_map.1 ht
    exact (arguments a ha).prototype

end SyscallDecode
