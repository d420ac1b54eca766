/-
Types inside types. A value one level further inside is shown as by itself, each line behind the first
moved to the right, as long as none of its structs comes to lie too deep to be shown. In the types of
the catalogue none does, and all members lie inside their structs.
-/
import SyscallDecode.Proofs.Terminal.Words
import SyscallDecode.Proofs.Text.Lines

namespace SyscallDecode.CType

open SyscallDecode.Text

/-! ## Parts of types -/

/-- A type lies so many levels inside another one: as the element of an array, or as that of a member
of a struct. -/
inductive Part : Nat → CType → CType → Prop
  | whole {type : CType} : Part 0 type type
  | element {level : Nat} {part element : CType} {name : String} {size length : Nat} :
      Part level part element → Part (level + 1) part (.array name size element length)
  | member {level : Nat} {part : CType} {name : String} {size : Nat} {members : List Member}
      {m : Member} :
      m ∈ members → Part level part m.type → Part (level + 1) part (.struct name size members)

/-- Inside so many others no struct of the type lies too deep to be shown. -/
def ShownWhole (depth : Nat) (type : CType) : Prop :=
  ∀ level name size members, Part level (.struct name size members) type → depth + level < maxDepth

theorem ShownWhole.here {depth size : Nat} {name : String} {members : List Member}
    (h : ShownWhole depth (.struct name size members)) : depth < maxDepth :=
  h 0 _ _ _ .whole

theorem ShownWhole.element {depth size length : Nat} {name : String} {element : CType}
    (h : ShownWhole depth (.array name size element length)) : ShownWhole (depth + 1) element := by
  intro level name size members inside
  have deep := h _ _ _ _ (.element inside)
  omega

theorem ShownWhole.member {depth size : Nat} {name : String} {members : List Member}
    (h : ShownWhole depth (.struct name size members)) {m : Member} (hm : m ∈ members) :
    ShownWhole (depth + 1) m.type := by
  intro level name size members inside
  have deep := h _ _ _ _ (.member hm inside)
  omega

/-! ## One level further inside -/

/-- What is put in front of a line one level further inside. -/
def step : String := "  "

theorem indentRest_feed (depth : Nat) :
    indentRest step ("\n" ++ indent depth) = "\n" ++ indent (depth + 1) := by
  have blanks : '\n' ∉ (indent depth).toList := by
    unfold indent
    rw [String.toList_ofList]
    intro feed
    exact absurd (List.eq_of_mem_replicate feed) (by decide)
  have margin : step ++ indent depth = indent (depth + 1) := by
    unfold indent step
    rw [Nat.mul_succ, Nat.add_comm, ← List.replicate_append_replicate, String.ofList_append]
    rfl
  rw [indentRest_append, indentRest_of_single blanks, ← margin, ← String.append_assoc]
  rfl

theorem newline_notMem_renderScalar (kind : ScalarKind) (size : Nat) (bytes : List UInt8) :
    '\n' ∉ (renderScalar kind size bytes).toList := by
  have graphic : ∀ n ≤ 0x7E, 0x20 ≤ n → Char.ofNat n ≠ '\n' := by decide
  unfold renderScalar
  dsimp only
  cases kind with
  | signed => exact notMem_toString_int (by decide) _
  | unsigned => exact notMem_toString (by decide) _
  | char =>
    dsimp only
    split
    · next shown =>
      simp only [isGraphic, Bool.and_eq_true, decide_eq_true_iff, UInt8.le_iff_toNat_le] at shown
      simp only [String.toList_append, String.toList_ofList, List.mem_append, not_or,
        List.mem_singleton]
      exact ⟨⟨⟨notMem_toString (by decide) _, by decide⟩, (graphic _ shown.2 shown.1).symm⟩, by decide⟩
    · exact notMem_toString (by decide) _
  | pointer =>
    dsimp only
    split
    · decide
    · exact notMem_hexMarked (by decide) _

theorem untilMissing_map (f : String → String) (items : List (Option String)) :
    untilMissing (items.map (Option.map f)) = (untilMissing items).map f := by
  induction items with
  | nil => rfl
  | cons item items ih =>
    cases item with
    | none => rfl
    | some item => exact congrArg (f item :: ·) ih

/-- The elements that are shown move as each of them does. -/
theorem untilMissing_parts {element : CType} {shallow deep : List UInt8 → String}
    (moved : ∀ part, deep part = indentRest step (shallow part)) {bytes : List UInt8}
    {indices : List Nat} :
    untilMissing (indices.map fun i =>
        (slice? bytes (i * element.size) element.size).map deep) =
      (untilMissing (indices.map fun i =>
        (slice? bytes (i * element.size) element.size).map shallow)).map (indentRest step) := by
  rw [← untilMissing_map, List.map_map, funext moved]
  congr 1
  refine List.map_congr_left fun i _ => ?_
  rw [Function.comp_apply, Option.map_map]
  rfl

theorem indentRest_list (items : List String) :
    indentRest step ("[" ++ ", ".intercalate items ++ "]") =
      "[" ++ ", ".intercalate (items.map (indentRest step)) ++ "]" := by
  rw [indentRest_append, indentRest_append, indentRest_intercalate]
  rfl

mutual

/-- A value is shown alike one level further inside, but for the margin. -/
theorem renderValue_succ : ∀ (type : CType), (∀ name ∈ type.names, '\n' ∉ name.toList) →
    ∀ (bytes : List UInt8) (depth : Nat), ShownWhole (depth + 1) type →
      renderValue type bytes (depth + 1) = indentRest step (renderValue type bytes depth)
  | .scalar name size kind, _, bytes, depth, _ => by
    rw [renderValue, renderValue, indentRest_of_single (newline_notMem_renderScalar _ _ _)]
  | .array name size element length, single, bytes, depth, whole => by
    have inside := renderValue_succ element fun n hn => single n (List.mem_cons_of_mem _ hn)
    rw [renderValue, renderValue]
    dsimp only
    split
    · rw [indentRest_of_single (newline_notMem_quote _)]
    · rw [untilMissing_parts fun part => inside part (depth + 1) whole.element]
      split
      · rw [indentRest_list, List.map_append]
        rfl
      · rw [indentRest_list]
  | .struct name size members, single, bytes, depth, whole => by
    have named := single name List.mem_cons_self
    have here := whole.here
    rw [renderValue, renderValue, if_neg (by omega), if_neg (by omega)]
    have inside := renderMembers_succ members (fun n hn => single n (List.mem_cons_of_mem _ hn))
      (bytes.take size) depth fun m hm => whole.member hm
    have opening : indentRest step (name ++ " \x7b") = name ++ " \x7b" := by
      rw [indentRest_append, indentRest_of_single named]
      rfl
    have closing : indentRest step "\x7d" = "\x7d" := rfl
    -- the line feed goes with the blanks behind it
    rw [inside, @String.append_assoc _ "\n", @String.append_assoc _ "\n", indentRest_append,
      indentRest_append, indentRest_append, opening, indentRest_feed, closing]
  | .blob name size, single, bytes, depth, _ => by
    have named := single name List.mem_cons_self
    rw [renderValue, renderValue, indentRest_of_single]
    simp only [String.toList_append, List.mem_append, not_or]
    exact ⟨⟨⟨named, by decide⟩, notMem_toString (by decide) _⟩, by decide⟩

theorem renderMembers_succ : ∀ (members : List Member),
    (∀ name ∈ memberNames members, '\n' ∉ name.toList) → ∀ (bytes : List UInt8) (depth : Nat),
      (∀ m ∈ members, ShownWhole (depth + 2) m.type) →
        renderMembers members bytes (depth + 1) = indentRest step (renderMembers members bytes depth)
  | [], _, _, _, _ => rfl
  | .mk name offset type :: rest, single, bytes, depth, whole => by
    have named := single name List.mem_cons_self
    have value := renderValue_succ type fun n hn =>
      single n (List.mem_cons_of_mem _ (List.mem_append_left _ hn))
    have later := renderMembers_succ rest
      (fun n hn => single n (List.mem_cons_of_mem _ (List.mem_append_right _ hn))) bytes depth
      fun m hm => whole m (List.mem_cons_of_mem _ hm)
    have here := whole _ List.mem_cons_self
    have front : indentRest step (name ++ ": ") = name ++ ": " := by
      rw [indentRest_append, indentRest_of_single named]
      rfl
    rw [renderMembers, renderMembers, later]
    rw [@String.append_assoc _ name, @String.append_assoc _ name, indentRest_append,
      indentRest_append, indentRest_append, indentRest_feed, front]
    cases slice? bytes offset type.size with
    | some part =>
      dsimp only
      rw [value part (depth + 1) here]
    | none =>
      have bounds : indentRest step "<out of bounds>" = "<out of bounds>" := rfl
      dsimp only
      rw [bounds]

end

/-! ## The catalogue -/

mutual

/-- All structs of the type lie at less than so many levels, and all members inside their structs. -/
def fits : CType → Nat → Bool
  | .scalar _ _ _, _ => true
  | .array _ _ element _, levels => element.fits (levels - 1)
  | .struct _ size members, levels => levels != 0 && membersFit members size (levels - 1)
  | .blob _ _, _ => true

/-- The members lie inside so many bytes, and their types fit in turn. -/
def membersFit : List Member → Nat → Nat → Bool
  | [], _, _ => true
  | .mk _ offset type :: rest, size, levels =>
    decide (offset + type.size ≤ size) && type.fits levels && membersFit rest size levels

end

theorem membersFit_iff {members : List Member} {size levels : Nat} :
    membersFit members size levels = true ↔
      ∀ m ∈ members, m.offset + m.type.size ≤ size ∧ m.type.fits levels = true := by
  induction members with
  | nil => simp [membersFit]
  | cons m rest ih =>
    obtain ⟨name, offset, type⟩ := m
    rw [membersFit, Bool.and_eq_true, Bool.and_eq_true, decide_eq_true_iff, ih,
      List.forall_mem_cons]
    rfl

/-- What is told of all structs of a type that fits. -/
theorem fits_struct {type part : CType} {levels level size : Nat} {name : String}
    {members : List Member} (h : type.fits levels = true) (inside : Part level part type)
    (struct : part = .struct name size members) :
    level < levels ∧ ∀ m ∈ members, m.offset + m.type.size ≤ size := by
  induction inside generalizing levels with
  | whole =>
    subst struct
    rw [fits, Bool.and_eq_true, bne_iff_ne] at h
    exact ⟨Nat.pos_of_ne_zero h.1, fun m hm => (membersFit_iff.1 h.2 m hm).1⟩
  | element _ ih =>
    rw [fits] at h
    obtain ⟨level, members⟩ := ih h struct
    exact ⟨by omega, members⟩
  | member hm _ ih =>
    rw [fits, Bool.and_eq_true] at h
    obtain ⟨level, members⟩ := ih (membersFit_iff.1 h.2 _ hm).2 struct
    exact ⟨by omega, members⟩

theorem shownWhole_of_fits {type : CType} (levels : Nat) {depth : Nat}
    (h : type.fits levels = true) (deep : depth + levels ≤ maxDepth) : ShownWhole depth type := by
  intro level name size members inside
  obtain ⟨few, -⟩ := fits_struct h inside rfl
  omega

theorem fits_findNormal {name : String} {type : CType} (found : findNormal name = some type) :
    type.fits maxDepth = true := by
  have structs : ∀ entry ∈ structLayouts,
      membersFit entry.2.2 entry.2.1 (maxDepth - 1) = true := by
    decide +kernel
  unfold findNormal at found
  split at found
  · cases found
    rfl
  simp only [Option.orElse_eq_orElse, Option.orElse_eq_or, Option.or_eq_some_iff] at found
  obtain scalar | ⟨-, struct | ⟨-, blob⟩⟩ := found
  · obtain ⟨entry, -, rfl⟩ := Option.map_eq_some_iff.1 scalar
    rfl
  · obtain ⟨layout, found, rfl⟩ := Option.map_eq_some_iff.1 struct
    rw [fits, Bool.and_eq_true]
    exact ⟨rfl, structs _ (Flags.mem_of_lookup found)⟩
  · obtain ⟨size, -, rfl⟩ := Option.map_eq_some_iff.1 blob
    rfl

/-- In a type of the catalogue all structs are shown with their members, and all members lie inside
their structs. -/
theorem builtin?_struct {name inner : String} {type : CType} {level size : Nat}
    {members : List Member} (found : builtin? name = some type)
    (inside : Part level (.struct inner size members) type) :
    level < maxDepth ∧ ∀ m ∈ members, m.offset + m.type.size ≤ size :=
  fits_struct (fits_findNormal found) inside rfl

end SyscallDecode.CType
