/-
Slices of a value. The text of a value is made from slices of its bytes: the bytes of the type, the word
of a scalar, the characters before a zero, and what elements and members take. Here each slice is cut
only where it lies inside, and there is no text otherwise. There always is one, and it is the same.
-/
import SyscallDecode.Proofs.CType.WordBuffer

namespace SyscallDecode

open SyscallDecode.Text

variable {bytes : List UInt8} {start length : Nat}

theorem slice?_of_le (inside : start + length ≤ bytes.length) :
    slice? bytes start length = some ((bytes.drop start).take length) :=
  if_pos inside

/-- The first bytes, if there are so many. -/
def front? (bytes : List UInt8) (length : Nat) : Option (List UInt8) :=
  slice? bytes 0 length

theorem front?_of_le (inside : length ≤ bytes.length) :
    front? bytes length = some (bytes.take length) := by
  unfold front?
  rw [slice?_of_le (by omega), List.drop_zero]

/-- No more than there are can always be cut. -/
theorem front?_min (bytes : List UInt8) (length : Nat) :
    front? bytes (min length bytes.length) = some (bytes.take length) := by
  rw [front?_of_le (Nat.min_le_right _ _), ← List.take_eq_take_min]

theorem beforeZero_eq_take (bytes : List UInt8) :
    beforeZero bytes = bytes.take (bytes.findIdx (· == 0)) := by
  unfold beforeZero
  rw [List.takeWhile_eq_take_findIdx_not]
  congr 2
  funext b
  rw [Bool.eq_iff_iff]
  simp

namespace CType

/-- The items of a list up to the first missing one. -/
def untilNone {α : Type} : List (Option α) → List α
  | some item :: rest => item :: untilNone rest
  | _ => []

theorem untilMissing_map_eq {α : Type} (f : α → String) (items : List (Option α)) :
    untilMissing (items.map (Option.map f)) = (untilNone items).map f := by
  induction items with
  | nil => rfl
  | cons item items ih =>
    cases item with
    | none => rfl
    | some item => exact congrArg (f item :: ·) ih

/-- The bytes of the elements that are shown. An element that is not there ends them. -/
def elementParts (bytes : List UInt8) (element : CType) (shown : Nat) : List (List UInt8) :=
  untilNone ((List.range shown).map fun i => slice? bytes (i * element.size) element.size)

mutual

/-- The text of a value, where no slice may leave the bytes that it is cut from. -/
def slicedValue : CType → List UInt8 → Nat → Option String
  | scalar _ size kind, bytes, _ => do
    let bytes ← front? bytes (min size bytes.length)
    let word ← front? bytes (min 8 bytes.length)
    return renderScalar kind size word
  | array _ size element length, bytes, depth => do
    let bytes ← front? bytes (min size bytes.length)
    if element.isChar then
      let text ← front? bytes (bytes.findIdx (· == 0))
      return quote (decodeLossy text)
    else
      let shown := min length maxElements
      let items ← (elementParts bytes element shown).mapM fun part =>
        slicedValue element part (depth + 1)
      let items := if shown < length then items ++ ["..."] else items
      return "[" ++ ", ".intercalate items ++ "]"
  | struct name size members, bytes, depth => do
    let bytes ← front? bytes (min size bytes.length)
    if maxDepth ≤ depth then return name ++ " \x7b...\x7d"
    else
      let lines ← slicedMembers members bytes depth
      return name ++ " \x7b" ++ lines ++ "\n" ++ indent depth ++ "\x7d"
  | blob name size, bytes, _ => do
    let _ ← front? bytes (min size bytes.length)
    return name ++ " <" ++ toString size ++ " bytes>"

/-- The lines of members in the same way. -/
def slicedMembers : List Member → List UInt8 → Nat → Option String
  | [], _, _ => some ""
  | .mk name offset type :: rest, bytes, depth => do
    let value ←
      match slice? bytes offset type.size with
      | some part => slicedValue type part (depth + 1)
      | none => some "<out of bounds>"
    let lines ← slicedMembers rest bytes depth
    return "\n" ++ indent (depth + 1) ++ name ++ ": " ++ value ++ lines

end

mutual

/-- Every slice lies inside, whatever the type and the bytes are. -/
theorem slicedValue_eq : ∀ (type : CType) (bytes : List UInt8) (depth : Nat),
    slicedValue type bytes depth = some (renderValue type bytes depth)
  | .scalar name size kind, bytes, depth => by
    have word : renderScalar kind size ((bytes.take size).take 8) =
        renderScalar kind size (bytes.take size) := by
      unfold renderScalar
      rw [scalarValue_take]
    rw [slicedValue, renderValue, front?_min, ← word]
    show (front? (bytes.take size) (min 8 (bytes.take size).length)).bind _ = _
    rw [front?_min]
    rfl
  | .array name size element length, bytes, depth => by
    have items (parts : List (List UInt8)) :
        (parts.mapM fun part => slicedValue element part (depth + 1)) =
          some (parts.map fun part => renderValue element part (depth + 1)) := by
      have each : (fun part => slicedValue element part (depth + 1)) =
          fun part => some (renderValue element part (depth + 1)) :=
        funext fun part => slicedValue_eq element part (depth + 1)
      rw [each]
      exact List.mapM_pure
    have shown (shown : Nat) :
        untilMissing ((List.range shown).map fun i =>
          (slice? (bytes.take size) (i * element.size) element.size).map fun part =>
            renderValue element part (depth + 1)) =
        (elementParts (bytes.take size) element shown).map fun part =>
          renderValue element part (depth + 1) := by
      unfold elementParts
      rw [← untilMissing_map_eq, List.map_map]
      rfl
    rw [slicedValue, renderValue, front?_min]
    show (if element.isChar = true then _ else _) = _
    dsimp only
    split
    · rw [front?_of_le List.findIdx_le_length, beforeZero_eq_take]
      rfl
    · rw [items, shown]
      rfl
  | .struct name size members, bytes, depth => by
    have lines := slicedMembers_eq members (bytes.take size) depth
    rw [slicedValue, renderValue, front?_min]
    show (if maxDepth ≤ depth then _ else _) = _
    split
    · rfl
    · rw [lines]
      rfl
  | .blob name size, bytes, depth => by
    rw [slicedValue, renderValue, front?_min]
    rfl

theorem slicedMembers_eq : ∀ (members : List Member) (bytes : List UInt8) (depth : Nat),
    slicedMembers members bytes depth = some (renderMembers members bytes depth)
  | [], _, _ => rfl
  | .mk name offset type :: rest, bytes, depth => by
    have later := slicedMembers_eq rest bytes depth
    rw [slicedMembers, renderMembers, later]
    cases slice? bytes offset type.size with
    | some part =>
      have value := slicedValue_eq type part (depth + 1)
      dsimp only
      rw [value]
      rfl
    | none => rfl

end

end CType

end SyscallDecode
