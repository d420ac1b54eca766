/-
What decoding writes by itself. Types, numbers, flags and the marks between them have none of the
words that tell of a failure, and no word comes about where they meet what was read. So a text has one
exactly where a string or a name in it has.
-/
import SyscallDecode.Proofs.Decode.Lengths
import SyscallDecode.Proofs.Decode.StringArray
import SyscallDecode.Proofs.Report.FailureWords
import SyscallDecode.Proofs.Terminal.Words

namespace SyscallDecode

open SyscallDecode.Text

/-! ## Types and names -/

/-- The type of an argument as it is shown. -/
def Argument.shownType (a : Argument) : String :=
  if a.isPointer then a.pointerType else a.type

theorem Prototype.apart_types : ∀ p ∈ Prototype.all, ∀ a ∈ p.signature.arguments,
    Apart (a.shownType ++ ": ") := by
  decide +kernel

/-- An argument of which the type and the name have no word, nor a part of one where they meet
something else. -/
structure Argument.Silent (a : Argument) : Prop where
  type : ¬ Speaks (a.shownType ++ ": ")
  name : a.role = .stringArray → 'o' ∉ a.displayName.toList

theorem Signature.silent {number : UInt64} {s : Signature} (h : Signature.find? number = some s)
    {a : Argument} (ha : a ∈ s.arguments) : a.Silent where
  type := by
    obtain ⟨p, hp, -, rfl⟩ := Signature.find?_eq_some h
    exact not_speaks_of_apart (Prototype.apart_types p hp a ha)
  name := by
    intro role
    have plain : ∀ name ∈ ["argv", "envp"], 'o' ∉ name.toList ∧ name.isEmpty = false := by decide
    have named : a.name ∈ ["argv", "envp"] := by
      simpa using Signature.name_of_stringArray h ha role
    obtain ⟨letter, some⟩ := plain a.name named
    unfold Argument.displayName
    rwa [some]

/-! ## Flags -/

namespace Flags

variable {names : BitNames}

theorem notMem_bitTexts (h : ∀ entry ∈ names, 't' ∉ entry.2.toList) (value : UInt64) :
    ∀ text ∈ bitTexts names value, 't' ∉ text.toList := by
  intro text ht
  rcases List.mem_append.1 ht with ht | ht
  · obtain ⟨entry, he, rfl⟩ := List.mem_map.1 ht
    exact h entry (List.mem_filter.1 he).1
  · split at ht
    · cases ht
    · rw [List.mem_singleton.1 ht, String.toList_append, List.mem_append, not_or]
      exact ⟨by decide, notMem_hexMarked (by decide) _⟩

theorem notMem_bar {texts : List String} (h : ∀ text ∈ texts, 't' ∉ text.toList) :
    't' ∉ ("|".intercalate texts).toList := by
  intro hc
  rw [String.toList_intercalate] at hc
  rcases mem_intercalate hc with bar | ⟨part, hp, hc⟩
  · exact absurd bar (by decide)
  · obtain ⟨text, ht, rfl⟩ := List.mem_map.1 hp
    exact h text ht hc

theorem notMem_bitText {empty : String} (none : 't' ∉ empty.toList)
    (h : ∀ entry ∈ names, 't' ∉ entry.2.toList) (value : UInt64) :
    't' ∉ (bitText empty names value).toList := by
  unfold bitText
  split
  · exact none
  · exact notMem_bar (notMem_bitTexts h value)

theorem notMem_unrecognized (value : UInt64) : 't' ∉ (unrecognized value).toList := by
  unfold unrecognized
  rw [String.toList_append, List.mem_append, not_or]
  exact ⟨notMem_toString_int (by decide) _, by decide⟩

/-- A name for a value has no word if no name of the table has this letter. -/
theorem not_speaks_valueText {c : Char} (common : c ∈ commonLetters)
    {names : List (UInt32 × String)} (h : ∀ entry ∈ names, c ∉ entry.2.toList) (value : UInt64) :
    ¬ Speaks (valueText names value) := by
  unfold valueText
  split
  · next name found => exact not_speaks_of_notMem common (h _ (mem_of_lookup found))
  · exact not_speaks_of_notMem (by decide) (notMem_unrecognized value)

theorem notMem_socketType (value : UInt64) : 't' ∉ (socketType value).toList := by
  have names : ∀ entry ∈ socketTypeNames, 't' ∉ entry.2.toList := by decide
  unfold socketType
  split
  · next base found =>
    refine notMem_bar (List.forall_mem_cons.2 ⟨names _ (mem_of_lookup found), ?_⟩)
    exact notMem_bitTexts (by decide) _
  · exact notMem_unrecognized value

theorem notMem_socketState (value : UInt64) : 't' ∉ (socketState value).toList :=
  notMem_bitText (by decide) (by decide) value

end Flags

theorem Decode.not_speaks_choiceText (choice : SocketChoice) (value : UInt64) :
    ¬ Speaks (choiceText choice value) := by
  cases choice with
  | family => exact Flags.not_speaks_valueText (c := 't') (by decide) (by decide) value
  | type => exact not_speaks_of_notMem (by decide) (Flags.notMem_socketType value)
  | protocol => exact Flags.not_speaks_valueText (c := 'o') (by decide) (by decide) value

/-! ## Files -/

namespace FileView

/-- A name that a process gave to the object. Sockets have none. -/
def Names (view : FileView) (name : String) : Prop :=
  match view.kind with
  | .regular => view.path = some name
  | .unknown => view.detail = some name
  | .socket => False

theorem notMem_socketWord {inWords : UInt64 → String} (h : ∀ value, 't' ∉ (inWords value).toList)
    (value : Option UInt64) : 't' ∉ (socketWord inWords value).toList := by
  cases value with
  | none =>
    have word : 't' ∉ "unavailable".toList := by decide
    exact word
  | some value => exact h value

theorem speaks_text (view : FileView) :
    Speaks view.text ↔ ∃ name, view.Names name ∧ Speaks name := by
  unfold text Names
  cases view.kind with
  | socket =>
    have silent : ¬ Speaks "(socket) -> type: " := by decide
    have words : ¬ Speaks (socketWord Flags.socketType view.socketType ++ " flags: " ++
        socketWord Flags.socketState view.socketState) := by
      refine not_speaks_of_notMem (c := 't') (by decide) ?_
      simp only [String.toList_append, List.mem_append, not_or]
      exact ⟨⟨notMem_socketWord Flags.notMem_socketType _, by decide⟩,
        notMem_socketWord Flags.notMem_socketState _⟩
    dsimp only
    rw [String.append_assoc, String.append_assoc, speaks_append_of_closed (by decide),
      ← String.append_assoc]
    simp [silent, words]
  | regular =>
    have silent : ¬ Speaks "no filename" := by decide
    cases view.path with
    | none => simp [silent]
    | some path => simp [speaks_quote]
  | unknown =>
    have mark : ¬ Speaks "(unknown) " := by decide
    have silent : ¬ Speaks "unclassified file object" := by decide
    dsimp only
    rw [speaks_append_of_closed (by decide), or_iff_right mark]
    cases view.detail with
    | none => simp [silent]
    | some detail => simp

end FileView

/-! ## Numbers and marks -/

namespace Text

variable {head mark : String}

/-- A number between a head and a mark has no part in a word. -/
theorem speaks_behind_number (silent : ¬ Speaks head) (closed : Closed head)
    (some : mark.toList ≠ []) (plain : 'o' ∉ mark.toList) (ends : Closed mark) (n : Nat)
    (text : String) : Speaks (head ++ hexMarked n ++ (mark ++ text)) ↔ Speaks text := by
  have number : ¬ Speaks (hexMarked n ++ mark) := by
    refine not_speaks_of_notMem (c := 'o') (by decide) ?_
    rw [String.toList_append, List.mem_append, not_or]
    exact ⟨notMem_hexMarked (by decide) n, plain⟩
  have parts : head ++ hexMarked n ++ (mark ++ text) = head ++ (hexMarked n ++ mark ++ text) := by
    simp only [String.append_assoc]
  rw [parts, speaks_append_of_closed closed, or_iff_right silent,
    speaks_append_of_closed (closed_append some ends), or_iff_right number]

theorem not_speaks_number (silent : ¬ Speaks head) (closed : Closed head) (n : Nat) :
    ¬ Speaks (head ++ hexMarked n) := by
  rw [speaks_append_of_closed closed, or_iff_right silent]
  exact not_speaks_of_notMem (c := 'o') (by decide) (notMem_hexMarked (by decide) n)

/-- Words in brackets. -/
theorem not_speaks_bracketed {text : String} (h : ¬ Speaks text) : ¬ Speaks (text ++ ")") := by
  rw [speaks_append_of_fresh (by decide), or_iff_left (by decide)]
  exact h

end Text

end SyscallDecode
