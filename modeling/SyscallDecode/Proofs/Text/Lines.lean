/-
Texts of one line and of several. Numerals and quoted texts have no line feed, and a margin put behind
every line feed of a text goes to the parts that the text is made of.
-/
import Mathlib.Tactic.SplitIfs
import SyscallDecode.Proofs.Text.Numeral
import SyscallDecode.Text.Lines
import SyscallDecode.Text.Quoted

namespace SyscallDecode.Text

/-! ## Texts of one line -/

/-- A character stands for itself in quotes, or has a short escape or one by its number. -/
theorem escapeChar_cases (c : Char) :
    escapeChar c = [c] ∨ (∃ d ∈ ['0', 't', 'r', 'n', '\\', '"'], escapeChar c = ['\\', d]) ∨
      escapeChar c = ['\\', 'u', '\x7b'] ++ Nat.toDigits 16 c.toNat ++ ['\x7d'] := by
  unfold escapeChar
  split_ifs <;> simp

/-- A new line is written as an escape in quotes. -/
theorem newline_notMem_escapeChar (c : Char) : '\n' ∉ escapeChar c := by
  by_cases feed : c = '\n'
  · subst feed
    decide
  have short : '\n' ∉ ['0', 't', 'r', 'n', '\\', '"'] := by decide
  obtain same | ⟨d, hd, two⟩ | long := escapeChar_cases c
  · rw [same, List.mem_singleton]
    exact fun h => feed h.symm
  · rw [two, List.mem_cons, List.mem_singleton]
    rintro (mark | rfl)
    · exact absurd mark (by decide)
    · exact short hd
  · rw [long, List.mem_append, List.mem_append, not_or, not_or]
    exact ⟨⟨by decide, notMem_toDigits (by decide) (by decide) (by decide) _⟩, by decide⟩

theorem newline_notMem_quote (text : String) : '\n' ∉ (quote text).toList := by
  unfold quote
  rw [String.toList_ofList, List.mem_append, List.mem_append, not_or, not_or, List.mem_flatMap]
  exact ⟨⟨by decide, fun ⟨c, _, feed⟩ => newline_notMem_escapeChar c feed⟩, by decide⟩

/-! ## Margins -/

variable {margin text : String}

theorem indentRest_append (margin a b : String) :
    indentRest margin (a ++ b) = indentRest margin a ++ indentRest margin b := by
  unfold indentRest
  rw [String.toList_append, List.flatMap_append, String.ofList_append]

/-- A single line has nothing to indent. -/
theorem indentRest_of_single (single : '\n' ∉ text.toList) : indentRest margin text = text := by
  have same {cs : List Char} (single : '\n' ∉ cs) :
      (cs.flatMap fun c => if c = '\n' then '\n' :: margin.toList else [c]) = cs := by
    induction cs with
    | nil => rfl
    | cons c cs ih =>
      rw [List.mem_cons, not_or] at single
      rw [List.flatMap_cons, if_neg (Ne.symm single.1), ih single.2, List.singleton_append]
  unfold indentRest
  rw [same single, String.ofList_toList]

theorem indentRest_intercalate (margin sep : String) (items : List String) :
    indentRest margin (sep.intercalate items) =
      (indentRest margin sep).intercalate (items.map (indentRest margin)) := by
  induction items with
  | nil => rfl
  | cons item items ih =>
    cases items with
    | nil => simp
    | cons item' items =>
      simp only [List.map_cons, String.intercalate_cons_cons, indentRest_append] at ih ⊢
      rw [ih]

end SyscallDecode.Text
