/-
Texts made of parts. Where the parts do not have the mark that stands between them, each of them can be
told from the whole.
-/
import Mathlib.Data.List.Basic

namespace SyscallDecode.Text

theorem intercalate_append {α : Type} (sep : List α) {as bs : List (List α)} (ha : as ≠ [])
    (hb : bs ≠ []) :
    sep.intercalate (as ++ bs) = sep.intercalate as ++ sep ++ sep.intercalate bs := by
  induction as with
  | nil => exact absurd rfl ha
  | cons a as ih =>
    cases as with
    | nil =>
      obtain ⟨b, bs, rfl⟩ := List.exists_cons_of_ne_nil hb
      rw [List.singleton_append, List.intercalate_cons_cons, List.intercalate_singleton]
    | cons a' as =>
      rw [List.cons_append, List.cons_append, List.intercalate_cons_cons, ← List.cons_append,
        ih (List.cons_ne_nil _ _), List.intercalate_cons_cons]
      simp only [List.append_assoc]

/-- Parts without the character between them can be told from the whole. -/
theorem intercalate_inj {c : Char} {as bs : List (List Char)} (ha : ∀ part ∈ as, c ∉ part)
    (hb : ∀ part ∈ bs, c ∉ part) (some : as ≠ []) (some' : bs ≠ [])
    (h : [c].intercalate as = [c].intercalate bs) : as = bs := by
  rw [← List.splitOn_intercalate c ha some, h, List.splitOn_intercalate c hb some']

theorem append_cons_inj {c : Char} {front front' rest rest' : List Char} (h : c ∉ front)
    (h' : c ∉ front') (same : front ++ c :: rest = front' ++ c :: rest') :
    front = front' ∧ rest = rest' := by
  induction front generalizing front' with
  | nil =>
    cases front' with
    | nil => exact ⟨rfl, (List.cons.inj same).2⟩
    | cons d front' => exact absurd (List.cons.inj same).1 fun mark => h' (mark ▸ List.mem_cons_self)
  | cons d front ih =>
    cases front' with
    | nil => exact absurd (List.cons.inj same).1 fun mark => h (mark ▸ List.mem_cons_self)
    | cons d' front' =>
      obtain ⟨rfl, tails⟩ := List.cons.inj same
      obtain ⟨rfl, rests⟩ := ih (fun hc => h (List.mem_cons_of_mem _ hc))
        (fun hc => h' (List.mem_cons_of_mem _ hc)) tails
      exact ⟨rfl, rests⟩

/-- What stands before a mark and behind it, where the first character of the mark does not come
before it. -/
theorem append_mark_inj {c : Char} {cs : List Char} {mark : String} (first : mark.toList = c :: cs)
    {front front' rest rest' : String} (h : c ∉ front.toList) (h' : c ∉ front'.toList)
    (same : front ++ (mark ++ rest) = front' ++ (mark ++ rest')) : front = front' ∧ rest = rest' := by
  have chars := congrArg String.toList same
  simp only [String.toList_append, first, List.cons_append] at chars
  obtain ⟨fronts, rests⟩ := append_cons_inj h h' chars
  exact ⟨String.toList_inj.1 fronts, String.toList_inj.1 (List.append_cancel_left rests)⟩

end SyscallDecode.Text
