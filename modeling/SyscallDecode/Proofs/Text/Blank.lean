/-
White space around a text and between its words. Trimming takes away all of it at the two ends and
nothing else; the words of a text are what stands between the white space, whatever kind and amount of
it there is.
-/
import Mathlib.Data.List.DropRight
import SyscallDecode.Text.Blank

namespace SyscallDecode.Text

/-! ## White space -/

/-- The code points of white space, one by one. -/
def whiteSpace : List Nat :=
  [0x9, 0xA, 0xB, 0xC, 0xD, 0x20, 0x85, 0xA0, 0x1680, 0x2000, 0x2001, 0x2002, 0x2003, 0x2004,
   0x2005, 0x2006, 0x2007, 0x2008, 0x2009, 0x200A, 0x2028, 0x2029, 0x202F, 0x205F, 0x3000]

/-- The character is white space. -/
def IsWhite (c : Char) : Prop :=
  c.toNat ∈ whiteSpace

instance (c : Char) : Decidable (IsWhite c) :=
  inferInstanceAs (Decidable (_ ∈ _))

/-- All characters are white space. -/
def AllWhite (cs : List Char) : Prop :=
  ∀ c ∈ cs, IsWhite c

instance (cs : List Char) : Decidable (AllWhite cs) :=
  List.decidableBAll IsWhite cs

variable {c : Char} {cs text core gap rest w : List Char} {ws : List (List Char)}

theorem isBlank_iff : isBlank c = true ↔ IsWhite c := by
  unfold isBlank IsWhite whiteSpace
  simp only [Bool.or_eq_true, Bool.and_eq_true, decide_eq_true_eq, beq_iff_eq, List.mem_cons,
    List.not_mem_nil, or_false]
  omega

theorem isBlank_eq_false_iff : isBlank c = false ↔ ¬ IsWhite c := by
  rw [← isBlank_iff, Bool.not_eq_true]

/-! ## Trimming -/

/-- What is left of a text without the white space at its two ends. -/
structure Strips (text core : List Char) : Prop where
  ends : ∃ lead trail, text = lead ++ core ++ trail ∧ AllWhite lead ∧ AllWhite trail
  head : ∀ c ∈ core.head?, ¬ IsWhite c
  last : ∀ c ∈ core.getLast?, ¬ IsWhite c

theorem dropWhile_of_head (h : ∀ c ∈ cs.head?, ¬ IsWhite c) : cs.dropWhile isBlank = cs := by
  cases cs with
  | nil => rfl
  | cons c cs =>
    have first := isBlank_eq_false_iff.2 (h c rfl)
    exact List.dropWhile_cons_of_neg (by simp [first])

theorem dropWhile_append_white (h : AllWhite gap) (rest : List Char) :
    (gap ++ rest).dropWhile isBlank = rest.dropWhile isBlank :=
  List.dropWhile_append_of_pos fun c hc => isBlank_iff.2 (h c hc)

theorem strips_trim (text : List Char) : Strips text (trim text) := by
  have core : trim text = (text.dropWhile isBlank).rdropWhile isBlank := rfl
  have back : trim text ++ (text.dropWhile isBlank).rtakeWhile isBlank =
      text.dropWhile isBlank := by
    rw [core, List.rdropWhile_append_rtakeWhile]
  refine ⟨⟨text.takeWhile isBlank, (text.dropWhile isBlank).rtakeWhile isBlank, ?_, ?_, ?_⟩, ?_, ?_⟩
  · rw [List.append_assoc, back, List.takeWhile_append_dropWhile]
  · exact fun c hc => isBlank_iff.1 (List.mem_takeWhile_imp hc)
  · exact fun c hc => isBlank_iff.1 (List.mem_rtakeWhile_imp hc)
  · -- the core begins as the front ends, if anything is left of it
    intro c hc
    have first : (text.dropWhile isBlank).head? = some c := by
      rw [← back, List.head?_append, Option.mem_def.1 hc, Option.some_or]
    have plain := List.head?_dropWhile_not isBlank text
    rw [first] at plain
    exact isBlank_eq_false_iff.1 plain
  · intro c hc
    obtain ⟨some, rfl⟩ := List.mem_getLast?_eq_getLast hc
    have plain := List.rdropWhile_last_not isBlank (text.dropWhile isBlank) some
    rwa [← isBlank_iff]

theorem Strips.eq_trim (h : Strips text core) : core = trim text := by
  obtain ⟨⟨lead, trail, rfl, before, behind⟩, head, last⟩ := h
  have back : AllWhite trail.reverse := fun c hc => behind c (List.mem_reverse.1 hc)
  unfold trim
  rw [List.append_assoc, dropWhile_append_white before]
  cases core with
  | nil =>
    rw [List.nil_append, List.dropWhile_eq_nil_iff.2 fun c hc => isBlank_iff.2 (behind c hc)]
    rfl
  | cons c cs =>
    have front : (c :: cs ++ trail).dropWhile isBlank = c :: cs ++ trail := dropWhile_of_head head
    rw [front, List.reverse_append, dropWhile_append_white back, dropWhile_of_head,
      List.reverse_reverse]
    rwa [List.head?_reverse]

/-- Trimming leaves what is left between the ends. -/
theorem strips_iff : Strips text core ↔ core = trim text :=
  ⟨Strips.eq_trim, fun same => same ▸ strips_trim text⟩

/-! ## Words -/

/-- At least one character, and no white space. -/
def IsWord (w : List Char) : Prop :=
  w ≠ [] ∧ ∀ c ∈ w, ¬ IsWhite c

/-- The text has these words, in order. White space may stand before and behind every word, and it
stands between any two. -/
inductive HasWords : List Char → List (List Char) → Prop
  | blank {gap : List Char} : AllWhite gap → HasWords gap []
  | word {gap w rest : List Char} {ws : List (List Char)} : AllWhite gap → IsWord w →
      (∀ c ∈ rest.head?, IsWhite c) → HasWords rest ws → HasWords (gap ++ w ++ rest) (w :: ws)

theorem words_cons_white (h : IsWhite c) (cs : List Char) : words (c :: cs) = words cs := by
  simp [words, headWord, isBlank_iff.2 h, consWord]

theorem words_append_white (h : AllWhite gap) (rest : List Char) :
    words (gap ++ rest) = words rest := by
  induction gap with
  | nil => rfl
  | cons c gap ih =>
    rw [List.cons_append, words_cons_white (h c List.mem_cons_self),
      ih fun d hd => h d (List.mem_cons_of_mem _ hd)]

/-- Behind a word its rest begins with white space, and has the other words. -/
theorem headWord_append (h : ∀ c ∈ w, ¬ IsWhite c) (border : ∀ c ∈ rest.head?, IsWhite c) :
    headWord (w ++ rest) = (w, words rest) := by
  induction w with
  | nil =>
    cases rest with
    | nil => rfl
    | cons c rest => simp [headWord, words, isBlank_iff.2 (border c rfl), consWord]
  | cons c w ih =>
    have first := isBlank_eq_false_iff.2 (h c List.mem_cons_self)
    simp [headWord, first, ih fun d hd => h d (List.mem_cons_of_mem _ hd)]

theorem words_append_word (h : IsWord w) (border : ∀ c ∈ rest.head?, IsWhite c) :
    words (w ++ rest) = w :: words rest := by
  unfold words
  rw [headWord_append h.2 border]
  simp [consWord, h.1, words]

theorem HasWords.cons_white (white : IsWhite c) (h : HasWords cs ws) : HasWords (c :: cs) ws := by
  cases h with
  | blank all => exact .blank (List.forall_mem_cons.2 ⟨white, all⟩)
  | @word gap w rest ws before word border rest =>
    rw [← List.cons_append, ← List.cons_append]
    exact .word (List.forall_mem_cons.2 ⟨white, before⟩) word border rest

theorem hasWords_consWord (h : ∀ c ∈ w, ¬ IsWhite c) (border : ∀ c ∈ rest.head?, IsWhite c)
    (later : HasWords rest ws) : HasWords (w ++ rest) (consWord w ws) := by
  cases w with
  | nil => exact later
  | cons c w =>
    have none : AllWhite [] := nofun
    exact .word none ⟨List.cons_ne_nil c w, h⟩ border later

/-- The head of a text is a word, or part of one, and what is behind it has the other words. -/
theorem headWord_spec (cs : List Char) :
    ∃ rest, cs = (headWord cs).1 ++ rest ∧ (∀ c ∈ (headWord cs).1, ¬ IsWhite c) ∧
      (∀ c ∈ rest.head?, IsWhite c) ∧ HasWords rest (headWord cs).2 := by
  induction cs with
  | nil => exact ⟨[], rfl, nofun, nofun, .blank nofun⟩
  | cons c cs ih =>
    obtain ⟨rest, split, plain, border, later⟩ := ih
    by_cases white : IsWhite c
    · refine ⟨c :: cs, ?_, ?_, ?_, ?_⟩
      · simp [headWord, isBlank_iff.2 white]
      · simp [headWord, isBlank_iff.2 white]
      · simpa using white
      · have joined := hasWords_consWord plain border later
        rw [← split] at joined
        simpa [headWord, isBlank_iff.2 white] using joined.cons_white white
    · have first := isBlank_eq_false_iff.2 white
      refine ⟨rest, ?_, ?_, border, ?_⟩
      · simpa [headWord, first] using split
      · simpa [headWord, first] using ⟨white, plain⟩
      · simpa [headWord, first] using later

/-- The words of a text are found, and no others. -/
theorem hasWords_iff : HasWords cs ws ↔ words cs = ws := by
  constructor
  · intro h
    induction h with
    | blank all =>
      have none := words_append_white all []
      rwa [List.append_nil] at none
    | word before word border _ ih =>
      rw [List.append_assoc, words_append_white before, words_append_word word border, ih]
  · rintro rfl
    obtain ⟨rest, split, plain, border, later⟩ := headWord_spec cs
    have joined := hasWords_consWord plain border later
    rwa [← split] at joined

theorem hasWords_words (cs : List Char) : HasWords cs (words cs) :=
  hasWords_iff.2 rfl

theorem HasWords.isWord (h : HasWords cs ws) : ∀ w ∈ ws, IsWord w := by
  induction h with
  | blank _ => nofun
  | word _ word _ _ ih => exact List.forall_mem_cons.2 ⟨word, ih⟩

theorem HasWords.append_white (white : AllWhite gap) (h : HasWords cs ws) :
    HasWords (gap ++ cs) ws := by
  rw [hasWords_iff, words_append_white white]
  exact hasWords_iff.1 h

/-- White space between two texts keeps their words apart. -/
theorem HasWords.append {cs' : List Char} {ws' : List (List Char)} (h : HasWords cs ws)
    (white : AllWhite gap) (some : gap ≠ []) (h' : HasWords cs' ws') :
    HasWords (cs ++ gap ++ cs') (ws ++ ws') := by
  induction h with
  | blank all =>
    rw [List.append_assoc]
    exact (h'.append_white white).append_white all
  | @word before w rest ws all word border _ ih =>
    obtain ⟨c, gap, rfl⟩ := List.exists_cons_of_ne_nil some
    simp only [List.append_assoc, List.cons_append] at ih ⊢
    rw [← List.append_assoc]
    refine .word all word ?_ ih
    cases rest with
    | nil => simpa using white c List.mem_cons_self
    | cons d rest => exact border

/-- An empty text needs no white space to be kept apart. -/
theorem HasWords.join {cs' : List Char} {ws' : List (List Char)} (h : HasWords cs ws)
    (white : AllWhite gap) (apart : gap = [] → cs = [] ∨ cs' = []) (h' : HasWords cs' ws') :
    HasWords (cs ++ gap ++ cs') (ws ++ ws') := by
  by_cases none : gap = []
  · subst none
    rcases apart rfl with rfl | rfl
    · obtain rfl : [] = ws := hasWords_iff.1 h
      simpa using h'
    · obtain rfl : [] = ws' := hasWords_iff.1 h'
      simpa using h
  · exact h.append white none h'

end SyscallDecode.Text
