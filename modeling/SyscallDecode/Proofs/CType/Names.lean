/-
Type names. The normal form of a name is told by its words: qualifiers are dropped, the others are set
with one blank between them, and none before a star. How a name is spaced and qualified makes no
difference, and a name in normal form is its own.
-/
import SyscallDecode.CType.Catalogue
import SyscallDecode.Proofs.Text.Blank

namespace SyscallDecode.CType

open SyscallDecode.Text

variable {cs rest w : List Char} {ws vs : List (List Char)}

/-! ## Words -/

/-- The words that say something about the layout. -/
def layoutWords (ws : List (List Char)) : List (List Char) :=
  ws.filter fun w => w ∉ qualifiers.map String.toList

/-- A word as it stands behind others: after a blank, or directly if it begins with a star. -/
def behind (w : List Char) : List Char :=
  if w.head? = some '*' then w else ' ' :: w

/-- Words set one behind the other. -/
def setWords : List (List Char) → List Char
  | [] => []
  | w :: ws => w ++ ws.flatMap behind

theorem isQualifier_iff : isQualifier w = true ↔ w ∈ qualifiers.map String.toList := by
  simp [isQualifier]

theorem filter_isQualifier (ws : List (List Char)) :
    (ws.filter fun w => !isQualifier w) = layoutWords ws := by
  refine List.filter_congr fun w _ => ?_
  rw [Bool.eq_iff_iff, Bool.not_eq_true', ← Bool.not_eq_true, isQualifier_iff, decide_eq_true_eq]

theorem mem_layoutWords : w ∈ layoutWords ws ↔ w ∈ ws ∧ w ∉ qualifiers.map String.toList := by
  simp [layoutWords]

/-- A word with a star in it is no qualifier. -/
theorem not_qualifier_of_star (star : '*' ∈ w) : w ∉ qualifiers.map String.toList := by
  have plain : ∀ q ∈ qualifiers.map String.toList, '*' ∉ q := by
    decide
  exact fun h => plain w h star

/-! ## Stars -/

/-- Words are left as they are: only blanks are ever dropped. -/
theorem closeStars_word (h : ∀ c ∈ w, ¬ IsWhite c) (rest : List Char) :
    closeStars (w ++ rest) = w ++ closeStars rest := by
  have blank : IsWhite ' ' := by decide
  induction w with
  | nil => rfl
  | cons c w ih =>
    rw [List.forall_mem_cons] at h
    have other : c ≠ ' ' := fun same => h.1 (same ▸ blank)
    rw [List.cons_append, closeStars, ih h.2, List.cons_append]
    grind

theorem closeStars_blank (cs : List Char) :
    closeStars (' ' :: cs) =
      if cs.head? = some '*' then closeStars cs else ' ' :: closeStars cs := by
  cases cs with
  | nil => rfl
  | cons c cs =>
    by_cases star : c = '*'
    · subst star
      simp [closeStars]
    · simp [closeStars, star]

/-- Joined words of which the stars are closed are words set one behind the other. -/
theorem closeStars_joinWords (h : ∀ w ∈ ws, IsWord w) :
    closeStars (joinWords ws) = setWords ws := by
  induction ws with
  | nil => rfl
  | cons w ws ih =>
    obtain ⟨word, words⟩ := List.forall_mem_cons.1 h
    cases ws with
    | nil =>
      have alone := closeStars_word word.2 []
      simpa [joinWords, setWords, closeStars] using alone
    | cons v ws =>
      -- the text of the other words begins as the first of them does
      obtain ⟨c, v, rfl⟩ := List.exists_cons_of_ne_nil (words v List.mem_cons_self).1
      have first : (joinWords ((c :: v) :: ws)).head? = some c := by
        cases ws <;> rfl
      rw [joinWords, closeStars_word word.2, closeStars_blank, first, ih words]
      · by_cases star : c = '*'
        · simp [setWords, behind, star]
        · simp [setWords, behind, star]
      · exact List.cons_ne_nil _ _

/-! ## The normal form -/

/-- Words of a name in normal form: none is a qualifier, and none but the first begins with a star. -/
structure Normal (ws : List (List Char)) : Prop where
  word : ∀ w ∈ ws, IsWord w
  layout : ∀ w ∈ ws, w ∉ qualifiers.map String.toList
  starless : ∀ w ∈ ws.tail, w.head? ≠ some '*'

theorem Normal.layoutWords (h : Normal ws) : layoutWords ws = ws :=
  List.filter_eq_self.2 fun w hw => decide_eq_true (h.layout w hw)

theorem hasWords_behind (h : ∀ w ∈ ws, IsWord w) (starless : ∀ w ∈ ws, w.head? ≠ some '*') :
    HasWords (ws.flatMap behind) ws ∧ ∀ c ∈ (ws.flatMap behind).head?, IsWhite c := by
  have blank : AllWhite [' '] := by decide
  induction ws with
  | nil =>
    have none : AllWhite [] := nofun
    exact ⟨.blank none, nofun⟩
  | cons w ws ih =>
    rw [List.forall_mem_cons] at h starless
    obtain ⟨later, border⟩ := ih h.2 starless.2
    have apart : (w :: ws).flatMap behind = [' '] ++ w ++ ws.flatMap behind := by
      simp [behind, starless.1]
    rw [apart]
    refine ⟨.word blank h.1 border later, ?_⟩
    simpa using blank ' ' List.mem_cons_self

/-- The words of a name in normal form are told by its blanks. -/
theorem Normal.hasWords (h : Normal ws) : HasWords (setWords ws) ws := by
  have none : AllWhite [] := nofun
  cases ws with
  | nil => exact .blank none
  | cons w ws =>
    obtain ⟨word, words⟩ := List.forall_mem_cons.1 h.word
    obtain ⟨later, border⟩ := hasWords_behind words h.starless
    exact .word none word border later

/-- What stars add to a word is no white space, and does not make it a qualifier. -/
theorem glued {stars : List Char} (word : IsWord w) (layout : w ∉ qualifiers.map String.toList)
    (plain : ∀ c ∈ stars, ¬ IsWhite c) (star : stars = [] ∨ '*' ∈ stars) :
    IsWord (w ++ stars) ∧ w ++ stars ∉ qualifiers.map String.toList := by
  refine ⟨⟨by simp [word.1], List.forall_mem_append.2 ⟨word.2, plain⟩⟩, ?_⟩
  rcases star with rfl | star
  · rwa [List.append_nil]
  · exact not_qualifier_of_star (List.mem_append_right w star)

/-- Words that begin with a star go to the word before them. -/
theorem exists_starless (h : ∀ w ∈ ws, IsWord w)
    (layout : ∀ w ∈ ws, w ∉ qualifiers.map String.toList) :
    ∃ (stars : List Char) (vs : List (List Char)),
      ws.flatMap behind = stars ++ vs.flatMap behind ∧
      (∀ c ∈ stars, ¬ IsWhite c) ∧ (stars = [] ∨ '*' ∈ stars) ∧
      ∀ v ∈ vs, IsWord v ∧ v ∉ qualifiers.map String.toList ∧ v.head? ≠ some '*' := by
  induction ws with
  | nil => exact ⟨[], [], rfl, nofun, .inl rfl, nofun⟩
  | cons w ws ih =>
    rw [List.forall_mem_cons] at h layout
    obtain ⟨stars, vs, text, plain, star, later⟩ := ih h.2 layout.2
    by_cases first : w.head? = some '*'
    · refine ⟨w ++ stars, vs, ?_, List.forall_mem_append.2 ⟨h.1.2, plain⟩, .inr ?_, later⟩
      · simp [behind, first, text]
      · exact List.mem_append_left _ (List.mem_of_mem_head? first)
    · -- this word has the stars behind it, and nothing is left for the one before
      obtain ⟨word, layout⟩ := glued h.1 layout.1 plain star
      have head : (w ++ stars).head? ≠ some '*' := by
        rwa [List.head?_append_of_ne_nil _ h.1.1]
      refine ⟨[], (w ++ stars) :: vs, ?_, nofun, .inl rfl, ?_⟩
      · simp only [List.flatMap_cons, behind, first, head, text, if_false, List.nil_append,
          List.cons_append, List.append_assoc]
      · exact List.forall_mem_cons.2 ⟨⟨word, layout, head⟩, later⟩

theorem exists_normal (h : ∀ w ∈ ws, IsWord w)
    (layout : ∀ w ∈ ws, w ∉ qualifiers.map String.toList) :
    ∃ vs, Normal vs ∧ setWords ws = setWords vs := by
  cases ws with
  | nil => exact ⟨[], ⟨nofun, nofun, nofun⟩, rfl⟩
  | cons w ws =>
    rw [List.forall_mem_cons] at h layout
    obtain ⟨stars, vs, text, plain, star, later⟩ := exists_starless h.2 layout.2
    obtain ⟨word, layout⟩ := glued h.1 layout.1 plain star
    refine ⟨(w ++ stars) :: vs, ⟨?_, ?_, fun v hv => (later v hv).2.2⟩, ?_⟩
    · exact List.forall_mem_cons.2 ⟨word, fun v hv => (later v hv).1⟩
    · exact List.forall_mem_cons.2 ⟨layout, fun v hv => (later v hv).2.1⟩
    · simp [setWords, text]

/-! ## Normalizing -/

theorem isWord_layoutWords {text : List Char} (h : HasWords text ws) :
    ∀ w ∈ layoutWords ws, IsWord w :=
  fun w hw => h.isWord w (mem_layoutWords.1 hw).1

/-- The normal form of a name is what its words are set to. -/
theorem toList_normalizeName {s : String} (h : HasWords s.toList ws) :
    (normalizeName s).toList = setWords (layoutWords ws) := by
  unfold normalizeName normalizeChars
  rw [String.toList_ofList, hasWords_iff.1 h, filter_isQualifier,
    closeStars_joinWords (isWord_layoutWords h)]

/-- Names that say the same about the layout have one normal form. -/
theorem normalizeName_congr {s s' : String} (h : HasWords s.toList ws)
    (h' : HasWords s'.toList vs) (same : layoutWords ws = layoutWords vs) :
    normalizeName s = normalizeName s' := by
  apply String.toList_inj.1
  rw [toList_normalizeName h, toList_normalizeName h', same]

theorem normalizeName_idem (s : String) : normalizeName (normalizeName s) = normalizeName s := by
  have own := hasWords_words s.toList
  have text := toList_normalizeName own
  obtain ⟨vs, normal, set⟩ :=
    exists_normal (isWord_layoutWords own) fun w hw => (mem_layoutWords.1 hw).2
  -- the normal form has words of which none is dropped and none is glued to another
  have told : HasWords (normalizeName s).toList vs := by
    rw [text, set]
    exact normal.hasWords
  apply String.toList_inj.1
  rw [toList_normalizeName told, normal.layoutWords, text, set]

/-! ## Qualifiers -/

theorem hasWords_qualifier {q : String} (h : q ∈ qualifiers) :
    HasWords q.toList [q.toList] ∧ layoutWords [q.toList] = [] := by
  have each : ∀ q ∈ qualifiers, words q.toList = [q.toList] := by
    decide
  refine ⟨hasWords_iff.2 (each q h), ?_⟩
  simpa [layoutWords] using ⟨q, h, rfl⟩

/-- A qualifier that stands apart from the words around it is dropped. -/
theorem normalizeName_insert {q front mid back gap gap' : String} (h : q ∈ qualifiers)
    (white : AllWhite mid.toList ∧ AllWhite gap.toList ∧ AllWhite gap'.toList)
    (before : gap = "" → front = "") (behind : gap' = "" → back = "")
    (between : mid = "" → front = "" ∨ back = "") :
    normalizeName (front ++ gap ++ q ++ gap' ++ back) = normalizeName (front ++ mid ++ back) := by
  obtain ⟨word, dropped⟩ := hasWords_qualifier h
  have first := hasWords_words front.toList
  have last := hasWords_words back.toList
  have plain : HasWords (front ++ mid ++ back).toList
      (words front.toList ++ words back.toList) := by
    rw [String.toList_append, String.toList_append]
    refine first.join white.1 (fun none => ?_) last
    simpa using between (String.toList_eq_nil_iff.1 none)
  have qualified : HasWords (front ++ gap ++ q ++ gap' ++ back).toList
      (words front.toList ++ [q.toList] ++ words back.toList) := by
    have joined : HasWords (front.toList ++ gap.toList ++ q.toList)
        (words front.toList ++ [q.toList]) := by
      refine first.join white.2.1 (fun none => .inl ?_) word
      simpa using before (String.toList_eq_nil_iff.1 none)
    simp only [String.toList_append]
    refine joined.join white.2.2 (fun none => .inr ?_) last
    simpa using behind (String.toList_eq_nil_iff.1 none)
  -- the words are the same but for the qualifier, which says nothing about the layout
  refine normalizeName_congr qualified plain ?_
  have parts : ∀ us vs, layoutWords (us ++ vs) = layoutWords us ++ layoutWords vs :=
    fun us vs => List.filter_append us vs
  rw [parts, parts, parts, dropped, List.append_nil]

/-! ## The catalogue -/

theorem name_of_findNormal {name : String} {type : CType} (h : findNormal name = some type) :
    type.name = name := by
  unfold findNormal at h
  split at h
  · obtain rfl := Option.some.inj h
    rfl
  · simp only [Option.orElse_eq_orElse, Option.orElse_eq_or, Option.or_eq_some_iff] at h
    rcases h with scalar | ⟨-, struct | ⟨-, blob⟩⟩
    · obtain ⟨entry, -, rfl⟩ := Option.map_eq_some_iff.1 scalar
      rfl
    · obtain ⟨layout, -, rfl⟩ := Option.map_eq_some_iff.1 struct
      rfl
    · obtain ⟨size, -, rfl⟩ := Option.map_eq_some_iff.1 blob
      rfl

/-- The normal form of a type name is told by its words without the qualifiers. It is its own normal
form, is the same for every spacing and with any qualifier put in as a word, and finds the same type
in the catalogue as the name, which carries it. -/
theorem normalizeName_by_words (s : String) :
    (∃ ws, HasWords s.toList ws ∧ (normalizeName s).toList = setWords (layoutWords ws)) ∧
    normalizeName (normalizeName s) = normalizeName s ∧
    (∀ s' ws ws', HasWords s.toList ws → HasWords s'.toList ws' →
      layoutWords ws = layoutWords ws' → normalizeName s' = normalizeName s) ∧
    (∀ q ∈ qualifiers, ∀ front mid back gap gap' : String, s = front ++ mid ++ back →
      AllWhite mid.toList ∧ AllWhite gap.toList ∧ AllWhite gap'.toList →
      (gap = "" → front = "") → (gap' = "" → back = "") → (mid = "" → front = "" ∨ back = "") →
      normalizeName (front ++ gap ++ q ++ gap' ++ back) = normalizeName s) ∧
    builtin? s = builtin? (normalizeName s) ∧
    ∀ type, builtin? s = some type → type.name = normalizeName s := by
  have told := hasWords_words s.toList
  refine ⟨⟨_, told, toList_normalizeName told⟩, normalizeName_idem s, ?_, ?_, ?_, ?_⟩
  · intro s' ws ws' h h' same
    exact (normalizeName_congr h h' same).symm
  · rintro q hq front mid back gap gap' rfl white before behind between
    exact normalizeName_insert hq white before behind between
  · unfold builtin?
    rw [normalizeName_idem]
  · exact fun type found => name_of_findNormal found

/-- A qualifier between a character and its star, behind white space of another kind. -/
theorem normalizeName_user_pointer :
    normalizeName "char\u3000__user *" = normalizeName "char *" ∧
    (builtin? "char *").map CType.name = some (normalizeName "char *") := by
  obtain ⟨-, -, -, insert, -, named⟩ := normalizeName_by_words "char *"
  constructor
  · exact insert "__user" (by decide) "char" " " "*" "\u3000" " " (by decide) (by decide)
      (by decide) (by decide) (by decide)
  · have found : builtin? "char *" = some (.scalar "char*" 8 .pointer) := rfl
    rw [found, Option.map_some, named _ found]

end SyscallDecode.CType
