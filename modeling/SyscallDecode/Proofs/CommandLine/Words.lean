/-
The words of a command line as they are typed, and what a line says of a register: the texts behind
the option of that register, in the next word or after an equals sign.
-/
import SyscallDecode.CommandLine.Options
import SyscallDecode.CommandLine.Word

namespace SyscallDecode.CommandLine

open SyscallDecode.Text

/-! ## Long options -/

/-- A long option as it is typed, with the value attached to it. -/
def optionWord (name : String) (value : Option String) : String :=
  "--" ++ name ++ value.elim "" ("=" ++ ·)

theorem toList_optionWord (name : String) (value : Option String) :
    (optionWord name value).toList =
      '-' :: '-' :: (name.toList ++ value.elim [] fun text => '=' :: text.toList) := by
  unfold optionWord
  cases value <;> simp

/-- A word with the shape of a long option is that option as it is typed. -/
theorem eq_optionWord {word name : String} {value : Option String}
    (h : Word.ofText word = .long name value) : word = optionWord name value := by
  apply String.toList_inj.1
  rw [toList_optionWord]
  unfold Word.ofText at h
  split at h
  · next rest shape =>
    split at h
    · cases h
    rw [shape]
    -- the name ends before the first equals sign, and that sign is not part of the value
    have cut := List.takeWhile_append_dropWhile (p := (decide <| · ≠ '=')) (l := rest)
    have equals := List.head?_dropWhile_not (decide <| · ≠ '=') rest
    unfold Word.ofLong at h
    dsimp only at h
    split at h
    · next behind =>
      rw [behind] at cut
      cases h
      rw [String.toList_ofList, Option.elim_none, cut]
    · next c text behind =>
      rw [behind] at cut equals
      cases h
      simp only [List.head?_cons, ne_eq, decide_not, Bool.not_eq_false', decide_eq_true_eq] at equals
      subst equals
      rw [String.toList_ofList, Option.elim_some, String.toList_ofList, cut]
  · split at h <;> cases h
  · cases h

theorem ofLong_of_simple {name : List Char} (simple : '=' ∉ name) (value : Option String) :
    Word.ofLong (name ++ value.elim [] fun text => '=' :: text.toList) =
      .long (String.ofList name) value := by
  have plain : ∀ c ∈ name, (decide <| c ≠ '=') = true :=
    fun c hc => decide_eq_true fun equals => simple (equals ▸ hc)
  unfold Word.ofLong
  dsimp only
  rw [List.takeWhile_append_of_pos plain, List.dropWhile_append_of_pos plain]
  cases value <;> simp

/-- A long option is read off the word as it is typed. -/
theorem ofText_optionWord {name : String} (named : name ≠ "") (simple : '=' ∉ name.toList)
    (value : Option String) : Word.ofText (optionWord name value) = .long name value := by
  have some : name.toList ≠ [] := fun empty => named (String.toList_eq_nil_iff.1 empty)
  unfold Word.ofText
  rw [toList_optionWord]
  split
  · next rest shape =>
    obtain rfl := (List.cons.inj (List.cons.inj shape).2).2
    rw [if_neg (by simp [some]), ofLong_of_simple simple, String.ofList_toList]
  · next rest other shape => exact absurd (List.cons.inj shape).2.symm (other _)
  · next other _ => exact absurd rfl (other _)

/-- A cluster of letters has one. -/
theorem letters_ne_nil {word : String} {letters : List Char}
    (h : Word.ofText word = .letters letters) : letters ≠ [] := by
  unfold Word.ofText at h
  split at h
  · unfold Word.ofLong at h
    split at h
    · cases h
    · dsimp only at h
      split at h <;> cases h
  · split at h
    · cases h
    · next some =>
      cases h
      simpa using some
  · cases h

/-- A plain word is taken as it was written. -/
theorem eq_of_plain {word text : String} (h : Word.ofText word = .plain text) : text = word := by
  unfold Word.ofText at h
  split at h
  · unfold Word.ofLong at h
    split at h
    · cases h
    · dsimp only at h
      split at h <;> cases h
  · split at h <;> cases h
    rfl
  · cases h
    rfl

/-! ## What a line says of a register -/

/-- The long name of the option of a register. -/
def registerName : Fin argumentRegisters → String
  | 0 => "rdi"
  | 1 => "rsi"
  | 2 => "rdx"
  | 3 => "r10"
  | 4 => "r8"
  | 5 => "r9"

/-- The option of a register as it is typed, with the value attached to it. -/
def registerWord (i : Fin argumentRegisters) (value : Option String) : String :=
  optionWord (registerName i) value

theorem ofText_registerWord (i : Fin argumentRegisters) (value : Option String) :
    Word.ofText (registerWord i value) = .long (registerName i) value := by
  have named : ∀ i, registerName i ≠ "" ∧ '=' ∉ (registerName i).toList := by decide
  exact ofText_optionWord (named i).1 (named i).2 value

/-- A line has a text for a register: behind its option, in the next word or after an equals sign. -/
inductive Spells (words : List String) (i : Fin argumentRegisters) (text : String) : Prop
  | apart (h : [registerWord i none, text] <:+: words)
  | attached (h : registerWord i (some text) ∈ words)

/-- What a line has for a register: no text at all, or a value that every text for it spells. -/
def Written (words : List String) (i : Fin argumentRegisters) : Option UInt64 → Prop
  | none => ∀ text, ¬ Spells words i text
  | some value =>
    (∃ text, Spells words i text) ∧ ∀ text, Spells words i text → readHex text = .ok value

/-- What a line has for a register is one thing. -/
theorem Written.unique {words : List String} {i : Fin argumentRegisters}
    {value value' : Option UInt64} (h : Written words i value)
    (h' : Written words i value') : value = value' := by
  cases value with
  | none =>
    cases value' with
    | none => rfl
    | some _ =>
      obtain ⟨text, spells⟩ := h'.1
      exact absurd spells (h text)
  | some value =>
    obtain ⟨text, spells⟩ := h.1
    cases value' with
    | none => exact absurd spells (h' text)
    | some value' =>
      have same : Except.ok value = .ok value' := (h.2 text spells).symm.trans (h'.2 text spells)
      rw [Except.ok.inj same]

variable {i : Fin argumentRegisters}

/-- The text that a word has for a register, by itself or with the next word. -/
def textsAt (i : Fin argumentRegisters) (word : Word) (rest : List String) : List String :=
  match word with
  | .long name value =>
    if name = registerName i then value.elim rest.head?.toList ([·]) else []
  | _ => []

/-- The texts for a register in a list of words, in order. -/
def texts (i : Fin argumentRegisters) : List String → List String
  | [] => []
  | word :: rest => textsAt i (Word.ofText word) rest ++ texts i rest

theorem mem_textsAt {word text : String} {rest : List String} :
    text ∈ textsAt i (Word.ofText word) rest ↔
      (word = registerWord i none ∧ rest.head? = some text) ∨ word = registerWord i (some text) := by
  constructor
  · intro h
    unfold textsAt at h
    split at h
    · next name value shape =>
      split at h
      · next named =>
        subst named
        cases value with
        | none => exact .inl ⟨eq_optionWord shape, by simpa [eq_comm] using h⟩
        | some value =>
          right
          rw [eq_optionWord shape, List.mem_singleton.1 h]
          rfl
      · cases h
    · cases h
  · rintro (⟨rfl, head⟩ | rfl) <;> rw [ofText_registerWord] <;> simp [textsAt, *]

/-- A line has the texts that are found in it word by word. -/
theorem mem_texts {words : List String} {text : String} :
    text ∈ texts i words ↔ Spells words i text := by
  induction words with
  | nil =>
    constructor
    · intro h; cases h
    · rintro (apart | attached)
      · cases List.infix_nil.1 apart
      · cases attached
  | cons word rest ih =>
    -- a text of the line is one of its first word, or one of the words behind that
    have spells : Spells (word :: rest) i text ↔
        ((word = registerWord i none ∧ rest.head? = some text) ∨
          word = registerWord i (some text)) ∨ Spells rest i text := by
      constructor
      · rintro (apart | attached)
        · rcases List.infix_cons_iff.1 apart with here | later
          · obtain ⟨rfl, next⟩ := List.cons_prefix_cons.1 here
            exact .inl (.inl ⟨rfl, List.singleton_prefix_iff_head?_eq_some.1 next⟩)
          · exact .inr (.apart later)
        · rcases List.mem_cons.1 attached with rfl | later
          · exact .inl (.inr rfl)
          · exact .inr (.attached later)
      · rintro ((⟨rfl, next⟩ | rfl) | (apart | attached))
        · have here := List.singleton_prefix_iff_head?_eq_some.2 next
          exact .apart (List.infix_cons_iff.2 (.inl (List.cons_prefix_cons.2 ⟨rfl, here⟩)))
        · exact .attached List.mem_cons_self
        · exact .apart (List.infix_cons_iff.2 (.inr apart))
        · exact .attached (List.mem_cons_of_mem _ attached)
    rw [texts, List.mem_append, mem_textsAt, ih, spells]

end SyscallDecode.CommandLine
