/-
The words that color a report. A line gets the color of failures when one of two words stands in its
text, whoever put it there. A text that is put together has one of them exactly where one of its parts
does, as long as no word can begin in one part and go on in the next; and a text that lacks a letter
of both has none.
-/
import Mathlib.Data.List.Chain
import Mathlib.Tactic.SplitIfs
import SyscallDecode.Proofs.Text.Dump
import SyscallDecode.Proofs.Text.Lines
import SyscallDecode.Report.Style

namespace SyscallDecode

namespace Text

/-- The words that are taken to tell of a failure. -/
def failureWords : List String :=
  ["exception", "cannot "]

/-- One of the words stands in the text. -/
def Speaks (text : String) : Prop :=
  ∃ word ∈ failureWords, word.toList <:+: text.toList

theorem speaks_iff {text : String} :
    Speaks text ↔ (contains text "exception" || contains text "cannot ") = true := by
  unfold Speaks failureWords contains
  simp only [List.mem_cons, List.not_mem_nil, or_false, exists_eq_or_imp, exists_eq_left,
    Bool.or_eq_true, occursIn_iff]

instance : DecidablePred Speaks := fun _ => decidable_of_iff _ speaks_iff.symm

variable {a b : String} {c : Char}

theorem word_ne_nil : ∀ word ∈ failureWords, word.toList ≠ [] := by
  decide

/-! ## Letters -/

/-- Letters that both words have. -/
def commonLetters : List Char :=
  ['c', 'n', 'o', 't']

theorem commonLetters_subset : ∀ word ∈ failureWords, commonLetters ⊆ word.toList := by
  decide

theorem not_speaks_of_notMem (common : c ∈ commonLetters) (h : c ∉ a.toList) : ¬ Speaks a :=
  fun ⟨word, hw, part⟩ => h (part.subset (commonLetters_subset word hw common))

/-- Common letters that are no hexadecimal digits. -/
def plainLetters : List Char :=
  ['n', 'o', 't']

theorem foreign_of_plain (plain : c ∈ plainLetters) : Foreign c := by
  have letters : c = 'n' ∨ c = 'o' ∨ c = 't' := by simpa [plainLetters] using plain
  rcases letters with rfl | rfl | rfl <;> decide

theorem notMem_hexDump (plain : c ∈ plainLetters) (bytes : List UInt8) :
    c ∉ (hexDump bytes).toList := by
  have blank : c ≠ ' ' := by
    rintro rfl
    exact absurd plain (by decide)
  exact notMem_hexDump_of_foreign blank (foreign_of_plain plain) bytes

/-! ## Texts put together -/

/-- No word that begins in the text goes on behind it. -/
def Closed (text : String) : Prop :=
  ∀ c ∈ text.toList.getLast?, ∀ word ∈ failureWords, c ∉ word.toList.dropLast

/-- No word goes on at the beginning of the text. -/
def Fresh (text : String) : Prop :=
  ∀ c ∈ text.toList.head?, ∀ word ∈ failureWords, c ∉ word.toList.tail

-- named, since what is said of all characters might else be decided by trying each of them
instance : DecidablePred Closed := fun text => Option.decidableForallMem text.toList.getLast?

instance : DecidablePred Fresh := fun text => Option.decidableForallMem text.toList.head?

theorem speaks_append_left (h : Speaks a) (b : String) : Speaks (a ++ b) := by
  obtain ⟨word, hw, part⟩ := h
  refine ⟨word, hw, ?_⟩
  rw [String.toList_append]
  exact part.trans (List.prefix_append _ _).isInfix

theorem speaks_append_right (a : String) (h : Speaks b) : Speaks (a ++ b) := by
  obtain ⟨word, hw, part⟩ := h
  refine ⟨word, hw, ?_⟩
  rw [String.toList_append]
  exact part.trans (List.suffix_append _ _).isInfix

/-- A word in a text put together stands in one of its parts, or over their border. -/
theorem speaks_append_cases (h : Speaks (a ++ b)) :
    Speaks a ∨ Speaks b ∨ ∃ front back, front ++ back ∈ failureWords.map String.toList ∧
      front ≠ [] ∧ back ≠ [] ∧ front <:+ a.toList ∧ back <+: b.toList := by
  obtain ⟨word, hw, part⟩ := h
  rw [String.toList_append, List.infix_append_iff] at part
  obtain part | part | ⟨front, back, split, before, behind⟩ := part
  · exact .inl ⟨word, hw, part⟩
  · exact .inr (.inl ⟨word, hw, part⟩)
  by_cases empty : front = []
  · rw [empty, List.nil_append] at split
    exact .inr (.inl ⟨word, hw, split ▸ behind.isInfix⟩)
  by_cases empty' : back = []
  · rw [empty', List.append_nil] at split
    exact .inl ⟨word, hw, split ▸ before.isInfix⟩
  · exact .inr (.inr ⟨front, back, split ▸ List.mem_map_of_mem hw, empty, empty', before, behind⟩)

theorem speaks_append_of_closed (h : Closed a) : Speaks (a ++ b) ↔ Speaks a ∨ Speaks b := by
  refine ⟨fun speaks => ?_, fun speaks => speaks.elim (speaks_append_left · b)
    (speaks_append_right a)⟩
  obtain speaks | speaks | ⟨front, back, split, some, more, before, -⟩ := speaks_append_cases speaks
  · exact .inl speaks
  · exact .inr speaks
  · obtain ⟨word, hw, same⟩ := List.mem_map.1 split
    refine absurd ?_ (h (front.getLast some) ?_ word hw)
    · rw [same, List.dropLast_append_of_ne_nil more]
      exact List.mem_append_left _ (List.getLast_mem some)
    · obtain ⟨rest, whole⟩ := before
      rw [← whole, List.getLast?_append, List.getLast?_eq_some_getLast some]
      rfl

theorem speaks_append_of_fresh (h : Fresh b) : Speaks (a ++ b) ↔ Speaks a ∨ Speaks b := by
  refine ⟨fun speaks => ?_, fun speaks => speaks.elim (speaks_append_left · b)
    (speaks_append_right a)⟩
  obtain speaks | speaks | ⟨front, back, split, some, more, -, behind⟩ := speaks_append_cases speaks
  · exact .inl speaks
  · exact .inr speaks
  · obtain ⟨word, hw, same⟩ := List.mem_map.1 split
    refine absurd ?_ (h (back.head more) ?_ word hw)
    · rw [same, List.tail_append_of_ne_nil some]
      exact List.mem_append_right _ (List.head_mem more)
    · obtain ⟨rest, whole⟩ := behind
      rw [← whole, List.head?_append, List.head?_eq_some_head more]
      rfl

theorem closed_append (some : b.toList ≠ []) (h : Closed b) : Closed (a ++ b) := by
  unfold Closed at h ⊢
  rwa [String.toList_append, List.getLast?_append, List.getLast?_eq_some_getLast some,
    Option.some_or, ← List.getLast?_eq_some_getLast some]

theorem fresh_append (some : a.toList ≠ []) (h : Fresh a) : Fresh (a ++ b) := by
  unfold Fresh at h ⊢
  rwa [String.toList_append, List.head?_append, List.head?_eq_some_head some,
    Option.some_or, ← List.head?_eq_some_head some]

/-- A text that no word goes on in, from before it or behind it. -/
structure Separate (text : String) : Prop where
  some : text.toList ≠ []
  fresh : Fresh text
  closed : Closed text

theorem speaks_join {items : List String} (h : ∀ item ∈ items, Separate item) :
    Speaks (String.join items) ↔ ∃ item ∈ items, Speaks item := by
  induction items with
  | nil => exact iff_of_false (by decide) (by simp)
  | cons item rest ih =>
    obtain ⟨first, later⟩ := List.forall_mem_cons.1 h
    rw [String.join_cons, speaks_append_of_closed first.closed, ih later, List.exists_mem_cons_iff]

theorem fresh_join {items : List String} (h : ∀ item ∈ items, Separate item) :
    Fresh (String.join items) := by
  cases items with
  | nil => decide
  | cons item rest =>
    have first := h item List.mem_cons_self
    rw [String.join_cons]
    exact fresh_append first.some first.fresh

theorem head_word : ∀ word ∈ failureWords, word.toList.head? ∈ [some 'e', some 'c'] := by
  decide

/-- No word begins in a text without these letters. -/
theorem speaks_append_of_idle (e : 'e' ∉ a.toList) (c : 'c' ∉ a.toList) :
    Speaks (a ++ b) ↔ Speaks b := by
  refine ⟨fun speaks => ?_, speaks_append_right a⟩
  have idle {word front : List Char} (hf : word.head? ∈ [some 'e', some 'c'])
      (begins : word.head? = front.head?) : ¬ front <:+: a.toList := by
    rw [begins] at hf
    simp only [List.mem_cons, List.not_mem_nil, or_false, List.head?_eq_some_iff] at hf
    rintro part
    rcases hf with ⟨rest, rfl⟩ | ⟨rest, rfl⟩
    · exact e (part.subset List.mem_cons_self)
    · exact c (part.subset List.mem_cons_self)
  obtain ⟨word, hw, part⟩ | speaks | ⟨front, back, split, some, -, before, -⟩ :=
    speaks_append_cases speaks
  · exact absurd part (idle (head_word word hw) rfl)
  · exact speaks
  · obtain ⟨word, hw, same⟩ := List.mem_map.1 split
    have begins : word.toList.head? = front.head? := by
      rw [same, List.head?_append, List.head?_eq_some_head some]
      rfl
    exact absurd before.isInfix (idle (head_word word hw) begins)

/-! ## Quotes -/

theorem escapeChar_of_mem_word (word : String) (h : word ∈ failureWords) :
    ∀ c ∈ word.toList, escapeChar c = [c] := by
  have all : ∀ word ∈ failureWords,
      word.toList.map escapeChar = word.toList.map fun c => [c] := by decide +kernel
  exact List.map_inj_left.1 (all word h)

/-- An escape neither has a word nor does one begin in it. -/
theorem speaks_escape (h : escapeChar c ≠ [c]) (text : String) :
    Speaks (String.ofList (escapeChar c) ++ text) ↔ Speaks text := by
  obtain plain | ⟨d, hd, short⟩ | long := escapeChar_cases c
  · exact absurd plain h
  · rw [short]
    have letters : 'e' ∉ ['0', 't', 'r', 'n', '\\', '"'] ∧ 'c' ∉ ['0', 't', 'r', 'n', '\\', '"'] := by
      decide
    apply speaks_append_of_idle
    · rw [String.toList_ofList, List.mem_pair]
      rintro (mark | rfl)
      · exact absurd mark (by decide)
      · exact letters.1 hd
    · rw [String.toList_ofList, List.mem_pair]
      rintro (mark | rfl)
      · exact absurd mark (by decide)
      · exact letters.2 hd
  · have silent : ¬ Speaks (String.ofList (escapeChar c)) := by
      refine not_speaks_of_notMem (c := 'o') (by decide) ?_
      rw [long, String.toList_ofList, List.mem_append, List.mem_append, not_or, not_or]
      exact ⟨⟨by decide, notMem_toDigits (by decide) (by decide) (by decide) _⟩, by decide⟩
    have closed : Closed (String.ofList (escapeChar c)) := by
      intro d hd
      rw [long, String.toList_ofList, List.getLast?_concat, Option.mem_some] at hd
      subst hd
      decide
    rw [speaks_append_of_closed closed]
    exact or_iff_right silent

/-- Letters without escapes stand at the beginning of the escaped text if they do in the text. -/
theorem prefix_escaped {letters : List Char} (h : ∀ c ∈ letters, escapeChar c = [c])
    (cs : List Char) : letters <+: cs.flatMap escapeChar ↔ letters <+: cs := by
  induction letters generalizing cs with
  | nil => simp
  | cons letter letters ih =>
    obtain ⟨first, later⟩ := List.forall_mem_cons.1 h
    cases cs with
    | nil => simp
    | cons c cs =>
      rw [List.flatMap_cons, List.cons_prefix_cons, ← ih later cs]
      by_cases plain : escapeChar c = [c]
      · rw [plain, List.singleton_append, List.cons_prefix_cons]
      · -- every escape begins with a character that is escaped itself
        have other : letter ≠ c := fun same => plain (same ▸ first)
        have escaped : escapeChar '\\' ≠ ['\\'] := by decide
        have mark : letter ≠ '\\' := fun same => escaped (same ▸ first)
        obtain same | ⟨d, -, short⟩ | long := escapeChar_cases c
        · exact absurd same plain
        · simp [short, mark, other]
        · simp [long, mark, other]

theorem speaks_cons (c : Char) (cs : List Char) :
    Speaks (String.ofList (c :: cs)) ↔
      (∃ word ∈ failureWords, word.toList <+: c :: cs) ∨ Speaks (String.ofList cs) := by
  simp only [Speaks, String.toList_ofList, List.infix_cons_iff, and_or_left, exists_or]

/-- A text has the words of its letters that are not escaped, and so has the escaped text. -/
theorem speaks_escaped (cs : List Char) :
    Speaks (String.ofList (cs.flatMap escapeChar)) ↔ Speaks (String.ofList cs) := by
  induction cs with
  | nil => rfl
  | cons c cs ih =>
    rw [List.flatMap_cons, speaks_cons]
    by_cases plain : escapeChar c = [c]
    · have begins : ∀ word ∈ failureWords,
          (word.toList <+: c :: cs.flatMap escapeChar ↔ word.toList <+: c :: cs) := by
        intro word hw
        have same := prefix_escaped (escapeChar_of_mem_word word hw) (c :: cs)
        rwa [List.flatMap_cons, plain, List.singleton_append] at same
      rw [plain, List.singleton_append, speaks_cons, ih]
      refine or_congr_left (exists_congr fun word => and_congr_right (begins word))
    · have none : ¬ ∃ word ∈ failureWords, word.toList <+: c :: cs := by
        rintro ⟨word, hw, part⟩
        rcases List.prefix_cons_iff.1 part with empty | ⟨rest, whole, -⟩
        · exact absurd empty (word_ne_nil word hw)
        · have letter := escapeChar_of_mem_word word hw c (whole ▸ List.mem_cons_self)
          exact plain letter
      rw [String.ofList_append, speaks_escape plain, ih]
      exact (or_iff_right none).symm

/-- Quotes have the words of the text between them. -/
theorem speaks_quote (text : String) : Speaks (quote text) ↔ Speaks text := by
  have marks : quote text =
      "\"" ++ (String.ofList (text.toList.flatMap escapeChar) ++ "\"") := by
    apply String.toList_injective
    simp [quote]
  have silent : ¬ Speaks "\"" := by decide
  rw [marks, speaks_append_of_closed (by decide), or_iff_right silent,
    speaks_append_of_fresh (by decide), or_iff_left silent, speaks_escaped, String.ofList_toList]

theorem quote_ne_nil (text : String) : (quote text).toList ≠ [] := by
  simp [quote]

theorem closed_quote (text : String) : Closed (quote text) := by
  intro c hc
  unfold quote at hc
  rw [String.toList_ofList, List.getLast?_concat, Option.mem_some] at hc
  subst hc
  decide

/-! ## Texts at hand -/

/-- Not two letters from the middle of a word. -/
def apart (a b : UInt8) : Bool :=
  !(a == 0x70 && b == 0x74) && !(a == 0x6E && b == 0x6E)

/-- No two letters stand together as they do in the words. Of a text that is written down this is
seen faster than that it has no word. -/
def Apart (text : String) : Prop :=
  text.toByteArray.data.toList.IsChain (apart · · = true)

instance : DecidablePred Apart := fun text =>
  inferInstanceAs (Decidable (text.toByteArray.data.toList.IsChain (apart · · = true)))

theorem not_apart_word : ∀ word ∈ failureWords, ¬ Apart word := by
  decide

theorem infix_bytes (h : a.toList <:+: b.toList) :
    a.toByteArray.data.toList <:+: b.toByteArray.data.toList := by
  obtain ⟨front, back, whole⟩ := h
  refine ⟨front.flatMap String.utf8EncodeChar, back.flatMap String.utf8EncodeChar, ?_⟩
  simp only [← String.utf8Encode_toList, List.utf8Encode, List.data_toByteArray, ← whole,
    List.flatMap_append]

theorem not_speaks_of_apart (h : Apart a) : ¬ Speaks a :=
  fun ⟨word, hw, part⟩ => not_apart_word word hw <| List.IsChain.infix h (infix_bytes part)

end Text

open Text

/-! ## Colors -/

theorem Line.tellsFailure_iff (line : Line) : line.tellsFailure = true ↔ Speaks line.text :=
  speaks_iff.symm

/-- A line has the color of failures when its text has one of the words. -/
theorem Line.exceptionColor_iff (line : Line) :
    (∃ p ∈ line.pieces, p.color = some exceptionColor) ↔ Speaks line.text := by
  have others : nameColor ≠ exceptionColor ∧ textColor ≠ exceptionColor := by decide
  rw [← line.tellsFailure_iff]
  unfold Line.pieces
  cases line.tellsFailure <;> simp [others]

/-- A report has the color of failures where a line has one of the words, or for a diagnostic. -/
theorem Report.exceptionColor_iff (r : Report) :
    (∃ p ∈ r.pieces, p.color = some exceptionColor) ↔
      (∃ line ∈ r.lines, Speaks line.text) ∨ r.diagnostics ≠ [] := by
  have others : headerColor ≠ exceptionColor ∧ noticeColor ≠ exceptionColor ∧
      memoryMapColor ≠ exceptionColor := by decide
  obtain ⟨header, notice, map⟩ := others
  simp only [← Line.exceptionColor_iff, Report.pieces, List.mem_append, List.mem_cons,
    List.not_mem_nil, or_false, List.mem_map, List.mem_flatMap]
  constructor
  · rintro ⟨p, ((((rfl | rfl) | ⟨text, -, rfl⟩) | ⟨line, hl, hp⟩) | ⟨text, -, rfl⟩) |
      ⟨diagnostic, hd, rfl⟩, color⟩
    · exact absurd (Option.some.inj color) header
    · cases color
    · exact absurd (Option.some.inj color) notice
    · exact .inl ⟨line, hl, p, hp, color⟩
    · exact absurd (Option.some.inj color) map
    · exact .inr (List.ne_nil_of_mem hd)
  · rintro (⟨line, hl, p, hp, color⟩ | some)
    · exact ⟨p, .inl (.inl (.inr ⟨line, hl, hp⟩)), color⟩
    · obtain ⟨diagnostic, hd⟩ := List.exists_mem_of_ne_nil _ some
      exact ⟨_, .inr ⟨diagnostic, hd, rfl⟩, rfl⟩

end SyscallDecode
