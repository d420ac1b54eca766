/-
Both views of bytes read back. Groups of digits give the bytes they were made from, the graphic
text has one character for every byte, and inside quotes every escape is undone. So a line that shows
bytes in both views tells them in the one and their characters in the other.
-/
import Mathlib.Data.List.Basic
import SyscallDecode.Proofs.Text.Dump
import SyscallDecode.Proofs.Text.Lines

namespace SyscallDecode.Text

/-! ## Groups of digits -/

/-- The byte of two digits. -/
def readPair : List Char → Option UInt8
  | [high, low] => do
    let high ← digitValue? 16 high
    let low ← digitValue? 16 low
    return UInt8.ofNat (16 * high + low)
  | _ => none

/-- The bytes of groups of two digits with blanks between them. An empty text has no group. -/
def readGroups (text : List Char) : Option (List UInt8) :=
  if text = [] then some [] else (text.splitOn ' ').mapM readPair

theorem readPair_hexPair (b : UInt8) : readPair (hexPair b) = some b := by
  have small := b.toNat_lt
  have high := digitValue?_digitChar (b.toNat / 16) (by omega)
  have low := digitValue?_digitChar (b.toNat % 16) (by omega)
  unfold hexPair readPair
  simp only [high, low, Option.bind_eq_bind, Option.bind_some, Option.pure_def, Nat.div_add_mod,
    UInt8.ofNat_toNat]

theorem blank_notMem_hexPair (b : UInt8) : ' ' ∉ hexPair b := by
  have digit : ∀ d < 16, ' ' ≠ Nat.digitChar d := by decide
  have small := b.toNat_lt
  unfold hexPair
  rw [List.mem_cons, List.mem_singleton, not_or]
  exact ⟨digit _ (by omega), digit _ (by omega)⟩

theorem mapM_readPair (bytes : List UInt8) : (bytes.map hexPair).mapM readPair = some bytes := by
  induction bytes with
  | nil => rfl
  | cons b bytes ih =>
    rw [List.map_cons, List.mapM_cons, readPair_hexPair, ih]
    rfl

theorem hexDump_eq_empty_iff {bytes : List UInt8} : hexDump bytes = "" ↔ bytes = [] :=
  ⟨fun h => hexDump_inj h, fun h => by rw [h]; rfl⟩

/-- A dump reads back group by group. -/
theorem readGroups_hexDump (bytes : List UInt8) :
    readGroups (hexDump bytes).toList = some bytes := by
  unfold readGroups
  by_cases none : bytes = []
  · subst none
    rfl
  · have some : (hexDump bytes).toList ≠ [] := fun empty =>
      none (hexDump_eq_empty_iff.1 (String.toList_eq_nil_iff.1 empty))
    have apart : ∀ pair ∈ bytes.map hexPair, ' ' ∉ pair := by
      intro pair hp
      obtain ⟨b, -, rfl⟩ := List.mem_map.1 hp
      exact blank_notMem_hexPair b
    rw [if_neg some, toList_hexDump, List.splitOn_intercalate ' ' apart (by simpa using none)]
    exact mapM_readPair bytes

/-! ## Graphic text -/

/-- The character that stands for a byte: its own, if it is a graphic one or the blank, and else a
full stop. -/
def ShownAs (b : UInt8) (c : Char) : Prop :=
  if (0x21 ≤ b.toNat ∧ b.toNat ≤ 0x7E) ∨ b.toNat = 0x20 then c.toNat = b.toNat else c = '.'

theorem shownAs_graphicChar (b : UInt8) : ShownAs b (graphicChar b) := by
  have graphic : isGraphic b = true ↔ (0x21 ≤ b.toNat ∧ b.toNat ≤ 0x7E) ∨ b.toNat = 0x20 := by
    unfold isGraphic
    simp only [Bool.and_eq_true, decide_eq_true_eq, UInt8.le_iff_toNat_le]
    have bounds : (0x20 : UInt8).toNat = 0x20 ∧ (0x7E : UInt8).toNat = 0x7E := ⟨rfl, rfl⟩
    omega
  unfold ShownAs graphicChar
  by_cases shown : isGraphic b = true
  · have valid : b.toNat.isValidChar := .inl (Nat.lt_trans b.toNat_lt (by decide))
    rw [if_pos shown, if_pos (graphic.1 shown), Char.ofNat, dif_pos valid]
    rfl
  · rw [if_neg shown, if_neg fun h => shown (graphic.2 h)]

/-- One character for every byte, in order. -/
theorem shownAs_graphicText (bytes : List UInt8) :
    List.Forall₂ ShownAs bytes (graphicText bytes).toList := by
  unfold graphicText
  rw [String.toList_ofList]
  induction bytes with
  | nil => exact .nil
  | cons b bytes ih => exact .cons (shownAs_graphicChar b) ih

/-! ## Quoted text -/

/-- Where a reader of quoted text is. -/
inductive QuoteState
  | plain
  /-- Behind a backslash. -/
  | escaped
  /-- Before the digits of a character. -/
  | opening
  /-- Behind digits of this value. -/
  | number (value : Nat)

/-- The character of a short escape. -/
def shortEscape? : Char → Option Char
  | '0' => some '\x00'
  | 't' => some '\t'
  | 'r' => some '\r'
  | 'n' => some '\n'
  | '\\' => some '\\'
  | '"' => some '"'
  | _ => none

/-- The characters up to the closing quote, and what stands behind it. -/
def readInside : QuoteState → List Char → Option (List Char × List Char)
  | _, [] => none
  | .plain, c :: rest =>
    if c = '"' then some ([], rest)
    else if c = '\\' then readInside .escaped rest
    else (readInside .plain rest).map fun (inside, rest) => (c :: inside, rest)
  | .escaped, c :: rest =>
    if c = 'u' then readInside .opening rest
    else do
      let short ← shortEscape? c
      let (inside, rest) ← readInside .plain rest
      return (short :: inside, rest)
  | .opening, c :: rest => if c = '\x7b' then readInside (.number 0) rest else none
  | .number value, c :: rest =>
    if c = '\x7d' then
      (readInside .plain rest).map fun (inside, rest) => (Char.ofNat value :: inside, rest)
    else do
      let digit ← digitValue? 16 c
      readInside (.number (value * 16 + digit)) rest

/-- The text between the quotes at the beginning, and what stands behind them. -/
def readQuoted : List Char → Option (List Char × List Char)
  | '"' :: rest => readInside .plain rest
  | _ => none

theorem digitValue?_closing : digitValue? 16 '\x7d' = none := by decide

/-- Digits that have a value are read as that value. -/
theorem readInside_digits {bound value n : Nat} {digits : List Char}
    (read : readDigits 16 bound value digits = .ok n) (rest : List Char) :
    readInside (.number value) (digits ++ rest) = readInside (.number n) rest := by
  induction digits generalizing value with
  | nil =>
    cases read
    rfl
  | cons c digits ih =>
    rw [readDigits] at read
    split at read
    · cases read
    · next digit known =>
      have other : c ≠ '\x7d' := by
        rintro rfl
        rw [digitValue?_closing] at known
        cases known
      split at read
      · rw [List.cons_append, readInside, if_neg other, known]
        exact ih read
      · cases read

/-- Every character is read back from what stands for it inside quotes. -/
theorem readInside_escapeChar (c : Char) (rest : List Char) :
    readInside .plain (escapeChar c ++ rest) =
      (readInside .plain rest).map fun (inside, rest) => (c :: inside, rest) := by
  have short {d : Char} (other : d ≠ 'u') (known : shortEscape? d = some c) :
      readInside .plain (['\\', d] ++ rest) =
        (readInside .plain rest).map fun (inside, rest) => (c :: inside, rest) := by
    rw [List.cons_append, readInside, if_neg (by decide), if_pos rfl, List.cons_append,
      readInside, if_neg other, known]
    exact Option.map_eq_bind.symm
  unfold escapeChar
  split_ifs with zero tab back feed slash mark hidden
  · exact short (by decide) (by rw [zero]; rfl)
  · exact short (by decide) (by rw [tab]; rfl)
  · exact short (by decide) (by rw [back]; rfl)
  · exact short (by decide) (by rw [feed]; rfl)
  · exact short (by decide) (by rw [slash]; rfl)
  · exact short (by decide) (by rw [mark]; rfl)
  · have digits := readInside_digits (readDigits_toDigits c.toNat (Nat.lt_succ_self _))
      ('\x7d' :: rest)
    simp only [List.cons_append, List.append_assoc, List.nil_append]
    rw [readInside, if_neg (by decide), if_pos rfl, readInside, if_pos rfl, readInside, if_pos rfl,
      digits, readInside, if_pos rfl, Char.ofNat_toNat]
  · rw [List.singleton_append, readInside, if_neg mark, if_neg slash]

/-- A quoted text reads back, whatever stands behind it. -/
theorem readQuoted_quote (text : String) (rest : List Char) :
    readQuoted ((quote text).toList ++ rest) = some (text.toList, rest) := by
  have inside (cs : List Char) :
      readInside .plain (cs.flatMap escapeChar ++ '"' :: rest) = some (cs, rest) := by
    induction cs with
    | nil => rw [List.flatMap_nil, List.nil_append, readInside, if_pos rfl]
    | cons c cs ih =>
      rw [List.flatMap_cons, List.append_assoc, readInside_escapeChar, ih]
      rfl
  have shape : (quote text).toList ++ rest =
      '"' :: (text.toList.flatMap escapeChar ++ '"' :: rest) := by
    unfold quote
    rw [String.toList_ofList, List.append_assoc, List.append_assoc]
    rfl
  rw [shape]
  exact inside text.toList

/-! ## Marks -/

/-- A mark can be told from the text before it: one of its characters comes neither there nor
earlier in the mark. -/
def StandsOut (front mark : String) : Prop :=
  ∃ earlier c later, mark.toList = earlier ++ c :: later ∧ c ∉ front.toList ∧ c ∉ earlier

/-- A mark that can be told from the text before it is found first where it stands. -/
theorem StandsOut.dropInfix? {front mark : String} (out : StandsOut front mark)
    (rest : List Char) :
    (front.toList ++ mark.toList ++ rest).dropInfix? mark.toList = some (front.toList, rest) := by
  obtain ⟨earlier, c, later, shape, before, within⟩ := out
  refine List.dropInfix?_eq_some_iff.2 ⟨⟨_, rfl, beq_self_eq_true _⟩, ?_⟩
  intro front' mark' rest' same found
  obtain rfl := eq_of_beq found
  refine Nat.le_of_not_lt fun shorter => ?_
  -- a mark that stood earlier would have the character before the mark that is there has it
  have here : (front' ++ mark.toList ++ rest')[front'.length + earlier.length]? = some c := by
    rw [shape, List.append_assoc, List.getElem?_append_right (Nat.le_add_right _ _),
      Nat.add_sub_cancel_left, List.append_assoc, List.getElem?_append_right (Nat.le_refl _),
      Nat.sub_self]
    rfl
  have inside : front'.length + earlier.length < (front.toList ++ earlier).length := by
    rw [List.length_append]
    omega
  rw [← same, shape, ← List.append_assoc, List.append_assoc _ (c :: later),
    List.getElem?_append_left inside] at here
  rcases List.mem_append.1 (List.mem_of_getElem? here) with early | early
  · exact before early
  · exact within early

/-! ## Both views -/

/-- The bytes and the text of both views: a dump behind the first mark, and a quoted text behind the
second. -/
def readViews (before between text : String) : Option (List UInt8 × String) := do
  let (_, views) ← text.toList.dropInfix? before.toList
  let (dump, quoted) ← views.dropInfix? between.toList
  let bytes ← readGroups dump
  let (inside, _) ← readQuoted quoted
  return (bytes, String.ofList inside)

/-- Both views of bytes are read behind marks that can be told from the text before them. -/
theorem readViews_of_standsOut {front before between : String} {bytes : List UInt8}
    (first : StandsOut front before) (second : StandsOut (hexDump bytes) between) (rest : String) :
    readViews before between
      (front ++ before ++ hexDump bytes ++ between ++ quote (graphicText bytes) ++ rest) =
        some (bytes, graphicText bytes) := by
  have views := first.dropInfix? ((hexDump bytes).toList ++ between.toList ++
    ((quote (graphicText bytes)).toList ++ rest.toList))
  unfold readViews
  simp only [String.toList_append]
  rw [List.append_assoc, List.append_assoc _ between.toList,
    List.append_assoc _ (hexDump bytes).toList, ← List.append_assoc (hexDump bytes).toList, views]
  simp only [Option.bind_eq_bind, Option.bind_some, second.dropInfix?, readGroups_hexDump,
    readQuoted_quote, String.ofList_toList, Option.pure_def]

/-- A quote, a backslash and a new line. -/
example : readViews "hex: " " string: " "hex: 22 5c 0a string: \"\\\"\\\\.\"" =
    some ([0x22, 0x5C, 0x0A], "\"\\.") := by
  decide +kernel

end SyscallDecode.Text
