/-
What is written of a report. Without colors it is the lines of the report, each with a line feed
behind it; with colors it is the same between escape sequences, as long as no text of the report
has one of its own. Each argument has one of these lines, and its text can be read off it again.
-/
import SyscallDecode.Report.Style

namespace SyscallDecode

namespace Text

/-! ## Escape sequences -/

/-- What may stand between the opening of an escape sequence and its final letter. -/
def isParameter (c : Char) : Bool :=
  c.isDigit || c == ';'

/-- What follows an escape sequence of which the parameters are still to come. -/
def afterSgr : List Char → Option (List Char)
  | [] => none
  | c :: cs =>
    if c = 'm' then some cs
    else if isParameter c then afterSgr cs
    else none

theorem length_afterSgr {cs rest : List Char} (h : afterSgr cs = some rest) :
    rest.length ≤ cs.length := by
  fun_induction afterSgr cs with
  | case1 => cases h
  | case2 cs =>
    cases h
    exact Nat.le_succ _
  | case3 c cs _ _ ih => exact Nat.le_succ_of_le (ih h)
  | case4 => cases h

/-- The text without all its sequences that tell a terminal how to show it. -/
def withoutSgr : List Char → List Char
  | [] => []
  | '\x1b' :: '[' :: cs =>
    match _ : afterSgr cs with
    | some rest => withoutSgr rest
    | none => '\x1b' :: withoutSgr ('[' :: cs)
  | c :: cs => c :: withoutSgr cs
termination_by cs => cs.length
decreasing_by
  · have shorter := length_afterSgr ‹_›
    simp only [List.length_cons]
    omega
  · simp
  · simp

/-- Parameters come to their end at the final letter. -/
theorem afterSgr_parameters {parameters : List Char}
    (h : ∀ c ∈ parameters, isParameter c = true) (rest : List Char) :
    afterSgr (parameters ++ 'm' :: rest) = some rest := by
  induction parameters with
  | nil => rfl
  | cons c cs ih =>
    have parameter : isParameter c = true := h c List.mem_cons_self
    have other : c ≠ 'm' := by
      rintro rfl
      cases parameter
    rw [List.cons_append, afterSgr, if_neg other, if_pos parameter]
    exact ih fun d hd => h d (List.mem_cons_of_mem _ hd)

theorem withoutSgr_sequence {parameters : List Char}
    (h : ∀ c ∈ parameters, isParameter c = true) (rest : List Char) :
    withoutSgr ('\x1b' :: '[' :: (parameters ++ 'm' :: rest)) = withoutSgr rest := by
  have after := afterSgr_parameters h rest
  rw [withoutSgr]
  split
  · next rest' found =>
    cases after.symm.trans found
    rfl
  · next none => cases after.symm.trans none

theorem withoutSgr_cons {c : Char} (h : c ≠ '\x1b') (cs : List Char) :
    withoutSgr (c :: cs) = c :: withoutSgr cs := by
  rw [withoutSgr]
  rintro _ rfl
  exact absurd rfl h

/-- A text without the escape character stays as it is. -/
theorem withoutSgr_append {text : List Char} (h : '\x1b' ∉ text) (rest : List Char) :
    withoutSgr (text ++ rest) = text ++ withoutSgr rest := by
  induction text with
  | nil => rfl
  | cons c cs ih =>
    rw [List.mem_cons, not_or] at h
    obtain ⟨first, others⟩ := h
    rw [List.cons_append, withoutSgr_cons (Ne.symm first), ih others, List.cons_append]

/-- A text without the escape character. -/
def Plain (text : String) : Prop :=
  '\x1b' ∉ text.toList

instance (text : String) : Decidable (Plain text) :=
  inferInstanceAs (Decidable (_ ∉ _))

theorem plain_append {a b : String} : Plain (a ++ b) ↔ Plain a ∧ Plain b := by
  unfold Plain
  rw [String.toList_append, List.mem_append, not_or]

/-! ## Margins -/

/-- The text without the first `margin` tabs behind each line feed, of which `due` are still to be
taken away. -/
def withoutMargin (margin : Nat) : Nat → List Char → List Char
  | _, [] => []
  | 0, c :: cs => c :: withoutMargin margin (if c = '\n' then margin else 0) cs
  | due + 1, c :: cs =>
    if c = '\t' then withoutMargin margin due cs
    else c :: withoutMargin margin (if c = '\n' then margin else 0) cs

/-- A margin of tabs. -/
def tabs (margin : Nat) : List Char :=
  List.replicate margin '\t'

theorem withoutMargin_tabs (margin due : Nat) (rest : List Char) :
    withoutMargin margin due (tabs due ++ rest) = withoutMargin margin 0 rest := by
  unfold tabs
  induction due with
  | zero => rfl
  | succ due ih =>
    rw [List.replicate_succ, List.cons_append, withoutMargin, if_pos rfl]
    exact ih

/-- The margin of a text with a margin can be taken away. The tabs of its own stay. -/
theorem withoutMargin_indentRest (margin : Nat) (text : String) :
    withoutMargin margin 0 (indentRest (String.ofList (tabs margin)) text).toList =
      text.toList := by
  unfold indentRest
  rw [String.toList_ofList, String.toList_ofList]
  induction text.toList with
  | nil => rfl
  | cons c cs ih =>
    rw [List.flatMap_cons]
    by_cases feed : c = '\n'
    · rw [if_pos feed, List.cons_append, withoutMargin, if_pos rfl, withoutMargin_tabs, ih, feed]
    · rw [if_neg feed, List.singleton_append, withoutMargin, if_neg feed, ih]

/-- Behind each line feed of such a text there is the margin. -/
theorem tabs_prefix_of_indentRest {margin : Nat} {text : String} {before after : List Char}
    (h : (indentRest (String.ofList (tabs margin)) text).toList = before ++ '\n' :: after) :
    tabs margin <+: after := by
  unfold indentRest at h
  rw [String.toList_ofList, String.toList_ofList] at h
  generalize text.toList = cs at h
  induction cs generalizing before with
  | nil => simp at h
  | cons c cs ih =>
    rw [List.flatMap_cons] at h
    by_cases feed : c = '\n'
    · rw [if_pos feed] at h
      cases before with
      | nil =>
        cases h
        exact List.prefix_append _ _
      | cons d before =>
        rw [List.cons_append, List.cons_append, List.cons.injEq] at h
        -- the margin has no line feed, so this one stands further on
        obtain ⟨front, rfl, rest⟩ | ⟨front, margin, rest⟩ := List.append_eq_append_iff.1 h.2
        · exact ih rest
        · cases front with
          | nil => exact @ih [] rest.symm
          | cons e front =>
            cases rest
            have tab : '\n' ∈ tabs _ := margin ▸ List.mem_append_right _ List.mem_cons_self
            cases (List.mem_replicate.1 tab).2
    · rw [if_neg feed] at h
      cases before with
      | nil =>
        cases h
        exact absurd rfl feed
      | cons d before =>
        rw [List.singleton_append, List.cons_append, List.cons.injEq] at h
        exact ih h.2

theorem plain_indentRest {margin text : String} (hm : Plain margin) (ht : Plain text) :
    Plain (indentRest margin text) := by
  unfold Plain indentRest
  rw [String.toList_ofList, List.mem_flatMap]
  rintro ⟨c, hc, escape⟩
  split at escape
  · rcases List.mem_cons.1 escape with feed | escape
    · cases feed
    · exact hm escape
  · cases List.mem_singleton.1 escape
    exact ht hc

/-! ## Line feeds -/

/-- Lines with a line feed behind each are lines with line feeds between them and one at the end. -/
theorem join_feeds {lines : List String} (h : lines ≠ []) :
    String.join (lines.map (· ++ "\n")) = "\n".intercalate lines ++ "\n" := by
  induction lines with
  | nil => exact absurd rfl h
  | cons line rest ih =>
    cases rest with
    | nil => rw [List.map_cons, List.map_nil, String.join_cons, String.join_nil,
        String.append_empty, String.intercalate_singleton]
    | cons next rest =>
      rw [List.map_cons, String.join_cons, ih (List.cons_ne_nil _ _), String.intercalate_cons_cons]
      simp only [String.append_assoc]

end Text

open SyscallDecode.Text

/-! ## Pieces -/

namespace Piece

/-- A number is a parameter of an escape sequence. -/
theorem isParameter_of_mem_toString {n : Nat} {c : Char} (h : c ∈ (toString n).toList) :
    isParameter c = true := by
  have digit : c.isDigit = true := by
    rw [Nat.toString_eq_repr, Nat.repr_eq_ofList_toDigits, String.toList_ofList] at h
    exact Nat.isDigit_of_mem_toDigits (by decide) (by decide) h
  unfold isParameter
  rw [digit, Bool.true_or]

/-- The code that begins a style is one escape sequence. -/
theorem beginCode_sequence (color : Color) (bold : Bool) :
    ∃ parameters, (∀ c ∈ parameters, isParameter c = true) ∧
      (beginCode color bold).toList = '\x1b' :: '[' :: (parameters ++ ['m']) := by
  refine ⟨((if bold then "1;" else "") ++ "38;2;" ++ toString color.red ++ ";" ++
    toString color.green ++ ";" ++ toString color.blue).toList, ?_, ?_⟩
  · have fixed : ∀ c ∈ (if bold then "1;" else "").toList ++ "38;2;".toList,
        isParameter c = true := by
      cases bold <;> exact List.all_eq_true.1 (by decide)
    have semicolon : ∀ c ∈ ";".toList, isParameter c = true := List.all_eq_true.1 (by decide)
    intro c hc
    simp only [String.toList_append, List.mem_append] at hc fixed
    obtain (((((h | h) | h) | h) | h) | h) | h := hc
    · exact fixed c (.inl h)
    · exact fixed c (.inr h)
    · exact isParameter_of_mem_toString h
    · exact semicolon c h
    · exact isParameter_of_mem_toString h
    · exact semicolon c h
    · exact isParameter_of_mem_toString h
  · unfold beginCode
    simp only [String.toList_append, List.append_assoc]
    rfl

/-- A text without the escape character ends no style. -/
theorem resume_of_plain {code text : List Char} (h : '\x1b' ∉ text) : resume code text = text := by
  fun_induction resume code text with
  | case1 rest _ => exact absurd List.mem_cons_self h
  | case2 c rest _ ih =>
    rw [ih fun escape => h (List.mem_cons_of_mem _ escape)]
  | case3 => rfl

/-- A piece with its style is the piece between two escape sequences. -/
theorem withoutSgr_colored {p : Piece} (h : Plain p.text) (rest : List Char) :
    withoutSgr (p.colored.toList ++ rest) = p.text.toList ++ withoutSgr rest := by
  unfold colored
  cases p.color with
  | none => exact withoutSgr_append h rest
  | some color =>
    obtain ⟨parameters, valid, code⟩ := beginCode_sequence color p.bold
    have reset : withoutSgr (resetCode ++ rest) = withoutSgr rest :=
      withoutSgr_sequence (List.all_eq_true.1 (by decide : ['0'].all isParameter = true)) rest
    dsimp only
    rw [String.toList_append, String.toList_ofList, resume_of_plain h, code]
    simp only [List.cons_append, List.append_assoc, List.nil_append]
    rw [withoutSgr_sequence valid, withoutSgr_append h, reset]

/-- Pieces in a row, with their styles and without. -/
theorem withoutSgr_join {pieces : List Piece} (h : ∀ p ∈ pieces, Plain p.text) :
    withoutSgr (String.join (pieces.map colored)).toList =
      (String.join (pieces.map text)).toList := by
  induction pieces with
  | nil => rw [List.map_nil, List.map_nil, String.toList_join, List.flatMap_nil, withoutSgr]
  | cons p rest ih =>
    rw [List.forall_mem_cons] at h
    rw [List.map_cons, List.map_cons, String.join_cons, String.join_cons, String.toList_append,
      String.toList_append, withoutSgr_colored h.1, ih h.2]

end Piece

/-! ## Lines -/

namespace Line

/-- A line as one text. -/
def entry (line : Line) : String :=
  line.indent ++ line.name ++ ": " ++ line.nestedText

theorem margin_eq (line : Line) :
    line.indent ++ "\t" = String.ofList (tabs (line.depth + 1)) := by
  unfold indent tabs
  rw [List.replicate_succ', String.ofList_append]

theorem join_pieces (line : Line) :
    String.join (line.pieces.map Piece.text) = line.entry ++ "\n" := by
  unfold pieces entry
  simp only [List.map_cons, List.map_nil, String.join_cons, String.join_nil, String.append_empty,
    String.append_assoc]

theorem plain_pieces {line : Line} (named : Plain line.name) (told : Plain line.text) :
    ∀ p ∈ line.pieces, Plain p.text := by
  have indent : Plain line.indent := by
    unfold Plain Line.indent
    rw [String.toList_ofList]
    intro escape
    cases (List.mem_replicate.1 escape).2
  have nested : Plain line.nestedText :=
    plain_indentRest (plain_append.2 ⟨indent, by decide⟩) told
  simp only [pieces, List.forall_mem_cons]
  exact ⟨indent, named, by decide, nested, by decide, nofun⟩

/-- A line feed of an entry that is not one of the name has the margin behind it. -/
theorem margin_of_entry {line : Line} {before after : List Char}
    (single : '\n' ∉ line.name.toList) (h : line.entry.toList = before ++ '\n' :: after) :
    tabs (line.depth + 1) <+: after := by
  have parts : line.entry.toList =
      (line.indent ++ line.name).toList ++ ':' :: ' ' :: line.nestedText.toList := by
    unfold entry
    rw [String.append_assoc, String.toList_append, String.toList_append (s := ": ")]
    rfl
  obtain ⟨front, rfl, rest⟩ | ⟨front, name, rest⟩ :=
    List.append_eq_append_iff.1 (parts.symm.trans h)
  · match front with
    | [] => cases rest
    | [_] => cases rest
    | _ :: _ :: front =>
      simp only [List.cons_append, List.cons.injEq] at rest
      obtain ⟨-, -, text⟩ := rest
      unfold nestedText at text
      rw [margin_eq] at text
      exact tabs_prefix_of_indentRest text
  · -- the line feed would stand before the colon, in the indent or in the name
    cases front with
    | nil => cases rest
    | cons c front =>
      obtain ⟨rfl, -⟩ := List.cons.inj rest
      have feed : '\n' ∈ (line.indent ++ line.name).toList :=
        name ▸ List.mem_append_right _ List.mem_cons_self
      rw [String.toList_append, List.mem_append] at feed
      refine absurd (feed.resolve_left fun tab => ?_) single
      rw [indent, String.toList_ofList] at tab
      cases (List.mem_replicate.1 tab).2

theorem withoutMargin_nestedText (line : Line) :
    withoutMargin (line.depth + 1) 0 line.nestedText.toList = line.text.toList := by
  unfold nestedText
  rw [margin_eq]
  exact withoutMargin_indentRest _ _

end Line

/-! ## Reports -/

namespace Report

/-- All texts that a report is made of. -/
def texts (r : Report) : List String :=
  [r.header] ++ r.notices ++ r.lines.flatMap (fun line => [line.name, line.text]) ++
    r.memoryMap.toList ++ r.diagnostics

variable (r : Report)

/-- Without colors the pieces of a report are its lines, each with a line feed behind it. -/
theorem join_pieces :
    String.join (r.pieces.map Piece.text) = String.join (r.textLines.map (· ++ "\n")) := by
  have lines : String.join ((r.lines.flatMap Line.pieces).map Piece.text) =
      String.join ((r.lines.map Line.entry).map (· ++ "\n")) := by
    induction r.lines with
    | nil => rfl
    | cons line rest ih =>
      rw [List.flatMap_cons, List.map_append, String.join_append, Line.join_pieces, ih,
        List.map_cons, List.map_cons, String.join_cons]
  have entries : r.textLines = [r.header] ++ r.notices ++ r.lines.map Line.entry ++
      r.memoryMap.toList ++ r.diagnostics := rfl
  rw [entries]
  unfold pieces
  simp only [List.map_append, String.join_append, List.map_map, lines]
  simp only [List.map_cons, List.map_nil, String.join_cons, String.join_nil, String.append_empty]
  rfl

/-- The pieces of a report have no escape character if its texts have none. -/
theorem plain_pieces (h : ∀ text ∈ r.texts, Plain text) : ∀ p ∈ r.pieces, Plain p.text := by
  have feed : Plain "\n" := by decide
  have fed {text : String} (plain : Plain text) : Plain (text ++ "\n") :=
    plain_append.2 ⟨plain, feed⟩
  unfold texts at h
  simp only [List.forall_mem_append, List.forall_mem_singleton, List.mem_flatMap,
    forall_exists_index, and_imp] at h
  obtain ⟨⟨⟨⟨header, notices⟩, lines⟩, map⟩, diagnostics⟩ := h
  unfold pieces
  simp only [List.forall_mem_append, List.forall_mem_cons, List.forall_mem_map]
  refine ⟨⟨⟨⟨⟨header, feed, nofun⟩, fun n hn => fed (notices n hn)⟩, ?_⟩,
    fun m hm => fed (map m hm)⟩, fun d hd => fed (diagnostics d hd)⟩
  intro p hp
  obtain ⟨l, hl, hp⟩ := List.mem_flatMap.1 hp
  have named := lines l.name l hl List.mem_cons_self
  have told := lines l.text l hl (List.mem_cons_of_mem _ List.mem_cons_self)
  exact Line.plain_pieces named told p hp

/-- What is written without colors is the lines with line feeds between them and one at the end. -/
theorem written_plain : r.written false = "\n".intercalate r.textLines ++ "\n" := by
  have joined : r.written false = String.join (r.pieces.map Piece.text) := rfl
  have some : r.textLines ≠ [] := List.cons_ne_nil _ _
  rw [joined, join_pieces, join_feeds some]

/-- Without colors a report is written line by line. With colors it is the same once the escape
sequences are taken away, if no text of the report has the escape character. The lines are the header,
the notices, one entry for each argument, the memory map if there is one, and the diagnostics. What
follows the name in an entry is the text of the argument once its margin is taken away, and if the
name has no line feed, each one of the entry has the margin behind it. -/
theorem written_textLines :
    r.written false = "\n".intercalate r.textLines ++ "\n" ∧
    ((∀ text ∈ r.texts, Plain text) →
      withoutSgr (r.written true).toList = ("\n".intercalate r.textLines ++ "\n").toList) ∧
    r.textLines = [r.header] ++ r.notices ++ r.lines.map Line.entry ++ r.memoryMap.toList ++
      r.diagnostics ∧
    ∀ line ∈ r.lines,
      (∃ text, line.entry = line.indent ++ line.name ++ ": " ++ text ∧
        withoutMargin (line.depth + 1) 0 text.toList = line.text.toList) ∧
      ('\n' ∉ line.name.toList → ∀ before after, line.entry.toList = before ++ '\n' :: after →
        tabs (line.depth + 1) <+: after) := by
  refine ⟨written_plain r, fun plain => ?_, rfl, fun line _ => ⟨⟨_, rfl, ?_⟩, fun single _ _ => ?_⟩⟩
  · have joined : r.written true = String.join (r.pieces.map Piece.colored) := rfl
    have bare : r.written false = String.join (r.pieces.map Piece.text) := rfl
    rw [joined, Piece.withoutSgr_join (plain_pieces r plain), ← bare, written_plain]
  · exact Line.withoutMargin_nestedText line
  · exact Line.margin_of_entry single

/-- A report with a text of two lines and a notice, in colors and without. -/
theorem textLines_two :
    let r : Report :=
      { header := "close: long sys_close(unsigned int fd)", notices := ["no file"],
        lines := [{ name := "fd", text := "0x3\nmore", depth := 1 }] }
    r.written false = "close: long sys_close(unsigned int fd)\nno file\n\tfd: 0x3\n\t\tmore\n" ∧
    withoutSgr (r.written true).toList = (r.written false).toList ∧
    ∀ line ∈ r.lines, line.entry.toList = "\tfd: 0x3".toList ++ '\n' :: "\t\tmore".toList ∧
      tabs 2 <+: "\t\tmore".toList := by
  intro r
  obtain ⟨plain, colored, -, entries⟩ := written_textLines r
  refine ⟨rfl, ?_, fun line mem => ?_⟩
  · rw [colored (by decide +kernel), plain]
  · obtain ⟨-, margin⟩ := entries line mem
    obtain rfl := List.mem_singleton.1 mem
    exact ⟨rfl, margin (by decide) "\tfd: 0x3".toList _ rfl⟩

/-- Only the text of an argument is given a margin: a line feed of its name has none behind it. -/
theorem entry_brokenName :
    let r : Report := { header := "h", lines := [{ name := "a\nb", text := "x", depth := 1 }] }
    r.textLines = ["h", "\ta\nb: x"] ∧
    ¬ ∀ line ∈ r.lines, ∀ before after, line.entry.toList = before ++ '\n' :: after →
      tabs (line.depth + 1) <+: after := by
  intro r
  refine ⟨rfl, fun margin => ?_⟩
  have started := margin _ List.mem_cons_self ['\t', 'a'] "b: x".toList rfl
  revert started
  decide

end Report

end SyscallDecode
