/-
Texts that leave a terminal alone. A control character in a text would move the cursor, change
colours or worse; the only ones that a report may have are line feeds and tabs. Numerals, dumps and
graphic texts have none whatever they are made from, quotes escape all of them, and putting texts
together adds none.
-/
import SyscallDecode.Proofs.Text.Numeral
import SyscallDecode.Text.Box
import SyscallDecode.Text.ByteSize
import SyscallDecode.Text.Dump
import SyscallDecode.Text.Quoted

namespace SyscallDecode.Text

/-! ## Control characters -/

/-- A control character: one before the blank, or one of those from the delete character on. -/
def isControl (c : Char) : Bool :=
  c.toNat < 0x20 || (0x7F ≤ c.toNat && c.toNat < 0xA0)

/-- A character that does nothing to a terminal but to go on to the next line or column. -/
def SafeChar (c : Char) : Prop :=
  isControl c = true → c = '\n' ∨ c = '\t'

/-- Whether a character is safe. -/
def isSafeChar (c : Char) : Bool :=
  !isControl c || c.toNat == 10 || c.toNat == 9

theorem isSafeChar_iff {c : Char} : isSafeChar c = true ↔ SafeChar c := by
  have feed : c.toNat = 10 ↔ c = '\n' := Char.toNat_inj (d := '\n')
  have tab : c.toNat = 9 ↔ c = '\t' := Char.toNat_inj (d := '\t')
  unfold isSafeChar SafeChar
  cases isControl c <;> simp [feed, tab]

instance : DecidablePred SafeChar := fun _ => decidable_of_iff _ isSafeChar_iff

theorem safeChar_of_all {cs : List Char} (h : cs.all isSafeChar = true) :
    ∀ c ∈ cs, SafeChar c :=
  fun c hc => isSafeChar_iff.1 (List.all_eq_true.1 h c hc)

/-- A text of such characters. -/
def Safe (text : String) : Prop :=
  ∀ c ∈ text.toList, SafeChar c

variable {a b : String}

/-! ## Texts put together -/

@[simp] theorem safe_append : Safe (a ++ b) ↔ Safe a ∧ Safe b := by
  simp only [Safe, String.toList_append, List.mem_append, or_imp, forall_and]

@[simp] theorem safe_ofList {cs : List Char} :
    Safe (String.ofList cs) ↔ ∀ c ∈ cs, SafeChar c := by
  rw [Safe, String.toList_ofList]

theorem mem_intercalate {α : Type} {x : α} {sep : List α} :
    ∀ {items : List (List α)}, x ∈ sep.intercalate items → x ∈ sep ∨ ∃ item ∈ items, x ∈ item
  | [], h => by cases h
  | [item], h => .inr ⟨item, List.mem_cons_self, by simpa [List.intercalate] using h⟩
  | item :: next :: rest, h => by
    rw [List.intercalate_cons_cons, List.mem_append, List.mem_append] at h
    rcases h with (h | h) | h
    · exact .inr ⟨item, List.mem_cons_self, h⟩
    · exact .inl h
    · exact (mem_intercalate h).imp_right fun ⟨item', hi, hx⟩ =>
        ⟨item', List.mem_cons_of_mem _ hi, hx⟩

theorem safe_intercalate {sep : String} {items : List String} (hsep : Safe sep)
    (h : ∀ item ∈ items, Safe item) : Safe (sep.intercalate items) := by
  intro c hc
  rw [String.toList_intercalate] at hc
  rcases mem_intercalate hc with hc | ⟨item, hi, hc⟩
  · exact hsep c hc
  · obtain ⟨text, ht, rfl⟩ := List.mem_map.1 hi
    exact h text ht c hc

theorem safe_join {items : List String} (h : ∀ item ∈ items, Safe item) :
    Safe (String.join items) := by
  intro c hc
  rw [String.toList_join] at hc
  obtain ⟨text, ht, hc⟩ := List.mem_flatMap.1 hc
  exact h text ht c hc

/-! ## Texts at hand -/

/-- A byte that is a safe character by itself. -/
def isSafeByte (b : UInt8) : Bool :=
  isGraphic b || b == 10 || b == 9

/-- All bytes of a text are safe. Of a text that is written down this is seen faster than that its
characters are. -/
def allSafeBytes (text : String) : Bool :=
  text.toByteArray.data.toList.all isSafeByte

theorem mem_bytes {text : String} {c : Char} (hc : c ∈ text.toList) {b : UInt8}
    (hb : b ∈ String.utf8EncodeChar c) : b ∈ text.toByteArray.data.toList := by
  rw [← String.utf8Encode_toList, List.utf8Encode, List.data_toByteArray]
  exact List.mem_flatMap.2 ⟨c, hc, hb⟩

theorem toNat_of_isSafeByte {b : UInt8} (h : isSafeByte b = true) :
    (0x20 ≤ b.toNat ∧ b.toNat ≤ 0x7E) ∨ b.toNat = 10 ∨ b.toNat = 9 := by
  simp only [isSafeByte, isGraphic, Bool.or_eq_true, Bool.and_eq_true, decide_eq_true_eq,
    beq_iff_eq] at h
  rcases h with (⟨low, high⟩ | rfl) | rfl
  · exact .inl ⟨UInt8.le_iff_toNat_le.1 low, UInt8.le_iff_toNat_le.1 high⟩
  · exact .inr (.inl rfl)
  · exact .inr (.inr rfl)

theorem safe_of_bytes {text : String} (h : allSafeBytes text = true) : Safe text := by
  intro c hc control
  have bytes : ∀ b ∈ String.utf8EncodeChar c,
      (0x20 ≤ b.toNat ∧ b.toNat ≤ 0x7E) ∨ b.toNat = 10 ∨ b.toNat = 9 :=
    fun b hb => toNat_of_isSafeByte (List.all_eq_true.1 h b (mem_bytes hc hb))
  have value : c.val.toNat = c.toNat := rfl
  simp only [isControl, Bool.or_eq_true, Bool.and_eq_true, decide_eq_true_eq] at control
  unfold String.utf8EncodeChar at bytes
  dsimp only at bytes
  -- a control character is one byte below the blank or the delete byte, or else two bytes
  split at bytes
  · have byte := bytes _ (List.mem_singleton.2 rfl)
    rw [UInt8.toNat_ofNat'] at byte
    rcases (by omega : c.toNat = 10 ∨ c.toNat = 9) with feed | tab
    · exact .inl (Char.toNat_inj.1 feed)
    · exact .inr (Char.toNat_inj.1 tab)
  split at bytes
  · have byte := bytes _ List.mem_cons_self
    rw [UInt8.toNat_ofNat'] at byte
    omega
  · omega

/-- A safe text behind one that is written down. -/
theorem safe_behind {front text : String} (hf : allSafeBytes front = true) (h : Safe text) :
    Safe (front ++ text) :=
  safe_append.2 ⟨safe_of_bytes hf, h⟩

/-! ## Numerals -/

theorem safeChar_digitChar : ∀ d < 16, SafeChar (Nat.digitChar d) := by
  decide

theorem safeChar_toDigits {base : Nat} (h : 1 < base) (h' : base ≤ 16) (n : Nat) :
    ∀ c ∈ Nat.toDigits base n, SafeChar c := by
  intro c hc
  obtain ⟨d, small, rfl⟩ := mem_toDigits h n c hc
  exact safeChar_digitChar d (Nat.lt_of_lt_of_le small h')

@[simp] theorem safe_hex (n : Nat) : Safe (hex n) :=
  safe_ofList.2 (safeChar_toDigits (by decide) (by decide) n)

@[simp] theorem safe_hexMarked (n : Nat) : Safe (hexMarked n) :=
  safe_behind rfl (safe_hex n)

@[simp] theorem safe_hexPadded (digits n : Nat) : Safe (hexPadded digits n) := by
  refine safe_ofList.2 fun c hc => ?_
  rw [List.leftpad] at hc
  rcases List.mem_append.1 hc with hc | hc
  · rw [(List.mem_replicate.1 hc).2]
    decide
  · exact safeChar_toDigits (by decide) (by decide) n c hc

@[simp] theorem safe_repr (n : Nat) : Safe n.repr := by
  rw [Nat.repr_eq_ofList_toDigits]
  exact safe_ofList.2 (safeChar_toDigits (by decide) (by decide) n)

theorem safe_toString_int (n : Int) : Safe (toString n) := by
  cases n with
  | ofNat n => exact safe_repr n
  | negSucc n => exact safe_behind rfl (safe_repr (n + 1))

/-! ## Quotes, dumps and sizes -/

/-- A character that is visible is no control character. -/
theorem safeChar_of_isVisible {c : Char} (h : isVisible c = true) : SafeChar c := by
  intro control
  unfold isVisible at h
  have delete : (0x7F, 0xA0) ∈ invisibleRanges := List.mem_cons_self
  have invisible : 0x7F ≤ c.toNat ∧ c.toNat < 0xA0 → inRanges invisibleRanges c.toNat = true :=
    fun range => (inRanges_iff _ _).2 ⟨_, delete, range.1, Nat.le_of_lt range.2⟩
  simp only [isControl, Bool.or_eq_true, Bool.and_eq_true, decide_eq_true_eq] at control
  rcases control with low | high
  · rw [if_pos low] at h
    cases h
  · rw [if_neg (by omega), if_neg (by omega), invisible high] at h
    cases h

theorem safeChar_escapeChar (c : Char) : ∀ d ∈ escapeChar c, SafeChar d := by
  unfold escapeChar
  split
  · exact safeChar_of_all rfl
  split
  · exact safeChar_of_all rfl
  split
  · exact safeChar_of_all rfl
  split
  · exact safeChar_of_all rfl
  split
  · exact safeChar_of_all rfl
  split
  · exact safeChar_of_all rfl
  split
  · intro d hd
    simp only [List.mem_append] at hd
    rcases hd with (hd | hd) | hd
    · exact safeChar_of_all rfl d hd
    · exact safeChar_toDigits (by decide) (by decide) _ d hd
    · exact safeChar_of_all rfl d hd
  · next visible =>
    intro d hd
    rw [List.mem_singleton.1 hd]
    simp only [Bool.or_eq_true, Bool.not_eq_true', not_or, Bool.not_eq_false] at visible
    exact safeChar_of_isVisible visible.2

/-- Whatever a text is, it can be quoted. -/
@[simp] theorem safe_quote (text : String) : Safe (quote text) := by
  refine safe_ofList.2 fun c hc => ?_
  simp only [List.mem_append, List.mem_flatMap, List.mem_singleton] at hc
  rcases hc with (rfl | ⟨d, -, hc⟩) | rfl
  · decide
  · exact safeChar_escapeChar d c hc
  · decide

theorem safeChar_graphicChar (b : UInt8) : SafeChar (graphicChar b) := by
  have all : ∀ n : Fin 256, SafeChar (graphicChar (UInt8.ofFin n)) := by decide +kernel
  exact all b.toFin

@[simp] theorem safe_graphicText (bytes : List UInt8) : Safe (graphicText bytes) := by
  refine safe_ofList.2 fun c hc => ?_
  obtain ⟨b, -, rfl⟩ := List.mem_map.1 hc
  exact safeChar_graphicChar b

@[simp] theorem safe_hexDump (bytes : List UInt8) : Safe (hexDump bytes) := by
  refine safe_intercalate (safe_of_bytes rfl) fun item hi => ?_
  obtain ⟨b, -, rfl⟩ := List.mem_map.1 hi
  refine safe_ofList.2 fun c hc => ?_
  simp only [hexPair, List.mem_cons, List.not_mem_nil, or_false] at hc
  have small := b.toNat_lt
  rcases hc with rfl | rfl <;> exact safeChar_digitChar _ (by omega)

@[simp] theorem safe_byteSize (n : Nat) : Safe (byteSize n) := by
  unfold byteSize
  dsimp only
  split
  · next unit name found =>
    have names : ∀ unit ∈ sizeUnits, allSafeBytes unit.2 := by decide
    have named := safe_of_bytes (names _ (List.mem_of_find?_eq_some found))
    simp (disch := decide) [safe_of_bytes, tenthsText, named]
  · simp (disch := decide) [safe_of_bytes]

/-! ## Tables -/

theorem safe_splitLines {cs : List Char} (h : ∀ c ∈ cs, SafeChar c) :
    (∀ c ∈ (splitLines cs).1, SafeChar c) ∧
      ∀ line ∈ (splitLines cs).2, ∀ c ∈ line, SafeChar c := by
  induction cs with
  | nil => exact ⟨h, fun _ hl => by cases hl⟩
  | cons c cs ih =>
    obtain ⟨first, rest⟩ := ih fun d hd => h d (List.mem_cons_of_mem _ hd)
    rw [splitLines]
    dsimp only
    split
    · exact ⟨fun _ hd => (List.not_mem_nil hd).elim, List.forall_mem_cons.2 ⟨first, rest⟩⟩
    · exact ⟨List.forall_mem_cons.2 ⟨h c List.mem_cons_self, first⟩, rest⟩

/-- The lines of a text are safe when the text is. -/
theorem safe_lines {text : String} (h : Safe text) : ∀ line ∈ lines text, Safe line := by
  obtain ⟨first, rest⟩ := safe_splitLines h
  intro line hl
  obtain ⟨cs, hcs, rfl⟩ := List.mem_map.1 hl
  rcases List.mem_cons.1 hcs with rfl | hcs
  · exact safe_ofList.2 first
  · exact safe_ofList.2 (rest cs hcs)

namespace Box

theorem safe_replicate {c : Char} (h : SafeChar c) (n : Nat) :
    Safe (String.ofList (List.replicate n c)) := by
  refine safe_ofList.2 fun d hd => ?_
  rwa [(List.mem_replicate.1 hd).2]

theorem safe_pad {line : String} (h : Safe line) (columnWidth : Nat) :
    Safe (pad columnWidth line) := by
  unfold pad blanks
  simp only [safe_append]
  exact ⟨⟨⟨safe_of_bytes rfl, h⟩, safe_replicate (by decide) _⟩, safe_of_bytes rfl⟩

theorem safe_rowLine {r : Row} (h : ∀ cell ∈ r, ∀ line ∈ cell, Safe line) (widths : List Nat)
    (i : Nat) : Safe (rowLine widths r i) := by
  have parts : ∀ part ∈ List.zipWith (fun w (cell : Cell) => pad w (cell.getD i "")) widths r,
      Safe part := by
    intro part hp
    rw [← List.map_uncurry_zip_eq_zipWith] at hp
    obtain ⟨⟨w, cell⟩, hz, rfl⟩ := List.mem_map.1 hp
    refine safe_pad ?_ w
    rw [List.getD_eq_getElem?_getD]
    cases line : cell[i]? with
    | none => exact safe_of_bytes rfl
    | some line' => exact h cell (List.of_mem_zip hz).2 line' (List.mem_of_getElem? line)
  unfold rowLine
  simp only [safe_append]
  exact ⟨⟨safe_of_bytes rfl, safe_intercalate (safe_of_bytes rfl) parts⟩, safe_of_bytes rfl⟩

theorem safe_edge {corner : String} (h : Safe corner) (widths : List Nat) :
    Safe (edge corner widths) := by
  unfold edge
  simp only [safe_append]
  exact ⟨⟨h, safe_replicate (by decide) _⟩, h⟩

/-- A table is safe when its cells are. -/
theorem safe_draw {rows : List Row} (h : ∀ r ∈ rows, ∀ cell ∈ r, ∀ line ∈ cell, Safe line) :
    Safe (draw rows) := by
  refine safe_intercalate (safe_of_bytes rfl) fun line hl => ?_
  simp only [List.mem_append, List.mem_singleton, List.mem_flatMap] at hl
  rcases hl with (rfl | ⟨r, hr, hl⟩) | rfl
  · exact safe_edge (safe_of_bytes rfl) _
  · obtain ⟨i, -, rfl⟩ := List.mem_map.1 hl
    exact safe_rowLine (h r hr) _ i
  · exact safe_edge (safe_of_bytes rfl) _

end Box

-- from here on texts are seen to be safe by the lemmas above or by their bytes
attribute [irreducible] Safe

end SyscallDecode.Text
