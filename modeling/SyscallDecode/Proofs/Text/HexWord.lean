/-
Hexadecimal words as they are spelled: one mark or none, one plus sign or none, and at least one digit
of either case. A word is read exactly when its text is spelled like this and its number fits; zeros
in front are digits like the others. The words that are written have the mark and lower-case digits.
-/
import Mathlib.Data.Nat.Digits.Defs
import Mathlib.Tactic.Ring
import SyscallDecode.Proofs.Text.Numeral

namespace SyscallDecode.Text

/-! ## Digits -/

/-- The character is the digit of this value, in lower or in upper case. -/
def HexDigit (c : Char) (d : Nat) : Prop :=
  "0123456789abcdef".toList[d]? = some c ∨ "0123456789ABCDEF".toList[d]? = some c

instance (c : Char) (d : Nat) : Decidable (HexDigit c d) :=
  inferInstanceAs (Decidable (_ ∨ _))

/-- The characters are digits, the highest first, of this number. -/
def HexDigits (digits : List Char) (n : Nat) : Prop :=
  ∃ ds, List.Forall₂ HexDigit digits ds ∧ Nat.ofDigits 16 ds.reverse = n

variable {c : Char} {d n value bound : Nat} {cs digits : List Char}

/-- What holds of both rows of digits holds of every digit. -/
theorem HexDigit.of_rows {P : Char → Nat → Prop} (h : HexDigit c d)
    (lower : ∀ entry ∈ "0123456789abcdef".toList.zipIdx, P entry.1 entry.2)
    (upper : ∀ entry ∈ "0123456789ABCDEF".toList.zipIdx, P entry.1 entry.2) : P c d := by
  rcases h with low | up
  · exact lower (c, d) (List.mk_mem_zipIdx_iff_getElem?.2 low)
  · exact upper (c, d) (List.mk_mem_zipIdx_iff_getElem?.2 up)

theorem HexDigit.isPunctuation (h : HexDigit c d) : isPunctuation c = false :=
  h.of_rows (P := fun c _ => Text.isPunctuation c = false) (by decide) (by decide)

/-- A reader knows the digits and their values, and takes nothing else for a digit. -/
theorem digitValue?_eq_some_iff : digitValue? 16 c = some d ↔ HexDigit c d := by
  constructor
  · intro read
    have ascii : ∀ n < 128, ∀ d ∈ digitValue? 16 (Char.ofNat n), HexDigit (Char.ofNat n) d := by
      decide +kernel
    have small : c.toNat < 128 := by
      unfold digitValue? at read
      simp only [Option.filter_eq_some_iff] at read
      grind
    have table := ascii c.toNat small
    rw [Char.ofNat_toNat] at table
    exact table d read
  · exact fun h => h.of_rows (P := fun c d => digitValue? 16 c = some d) (by decide) (by decide)

/-! ## Numbers -/

theorem digits_of_readDigits (h : readDigits 16 bound value cs = .ok n) :
    ∃ ds, List.Forall₂ HexDigit cs ds := by
  induction cs generalizing value with
  | nil => exact ⟨[], .nil⟩
  | cons c cs ih =>
    rw [readDigits] at h
    split at h
    · cases h
    · next d read =>
      split at h
      · obtain ⟨ds, digits⟩ := ih h
        exact ⟨d :: ds, .cons (digitValue?_eq_some_iff.1 read) digits⟩
      · cases h

/-- Digits are read behind a value as behind one more digit, up to the bound. -/
theorem readDigits_of_digits {ds : List Nat} (h : List.Forall₂ HexDigit cs ds)
    (small : value < bound) :
    readDigits 16 bound value cs =
      if Nat.ofDigits 16 (value :: ds).reverse < bound then
        .ok (Nat.ofDigits 16 (value :: ds).reverse)
      else .error .tooLarge := by
  induction h generalizing value with
  | nil => simp [readDigits, small]
  | @cons c d cs ds digit _ ih =>
    -- the digit joins the value, and the others are read behind both
    have joined : Nat.ofDigits 16 (value :: d :: ds).reverse =
        Nat.ofDigits 16 ((value * 16 + d) :: ds).reverse := by
      simp only [Nat.ofDigits_reverse_cons, List.length_cons, pow_succ]
      ring
    have least : value * 16 + d ≤ Nat.ofDigits 16 ((value * 16 + d) :: ds).reverse := by
      rw [Nat.ofDigits_reverse_cons]
      exact Nat.le_add_left_of_le (Nat.le_mul_of_pos_left _ (by positivity))
    rw [readDigits, digitValue?_eq_some_iff.2 digit, joined]
    dsimp only
    split
    · next fits => exact ih fits
    · next large => rw [if_neg (by omega)]

theorem readDigits_eq_ok_iff (some : 0 < bound) :
    readDigits 16 bound 0 cs = .ok n ↔ HexDigits cs n ∧ n < bound := by
  constructor
  · intro read
    obtain ⟨ds, digits⟩ := digits_of_readDigits read
    rw [readDigits_of_digits digits some, Nat.ofDigits_reverse_zero_cons] at read
    split at read
    · next fits =>
      cases read
      exact ⟨⟨ds, digits, rfl⟩, fits⟩
    · cases read
  · rintro ⟨⟨ds, digits, rfl⟩, fits⟩
    rw [readDigits_of_digits digits some, Nat.ofDigits_reverse_zero_cons, if_pos fits]

/-! ## Words -/

/-- The text is a hexadecimal word: one mark or none, one plus sign or none, and then digits of this
number, at least one. -/
def SpellsHex (cs : List Char) (n : Nat) : Prop :=
  ∃ mark ∈ ["", "0x", "0X"], ∃ sign ∈ ["", "+"], ∃ digits,
    cs = mark.toList ++ sign.toList ++ digits ∧ digits ≠ [] ∧ HexDigits digits n

theorem HexDigits.not_punctuation (h : HexDigits digits n) :
    ∀ c ∈ digits, isPunctuation c = false := by
  obtain ⟨ds, digits, -⟩ := h
  induction digits with
  | nil => simp
  | cons digit _ ih => exact List.forall_mem_cons.2 ⟨digit.isPunctuation, ih⟩

/-- A numeral is one plus sign or none, and then digits. -/
theorem readUnsigned_eq_ok_iff (some : 0 < bound) :
    readUnsigned 16 bound cs = .ok n ↔
      (∃ sign ∈ ["", "+"], ∃ digits, cs = sign.toList ++ digits ∧ digits ≠ [] ∧
        HexDigits digits n) ∧ n < bound := by
  have plus : isPunctuation '+' = true := by decide
  constructor
  · intro read
    unfold readUnsigned at read
    split at read
    · cases read
    · cases read
    · next digits more =>
      obtain ⟨number, fits⟩ := (readDigits_eq_ok_iff some).1 read
      refine ⟨⟨"+", by simp, digits, rfl, ?_, number⟩, fits⟩
      rintro rfl
      exact more rfl
    · next more _ _ =>
      obtain ⟨number, fits⟩ := (readDigits_eq_ok_iff some).1 read
      exact ⟨⟨"", by simp, cs, rfl, more, number⟩, fits⟩
  · rintro ⟨⟨sign, known, digits, rfl, more, number⟩, fits⟩
    have read := (readDigits_eq_ok_iff some).2 ⟨number, fits⟩
    simp only [List.mem_cons, List.not_mem_nil, or_false] at known
    rcases known with rfl | rfl
    · exact (readUnsigned_of_digits more number.not_punctuation).trans read
    · obtain ⟨c, digits, rfl⟩ := List.exists_cons_of_ne_nil more
      exact read

/-- What stands in front of the rest is the mark, if there is one. -/
theorem exists_mark (cs : List Char) :
    ∃ mark ∈ ["", "0x", "0X"], cs = mark.toList ++ dropHexMark cs := by
  unfold dropHexMark
  split
  · exact ⟨"0x", by simp, rfl⟩
  · exact ⟨"0X", by simp, rfl⟩
  · exact ⟨"", by simp, rfl⟩

/-- No second mark is taken off: neither a sign nor digits begin with one. -/
theorem dropHexMark_append {mark sign : String} (known : mark ∈ ["", "0x", "0X"])
    (known' : sign ∈ ["", "+"]) (h : ∀ c ∈ digits, isPunctuation c = false) :
    dropHexMark (mark.toList ++ sign.toList ++ digits) = sign.toList ++ digits := by
  simp only [List.mem_cons, List.not_mem_nil, or_false] at known known'
  rcases known with rfl | rfl | rfl
  · rcases known' with rfl | rfl
    · exact dropHexMark_of_not_marked h
    · rfl
  · rfl
  · rfl

/-- A word is read from the texts that spell it, and from no others. -/
theorem readHexWord_eq_ok_iff {value : UInt64} :
    readHexWord cs = .ok value ↔ SpellsHex cs value.toNat := by
  have some : 0 < UInt64.size := by decide
  have word : readHexWord cs = .ok value ↔
      readUnsigned 16 UInt64.size (dropHexMark cs) = .ok value.toNat := by
    unfold readHexWord
    cases read : readUnsigned 16 UInt64.size (dropHexMark cs) with
    | error fault => exact iff_of_false nofun nofun
    | ok n =>
      have fits := ((readUnsigned_eq_ok_iff some).1 read).2
      have same : (UInt64.ofNat n).toNat = n := by
        rw [UInt64.toNat_ofNat', Nat.mod_eq_of_lt fits]
      simp only [Except.map, Except.ok.injEq]
      rw [← UInt64.toNat_inj, same]
  rw [word, readUnsigned_eq_ok_iff some, and_iff_left value.toNat_lt_size]
  constructor
  · rintro ⟨sign, known, digits, rest, spelled⟩
    obtain ⟨mark, known', text⟩ := exists_mark cs
    refine ⟨mark, known', sign, known, digits, ?_, spelled⟩
    rw [List.append_assoc, ← rest]
    exact text
  · rintro ⟨mark, known, sign, known', digits, rfl, more, number⟩
    rw [dropHexMark_append known known' number.not_punctuation]
    exact ⟨sign, known', digits, rfl, more, number⟩

/-! ## Written words -/

/-- The text is the mark and so many lower-case digits of this number. -/
def WrittenHex (length n : Nat) (text : String) : Prop :=
  ∃ digits, text = "0x" ++ String.ofList digits ∧ digits.length = length ∧ HexDigits digits n ∧
    ∀ c ∈ digits, c ∈ "0123456789abcdef".toList

theorem hexDigits_toDigits (n : Nat) : HexDigits (Nat.toDigits 16 n) n :=
  ((readDigits_eq_ok_iff (Nat.succ_pos n)).1 (readDigits_toDigits n (Nat.lt_succ_self n))).1

theorem lower_toDigits (n : Nat) : ∀ c ∈ Nat.toDigits 16 n, c ∈ "0123456789abcdef".toList := by
  have row : ∀ d < 16, Nat.digitChar d ∈ "0123456789abcdef".toList := by
    decide
  intro c hc
  obtain ⟨d, small, rfl⟩ := mem_toDigits (by decide) n c hc
  exact row d small

/-- Zeros in front of a number do not change it. -/
theorem HexDigits.zeros (h : HexDigits digits n) (count : Nat) :
    HexDigits (List.replicate count '0' ++ digits) n := by
  induction count with
  | zero => exact h
  | succ count ih =>
    obtain ⟨ds, digits, rfl⟩ := ih
    exact ⟨0 :: ds, .cons (.inl rfl) digits, Nat.ofDigits_reverse_zero_cons ds⟩

theorem writtenHex_hexMarked (n : Nat) : ∃ length, WrittenHex length n (hexMarked n) :=
  ⟨_, Nat.toDigits 16 n, rfl, rfl, hexDigits_toDigits n, lower_toDigits n⟩

/-- A word that is filled up has all its digits. -/
theorem writtenHex_hexPadded {length : Nat} (short : (Nat.toDigits 16 n).length ≤ length) :
    WrittenHex length n ("0x" ++ hexPadded length n) := by
  refine ⟨(Nat.toDigits 16 n).leftpad length '0', rfl, ?_, ?_, ?_⟩
  · rw [List.length_leftpad, Nat.max_eq_left short]
  · exact (hexDigits_toDigits n).zeros _
  · have zero : '0' ∈ "0123456789abcdef".toList := by
      decide
    intro c hc
    rcases List.mem_append.1 hc with front | digit
    · rwa [List.eq_of_mem_replicate front]
    · exact lower_toDigits n c digit

end SyscallDecode.Text
