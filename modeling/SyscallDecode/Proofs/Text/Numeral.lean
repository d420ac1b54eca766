/-
Hexadecimal numerals that are written and read again. The digits of a number read as that number,
whatever bound it is below; white space, the mark and the sign do not come among them.
-/
import SyscallDecode.Text.Blank
import SyscallDecode.Text.Numeral

namespace SyscallDecode.Text

/-! ## Digits -/

/-- The digits of a number are digits of its base. -/
theorem mem_toDigits {base : Nat} (h : 1 < base) (n : Nat) :
    ∀ c ∈ Nat.toDigits base n, ∃ d < base, c = Nat.digitChar d := by
  induction n using Nat.strongRecOn with
  | ind n ih =>
    intro c hc
    rw [Nat.toDigits_eq_if h] at hc
    split at hc
    · next small => exact ⟨n, small, List.mem_singleton.1 hc⟩
    · next large =>
      rcases List.mem_append.1 hc with front | last
      · exact ih (n / base) (Nat.div_lt_self (by omega) h) c front
      · exact ⟨n % base, Nat.mod_lt n (by omega), List.mem_singleton.1 last⟩

theorem digitValue?_digitChar : ∀ d < 16, digitValue? 16 (Nat.digitChar d) = some d := by
  decide

/-- What a reader of hexadecimal numerals takes for something else than a digit. -/
def isPunctuation (c : Char) : Bool :=
  isBlank c || c == '+' || c == '-' || c == 'x' || c == 'X'

theorem isPunctuation_digitChar : ∀ d < 16, isPunctuation (Nat.digitChar d) = false := by
  decide

theorem isPunctuation_of_mem_toDigits {n : Nat} {c : Char} (h : c ∈ Nat.toDigits 16 n) :
    isPunctuation c = false := by
  obtain ⟨d, small, rfl⟩ := mem_toDigits (by decide) n c h
  exact isPunctuation_digitChar d small

/-! ## Decimal numerals -/

theorem toList_toString (n : Nat) : (toString n).toList = Nat.toDigits 10 n := by
  rw [Nat.toString_eq_repr, Nat.toList_repr]

theorem isDigit_of_mem_toString {n : Nat} {c : Char} (h : c ∈ (toString n).toList) :
    c.isDigit = true := by
  rw [toList_toString] at h
  exact Nat.isDigit_of_mem_toDigits (by decide) (by decide) h

theorem toString_inj {n m : Nat} (h : toString n = toString m) : n = m := by
  have digits := congrArg String.toList h
  rw [toList_toString, toList_toString] at digits
  have value := congrArg (Nat.ofDigitChars 10 · 0) digits
  simpa only [Nat.ofDigitChars_toDigits (by decide : 1 < 10) (by decide : 10 ≤ 10)] using value

/-- A number is told by its numeral, whatever comes behind the next character that is no digit. -/
theorem toString_append_inj {n m : Nat} {c : Char} (other : c.isDigit = false)
    {rest rest' : List Char}
    (h : (toString n).toList ++ c :: rest = (toString m).toList ++ c :: rest') : n = m := by
  have front (n : Nat) (rest : List Char) :
      ((toString n).toList ++ c :: rest).takeWhile Char.isDigit = (toString n).toList := by
    rw [List.takeWhile_append_of_pos fun _ => isDigit_of_mem_toString,
      List.takeWhile_cons_of_neg (by simp [other]), List.append_nil]
  have digits := congrArg (List.takeWhile Char.isDigit) h
  rw [front, front] at digits
  exact toString_inj (String.toList_inj.1 digits)

theorem toList_toString_negSucc (n : Nat) :
    (toString (Int.negSucc n)).toList = '-' :: (toString (n + 1)).toList := by
  have text : toString (Int.negSucc n) = "-" ++ toString (n + 1) := rfl
  rw [text, String.toList_append]
  rfl

/-- The sign tells a negative number from the others. -/
theorem toString_int_append_inj {i j : Int} {c : Char} (other : c.isDigit = false)
    {rest rest' : List Char}
    (h : (toString i).toList ++ c :: rest = (toString j).toList ++ c :: rest') : i = j := by
  have unsigned {n : Nat} {rest tail : List Char} :
      (toString n).toList ++ c :: rest ≠ '-' :: tail := by
    intro same
    obtain ⟨d, ds, digits⟩ := List.exists_cons_of_ne_nil (Nat.toDigits_ne_nil (n := n) (b := 10))
    have digit : d.isDigit = true :=
      isDigit_of_mem_toString (n := n) (by rw [toList_toString, digits]; exact List.mem_cons_self)
    rw [toList_toString, digits] at same
    cases same
    exact absurd digit (by decide)
  cases i with
  | ofNat n =>
    cases j with
    | ofNat m => exact congrArg Int.ofNat (toString_append_inj other h)
    | negSucc m =>
      rw [toList_toString_negSucc] at h
      exact absurd h unsigned
  | negSucc n =>
    cases j with
    | ofNat m =>
      rw [toList_toString_negSucc] at h
      exact absurd h.symm unsigned
    | negSucc m =>
      rw [toList_toString_negSucc, toList_toString_negSucc] at h
      have same := toString_append_inj other (List.cons.inj h).2
      rw [Nat.succ.inj same]

/-! ## Characters of no numeral -/

/-- A character that no numeral has: not the sign, not the mark and not a digit. -/
def Foreign (c : Char) : Prop :=
  c ≠ '-' ∧ c ≠ 'x' ∧ ∀ d < 16, Nat.digitChar d ≠ c

instance (c : Char) : Decidable (Foreign c) :=
  inferInstanceAs (Decidable (_ ∧ _))

variable {c : Char}

theorem notMem_toDigits (foreign : Foreign c) {base : Nat} (h : 1 < base) (h' : base ≤ 16)
    (n : Nat) : c ∉ Nat.toDigits base n := by
  intro digit
  obtain ⟨d, small, same⟩ := mem_toDigits h n c digit
  exact foreign.2.2 d (Nat.lt_of_lt_of_le small h') same.symm

theorem notMem_toString (foreign : Foreign c) (n : Nat) : c ∉ (toString n).toList := by
  rw [toList_toString]
  exact notMem_toDigits foreign (by decide) (by decide) n

theorem notMem_toString_int (foreign : Foreign c) (i : Int) : c ∉ (toString i).toList := by
  cases i with
  | ofNat n => exact notMem_toString foreign n
  | negSucc n =>
    rw [toList_toString_negSucc, List.mem_cons, not_or]
    exact ⟨foreign.1, notMem_toString foreign _⟩

theorem notMem_hexMarked (foreign : Foreign c) (n : Nat) : c ∉ (hexMarked n).toList := by
  have mark : "0x".toList = [Nat.digitChar 0, 'x'] := rfl
  simp only [hexMarked, hex, String.toList_append, String.toList_ofList, mark, List.mem_append,
    List.mem_cons, List.not_mem_nil, or_false]
  rintro ((zero | letter) | digit)
  · exact foreign.2.2 0 (by decide) zero.symm
  · exact foreign.2.1 letter
  · exact notMem_toDigits foreign (by decide) (by decide) n digit

/-! ## Reading digits -/

theorem readDigits_append (base bound value : Nat) (cs ds : List Char) :
    readDigits base bound value (cs ++ ds) =
      (readDigits base bound value cs).bind fun value => readDigits base bound value ds := by
  induction cs generalizing value with
  | nil => rfl
  | cons c cs ih =>
    rw [List.cons_append, readDigits, readDigits]
    split
    · rfl
    · split
      · exact ih _
      · rfl

/-- The digits of a number below the bound read as that number. -/
theorem readDigits_toDigits {bound : Nat} (n : Nat) (h : n < bound) :
    readDigits 16 bound 0 (Nat.toDigits 16 n) = .ok n := by
  induction n using Nat.strongRecOn with
  | ind n ih =>
    -- the last digit is read after the number that the digits before it stand for
    have last {value : Nat} (small : value * 16 + n % 16 < bound) :
        readDigits 16 bound value [Nat.digitChar (n % 16)] = .ok (value * 16 + n % 16) := by
      simp only [readDigits, digitValue?_digitChar _ (Nat.mod_lt n (by decide : 16 > 0)), small,
        if_true]
    rw [Nat.toDigits_eq_if (by decide)]
    split
    · next small =>
      have single := @last 0 (by omega)
      rw [Nat.mod_eq_of_lt small, Nat.zero_mul, Nat.zero_add] at single
      exact single
    · next large =>
      have parts : n / 16 * 16 + n % 16 = n := Nat.div_add_mod' n 16
      rw [readDigits_append, ih (n / 16) (by omega) (by omega)]
      refine (last (by omega)).trans ?_
      rw [parts]

/-- Numbers with the same digits are the same. -/
theorem toDigits_inj {n m : Nat} (h : Nat.toDigits 16 n = Nat.toDigits 16 m) : n = m := by
  have read := @readDigits_toDigits (max n m + 1) n (by omega)
  rw [h, readDigits_toDigits m (by omega)] at read
  exact (Except.ok.inj read).symm

theorem hexMarked_inj {n m : Nat} (h : hexMarked n = hexMarked m) : n = m := by
  unfold hexMarked hex at h
  rw [String.append_right_inj, String.ofList_inj] at h
  exact toDigits_inj h

/-! ## Reading words -/

theorem dropHexMark_of_not_marked {cs : List Char} (h : ∀ c ∈ cs, isPunctuation c = false) :
    dropHexMark cs = cs := by
  unfold dropHexMark
  split
  · exact absurd (h 'x' (by simp)) (by decide)
  · exact absurd (h 'X' (by simp)) (by decide)
  · rfl

theorem readUnsigned_of_digits {base bound : Nat} {cs : List Char} (some : cs ≠ [])
    (h : ∀ c ∈ cs, isPunctuation c = false) :
    readUnsigned base bound cs = readDigits base bound 0 cs := by
  unfold readUnsigned
  split
  · exact absurd rfl some
  · exact absurd (h '+' (by simp)) (by decide)
  · exact absurd (h '+' (by simp)) (by decide)
  · rfl

/-- A word reads back from its digits. -/
theorem readHexWord_toDigits (value : UInt64) :
    readHexWord (Nat.toDigits 16 value.toNat) = .ok value := by
  unfold readHexWord
  rw [dropHexMark_of_not_marked fun _ => isPunctuation_of_mem_toDigits,
    readUnsigned_of_digits Nat.toDigits_ne_nil fun _ => isPunctuation_of_mem_toDigits,
    readDigits_toDigits _ value.toNat_lt_size]
  simp [Except.map]

/-- The mark in front of the digits changes nothing. -/
theorem readHexWord_hexMarked (value : UInt64) :
    readHexWord (hexMarked value.toNat).toList = .ok value := by
  have digits := readHexWord_toDigits value
  unfold readHexWord at digits ⊢
  rw [dropHexMark_of_not_marked fun _ => isPunctuation_of_mem_toDigits] at digits
  have dropped : dropHexMark (hexMarked value.toNat).toList = Nat.toDigits 16 value.toNat := by
    simp only [hexMarked, hex, String.toList_append, String.toList_ofList]
    rfl
  rw [dropped, digits]

/-- A text without white space has none to trim. -/
theorem trim_of_not_blank {cs : List Char} (h : ∀ c ∈ cs, isBlank c = false) : trim cs = cs := by
  have front {ds : List Char} (h : ∀ c ∈ ds, isBlank c = false) : ds.dropWhile isBlank = ds := by
    cases ds with
    | nil => rfl
    | cons d ds => exact List.dropWhile_cons_of_neg (by simp [h d List.mem_cons_self])
  unfold trim
  rw [front h, front fun c hc => h c (List.mem_reverse.1 hc), List.reverse_reverse]

theorem trim_toDigits (n : Nat) : trim (Nat.toDigits 16 n) = Nat.toDigits 16 n := by
  apply trim_of_not_blank
  intro c hc
  have plain := isPunctuation_of_mem_toDigits hc
  simp only [isPunctuation, Bool.or_eq_false_iff] at plain
  exact plain.1.1.1.1

end SyscallDecode.Text
