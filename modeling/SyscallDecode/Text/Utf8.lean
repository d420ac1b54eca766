/-
Reading bytes as UTF-8 without ever failing: each ill-formed piece, taken as long as it could
still have become a character, turns into one replacement character.
-/

namespace SyscallDecode.Text

/-- What stands for an ill-formed piece. -/
def replacementChar : Char := '\uFFFD'

/-- A character begun and not finished: how many bytes it still needs, the range of the next
one, and the bits read so far. -/
structure PartialChar where
  missing : Nat
  low : UInt8
  high : UInt8
  bits : Nat
  deriving DecidableEq, Repr

/-- The first byte of a character: what is written at once, and what stays begun. The range of
the second byte leaves out overlong forms, surrogates and what lies past the last code point. -/
def beginChar (b : UInt8) : List Char × Option PartialChar :=
  if b < 0x80 then ([Char.ofNat b.toNat], none)
  else if b < 0xC2 then ([replacementChar], none)
  else if b < 0xE0 then ([], some ⟨1, 0x80, 0xBF, b.toNat % 32⟩)
  else if b == 0xE0 then ([], some ⟨2, 0xA0, 0xBF, b.toNat % 16⟩)
  else if b == 0xED then ([], some ⟨2, 0x80, 0x9F, b.toNat % 16⟩)
  else if b < 0xF0 then ([], some ⟨2, 0x80, 0xBF, b.toNat % 16⟩)
  else if b == 0xF0 then ([], some ⟨3, 0x90, 0xBF, b.toNat % 8⟩)
  else if b < 0xF4 then ([], some ⟨3, 0x80, 0xBF, b.toNat % 8⟩)
  else if b == 0xF4 then ([], some ⟨3, 0x80, 0x8F, b.toNat % 8⟩)
  else ([replacementChar], none)

/-- One more byte. A byte that cannot continue what is begun ends it and begins anew. -/
def feedByte (begun : Option PartialChar) (b : UInt8) : List Char × Option PartialChar :=
  match begun with
  | none => beginChar b
  | some p =>
    if p.low ≤ b ∧ b ≤ p.high then
      let bits := p.bits * 64 + b.toNat % 64
      if p.missing ≤ 1 then ([Char.ofNat bits], none)
      else ([], some ⟨p.missing - 1, 0x80, 0xBF, bits⟩)
    else
      let (written, next) := beginChar b
      (replacementChar :: written, next)

/-- The characters of the bytes, given what was begun before them. -/
def decodeFrom : Option PartialChar → List UInt8 → List Char
  | none, [] => []
  | some _, [] => [replacementChar]
  | begun, b :: bs =>
    let (written, next) := feedByte begun b
    written ++ decodeFrom next bs

/-- The bytes as text. -/
def decodeLossy (bytes : List UInt8) : String :=
  String.ofList (decodeFrom none bytes)

/-! ## Well-formed bytes -/

theorem beginChar_of_two {b : UInt8} (low : 0xC2 ≤ b.toNat) (high : b.toNat < 0xE0) :
    beginChar b = ([], some ⟨1, 0x80, 0xBF, b.toNat % 32⟩) := by
  unfold beginChar
  simp only [UInt8.lt_iff_toNat_lt, beq_iff_eq, ← UInt8.toNat_inj, UInt8.reduceToNat]
  grind

theorem beginChar_of_three {b : UInt8} (low : 0xE0 ≤ b.toNat) (high : b.toNat < 0xF0) :
    beginChar b = ([], some ⟨2, if b.toNat = 0xE0 then 0xA0 else 0x80,
      if b.toNat = 0xED then 0x9F else 0xBF, b.toNat % 16⟩) := by
  unfold beginChar
  simp only [UInt8.lt_iff_toNat_lt, beq_iff_eq, ← UInt8.toNat_inj, UInt8.reduceToNat]
  grind

theorem beginChar_of_four {b : UInt8} (low : 0xF0 ≤ b.toNat) (high : b.toNat < 0xF5) :
    beginChar b = ([], some ⟨3, if b.toNat = 0xF0 then 0x90 else 0x80,
      if b.toNat = 0xF4 then 0x8F else 0xBF, b.toNat % 8⟩) := by
  unfold beginChar
  simp only [UInt8.lt_iff_toNat_lt, beq_iff_eq, ← UInt8.toNat_inj, UInt8.reduceToNat]
  grind

theorem decodeFrom_cons (begun : Option PartialChar) (b : UInt8) (bs : List UInt8) :
    decodeFrom begun (b :: bs) =
      (feedByte begun b).1 ++ decodeFrom (feedByte begun b).2 bs := by
  cases begun <;> rfl

/-- A byte that cannot continue what is begun leaves one replacement for that and begins anew. -/
theorem decodeFrom_restart {p : PartialChar} {b : UInt8} (h : ¬ (p.low ≤ b ∧ b ≤ p.high))
    (bs : List UInt8) :
    decodeFrom (some p) (b :: bs) = replacementChar :: decodeFrom none (b :: bs) := by
  rw [decodeFrom_cons, feedByte, if_neg h]
  rfl

theorem decodeFrom_begin {b : UInt8} {p : PartialChar} (h : beginChar b = ([], some p))
    (rest : List UInt8) : decodeFrom none (b :: rest) = decodeFrom (some p) rest := by
  rw [decodeFrom_cons, feedByte, h, List.nil_append]

/-- A byte in the range that is expected adds its six bits, and the last one ends the character. -/
theorem feedByte_inside {p : PartialChar} {n : Nat} (low : p.low.toNat ≤ n) (high : n ≤ p.high.toNat) :
    feedByte (some p) (UInt8.ofNat n) =
      if p.missing ≤ 1 then ([Char.ofNat (p.bits * 64 + n % 64)], none)
      else ([], some ⟨p.missing - 1, 0x80, 0xBF, p.bits * 64 + n % 64⟩) := by
  have byte : (UInt8.ofNat n).toNat = n :=
    UInt8.toNat_ofNat_of_lt' (Nat.lt_of_le_of_lt high p.high.toNat_lt)
  have inside : p.low ≤ UInt8.ofNat n ∧ UInt8.ofNat n ≤ p.high := by
    rw [UInt8.le_iff_toNat_le, UInt8.le_iff_toNat_le, byte]
    exact ⟨low, high⟩
  rw [feedByte, if_pos inside, byte]

theorem decodeFrom_more {missing bits n : Nat} {low high : UInt8} (above : low.toNat ≤ n % 64 + 128)
    (below : n % 64 + 128 ≤ high.toNat) (rest : List UInt8) :
    decodeFrom (some ⟨missing + 2, low, high, bits⟩) (UInt8.ofNat (n % 64 + 128) :: rest) =
      decodeFrom (some ⟨missing + 1, 0x80, 0xBF, bits * 64 + n % 64⟩) rest := by
  have six : (n % 64 + 128) % 64 = n % 64 := by omega
  have more : ¬ missing + 2 ≤ 1 := by omega
  rw [decodeFrom_cons, feedByte_inside above below, if_neg more, six]
  rfl

theorem decodeFrom_last (bits n : Nat) (rest : List UInt8) :
    decodeFrom (some ⟨1, 0x80, 0xBF, bits⟩) (UInt8.ofNat (n % 64 + 128) :: rest) =
      Char.ofNat (bits * 64 + n % 64) :: decodeFrom none rest := by
  have six : (n % 64 + 128) % 64 = n % 64 := by omega
  have above : (0x80 : UInt8).toNat ≤ n % 64 + 128 := Nat.le_add_left _ _
  have below : n % 64 + 128 ≤ (0xBF : UInt8).toNat := Nat.add_le_add_right (by omega) 128
  rw [decodeFrom_cons, feedByte_inside above below, if_pos (Nat.le_refl 1), six]
  rfl

/-! One lemma for each length that the bytes of a number can have. -/

section Lengths

variable {v : Nat} (rest : List UInt8)

theorem decodeFrom_one (high : v ≤ 0x7F) :
    decodeFrom none (UInt8.ofNat v :: rest) = Char.ofNat v :: decodeFrom none rest := by
  have first : (UInt8.ofNat v).toNat = v := UInt8.toNat_ofNat'.trans (Nat.mod_eq_of_lt (by omega))
  have ascii : UInt8.ofNat v < 0x80 := by
    rw [UInt8.lt_iff_toNat_lt, first]
    exact Nat.lt_succ_of_le high
  rw [decodeFrom_cons, feedByte, beginChar, if_pos ascii, first]
  rfl

theorem decodeFrom_two (low : 0x7F < v) (high : v ≤ 0x7FF) :
    decodeFrom none (UInt8.ofNat (v / 64 % 32 + 192) :: UInt8.ofNat (v % 64 + 128) :: rest) =
      Char.ofNat v :: decodeFrom none rest := by
  have first : (UInt8.ofNat (v / 64 % 32 + 192)).toNat = v / 64 % 32 + 192 :=
    UInt8.toNat_ofNat'.trans (Nat.mod_eq_of_lt (by omega))
  have begun := @beginChar_of_two (UInt8.ofNat (v / 64 % 32 + 192)) (by omega) (by omega)
  have bits : (v / 64 % 32 + 192) % 32 * 64 + v % 64 = v := by omega
  rw [first] at begun
  rw [decodeFrom_begin begun, decodeFrom_last, bits]

theorem decodeFrom_three (low : 0x7FF < v) (high : v ≤ 0xFFFF) (valid : v < 0xD800 ∨ 0xDFFF < v) :
    decodeFrom none (UInt8.ofNat (v / 4096 % 16 + 224) :: UInt8.ofNat (v / 64 % 64 + 128) ::
      UInt8.ofNat (v % 64 + 128) :: rest) = Char.ofNat v :: decodeFrom none rest := by
  have first : (UInt8.ofNat (v / 4096 % 16 + 224)).toNat = v / 4096 % 16 + 224 :=
    UInt8.toNat_ofNat'.trans (Nat.mod_eq_of_lt (by omega))
  have begun := @beginChar_of_three (UInt8.ofNat (v / 4096 % 16 + 224)) (by omega) (by omega)
  have bits : ((v / 4096 % 16 + 224) % 16 * 64 + v / 64 % 64) * 64 + v % 64 = v := by omega
  rw [first] at begun
  rw [decodeFrom_begin begun, decodeFrom_more, decodeFrom_last, bits]
  -- the range of the second byte leaves out what has a shorter form, and the surrogates
  · split
    · simp
      omega
    · simp
  · split <;> simp <;> omega

theorem decodeFrom_four (low : 0xFFFF < v) (high : v < 0x110000) :
    decodeFrom none (UInt8.ofNat (v / 262144 % 8 + 240) :: UInt8.ofNat (v / 4096 % 64 + 128) ::
      UInt8.ofNat (v / 64 % 64 + 128) :: UInt8.ofNat (v % 64 + 128) :: rest) =
      Char.ofNat v :: decodeFrom none rest := by
  have first : (UInt8.ofNat (v / 262144 % 8 + 240)).toNat = v / 262144 % 8 + 240 :=
    UInt8.toNat_ofNat'.trans (Nat.mod_eq_of_lt (by omega))
  have begun := @beginChar_of_four (UInt8.ofNat (v / 262144 % 8 + 240)) (by omega) (by omega)
  have bits : (((v / 262144 % 8 + 240) % 8 * 64 + v / 4096 % 64) * 64 + v / 64 % 64) * 64 +
      v % 64 = v := by omega
  rw [first] at begun
  rw [decodeFrom_begin begun, decodeFrom_more, decodeFrom_more, decodeFrom_last, bits]
  · simp
  · simp
    omega
  · split
    · simp
      omega
    · simp
  · split <;> simp <;> omega

end Lengths

/-- The bytes of a character are read as that character. -/
theorem decodeFrom_utf8EncodeChar (c : Char) (rest : List UInt8) :
    decodeFrom none (String.utf8EncodeChar c ++ rest) = c :: decodeFrom none rest := by
  have valid : c.val.toNat < 0xD800 ∨ 0xDFFF < c.val.toNat ∧ c.val.toNat < 0x110000 := c.valid
  have number : Char.ofNat c.val.toNat = c := Char.ofNat_toNat c
  unfold String.utf8EncodeChar
  dsimp only
  split
  case isTrue one => exact (decodeFrom_one rest one).trans (by rw [number])
  split
  case isTrue two => exact (decodeFrom_two rest (by omega) two).trans (by rw [number])
  split
  case isTrue three =>
    exact (decodeFrom_three rest (by omega) three (by omega)).trans (by rw [number])
  case isFalse four =>
    exact (decodeFrom_four rest (by omega) (by omega)).trans (by rw [number])

/-- The UTF-8 bytes of a text are read as that text. -/
theorem decodeLossy_toUTF8 (text : String) : decodeLossy text.toUTF8.data.toList = text := by
  have read (cs : List Char) : decodeFrom none (cs.flatMap String.utf8EncodeChar) = cs := by
    induction cs with
    | nil => rfl
    | cons c cs ih => rw [List.flatMap_cons, decodeFrom_utf8EncodeChar, ih]
  have bytes : text.toUTF8.data.toList = text.toList.flatMap String.utf8EncodeChar := by
    have encoded := @String.toByteArray_ofList text.toList
    rw [String.ofList_toList] at encoded
    rw [String.toUTF8_eq_toByteArray, encoded, List.utf8Encode, List.data_toByteArray]
  rw [decodeLossy, bytes, read, String.ofList_toList]

end SyscallDecode.Text
