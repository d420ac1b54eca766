/-
What the text of an address tells of its length. An address is shown with the bytes that its length
allows, and a length beyond that of the longest address is told behind them. Where memory is made of
single bytes the text of an address within its length is never that of a longer one with such a word
behind it, so that a length beyond the longest address always shows.
-/
import SyscallDecode.Proofs.Target.Bytes
import SyscallDecode.Proofs.Text.Dump
import SyscallDecode.Socket.Address

namespace SyscallDecode.Socket

open SyscallDecode.Text

/-! ## Texts that end in no bracket -/

/-- The text has a last character, which is no closing bracket. -/
def Unclosed (text : String) : Prop :=
  ∃ front c, text.toList = front ++ [c] ∧ c ≠ ')'

theorem Unclosed.append (front : String) {text : String} (h : Unclosed text) :
    Unclosed (front ++ text) := by
  obtain ⟨cs, c, last, other⟩ := h
  refine ⟨front.toList ++ cs, c, ?_, other⟩
  rw [String.toList_append, last, List.append_assoc]

theorem unclosed_of_notMem {text : String} (some : text.toList ≠ [])
    (h : ')' ∉ text.toList) : Unclosed text :=
  ⟨_, _, (List.dropLast_concat_getLast some).symm, fun last => h (last ▸ List.getLast_mem some)⟩

theorem Unclosed.ne_append {text : String} (h : Unclosed text) (front : String) :
    text ≠ front ++ ")" := by
  obtain ⟨cs, c, last, other⟩ := h
  rintro rfl
  rw [String.toList_append] at last
  exact other (List.singleton_inj.1 (List.append_inj' last rfl).2).symm

theorem unclosed_toString (n : Nat) : Unclosed (toString n) := by
  refine unclosed_of_notMem ?_ fun bracket => ?_
  · rw [toList_toString]
    exact Nat.toDigits_ne_nil
  · exact absurd (isDigit_of_mem_toString bracket) (by decide)

theorem digitChar_ne_bracket : ∀ d < 16, Nat.digitChar d ≠ ')' := by decide

theorem unclosed_hex (n : Nat) : Unclosed (hex n) := by
  unfold hex
  refine unclosed_of_notMem ?_ fun bracket => ?_
  · rw [String.toList_ofList]
    exact Nat.toDigits_ne_nil
  · rw [String.toList_ofList] at bracket
    obtain ⟨d, small, same⟩ := mem_toDigits (by decide) n _ bracket
    exact digitChar_ne_bracket d small same.symm

theorem unclosed_quote (text : String) : Unclosed (quote text) :=
  ⟨_, '"', String.toList_ofList, by decide⟩

/-- A dump has no bracket, and the word in front of it neither. -/
theorem unclosed_data (bytes : List UInt8) : Unclosed ("data: " ++ hexDump bytes) := by
  refine unclosed_of_notMem ?_ fun bracket => ?_
  · rw [String.toList_append]
    exact List.append_ne_nil_of_left_ne_nil (by decide) _
  · rw [String.toList_append, List.mem_append] at bracket
    rcases bracket with word | dump
    · exact absurd word (by decide)
    · rcases mem_hexDump dump with blank | ⟨d, small, same⟩
      · exact absurd blank (by decide)
      · exact digitChar_ne_bracket d small same.symm

/-! ## The end of an address -/

/-- The bytes behind the family of a local name outside the file system. It is the only text of an
address that stands without quotes. -/
def IsAbstract (family : Nat) (data : List UInt8) : Prop :=
  family = 1 ∧ ∃ rest, data = 0 :: rest

theorem unclosed_localText {data : List UInt8} (named : ¬ ∃ rest, data = 0 :: rest) :
    Unclosed (localText data) := by
  unfold localText
  split
  · exact ⟨"unname".toList, 'd', rfl, by decide⟩
  · next rest => exact absurd ⟨rest, rfl⟩ named
  · exact unclosed_quote _

theorem unclosed_dataText {family : Nat} {data : List UInt8} (h : ¬ IsAbstract family data) :
    Unclosed (dataText family data) := by
  unfold dataText
  split
  · exact (unclosed_toString _).append _
  split
  · exact (unclosed_toString _).append _
  split
  · next loc => exact unclosed_localText fun rest => h ⟨loc, rest⟩
  split
  · exact ((unclosed_hex _).append _).append _
  · exact unclosed_data data

/-- What is shown in the place of an address that is too short to have a family. -/
theorem unclosed_shortText (length : Nat) :
    Unclosed ("length " ++ toString length ++ " is shorter than the address family") := by
  have word : Unclosed " is shorter than the address family" :=
    ⟨" is shorter than the address famil".toList, 'y', rfl, by decide⟩
  exact word.append _

/-- A part of an abstract name has no longer text than the whole. -/
theorem length_localText_take (n : Nat) (rest : List UInt8) :
    (localText (0 :: rest.take n)).toList.length ≤ (localText (0 :: rest)).toList.length := by
  have part : beforeZero (rest.take n) = (beforeZero rest).take n := List.take_takeWhile.symm
  have shorter := List.length_take_le' n (beforeZero rest)
  simp only [localText, graphicText, String.toList_append, String.toList_ofList,
    List.length_append, List.length_map, part]
  omega

/-! ## Lengths beyond the longest address -/

/-- The word on a length beyond that of the longest address. -/
def clampNote (length : Nat) : String :=
  " (length " ++ toString length ++ " clamped to " ++ toString maxAddressLength ++ ")"

theorem clampNote_inj {n m : Nat} (h : clampNote n = clampNote m) : n = m := by
  have same := congrArg String.toList h
  simp only [clampNote, String.toList_append, List.append_assoc, List.append_cancel_left_eq] at same
  have blank (rest : List Char) :
      " clamped to ".toList ++ rest = ' ' :: ("clamped to ".toList ++ rest) := rfl
  rw [blank] at same
  exact toString_append_inj (by decide) same

theorem Unclosed.ne_append_clampNote {text : String} (h : Unclosed text) (front : String)
    (length : Nat) : text ≠ front ++ clampNote length := by
  unfold clampNote
  rw [← String.append_assoc]
  exact h.ne_append _

theorem familyOf_take {n : Nat} (long : 2 ≤ n) (bytes : List UInt8) :
    familyOf (bytes.take n) = familyOf bytes := by
  unfold familyOf littleField
  rw [List.drop_zero, List.drop_zero, List.take_take, Nat.min_eq_left long]

/-- A part of an address has not the text of the whole with a word on a length behind it. -/
theorem addressText_take_ne {n : Nat} (long : 2 ≤ n) (bytes : List UInt8) (length : Nat) :
    addressText (bytes.take n) ≠ addressText bytes ++ clampNote length := by
  by_cases abstract : IsAbstract (familyOf (bytes.take n)) ((bytes.take n).drop 2)
  · -- the name may end in anything, but there is no more of it in the part
    obtain ⟨family, rest, part⟩ := abstract
    have tail : ∃ whole, bytes.drop 2 = 0 :: whole ∧ rest = whole.take (n - 3) := by
      rw [List.drop_take] at part
      cases data : bytes.drop 2 with
      | nil => rw [data, List.take_nil] at part; cases part
      | cons b whole =>
        cases count : n - 2 with
        | zero => rw [count] at part; cases part
        | succ k =>
          rw [data, count] at part
          cases part
          exact ⟨whole, rfl, by rw [Nat.sub_eq_of_eq_add (by omega : n = k + 3)]⟩
    obtain ⟨whole, behind, rfl⟩ := tail
    have shown : addressText (bytes.take n) =
        Flags.family (UInt64.ofNat 1) ++ " " ++ localText (0 :: whole.take (n - 3)) := by
      unfold addressText
      rw [part, family]
      rfl
    have shown' : addressText bytes =
        Flags.family (UInt64.ofNat 1) ++ " " ++ localText (0 :: whole) := by
      unfold addressText
      rw [behind, ← familyOf_take long, family]
      rfl
    rw [shown, shown']
    intro same
    have lengths := congrArg (fun text => text.toList.length) same
    have shorter := length_localText_take (n - 3) whole
    have bracket : ")".toList.length = 1 := rfl
    simp only [clampNote, String.toList_append, List.length_append] at lengths
    omega
  · exact ((unclosed_dataText abstract).append _).ne_append_clampNote _ _

variable {w : World} {space : AddressSpace} {address : UInt64} {n m : Nat} {text text' : String}

theorem on_addressAt_eq_ok (long : 2 ≤ n) :
    (addressAt space address n).on w = .ok text ↔
      ∃ bytes, w.target.read space address (min n maxAddressLength) = .ok bytes ∧
        text = addressText bytes ++ if maxAddressLength < n then clampNote n else "" := by
  have asked : (Reading.bytes space address (min n maxAddressLength)).on w =
      w.target.read space address (min n maxAddressLength) := rfl
  unfold addressAt
  rw [if_neg (Nat.not_lt.2 long), Course.on_bind_eq_ok, asked]
  refine exists_congr fun bytes => and_congr_right fun _ => ?_
  dsimp only
  split
  · simp only [Course.on_pure, Except.ok.injEq, clampNote, String.append_assoc, eq_comm]
  · simp only [Course.on_pure, Except.ok.injEq, String.append_empty, eq_comm]

/-- The text of an address ends in a word on a length exactly if its length is beyond that of the
longest one, unless it is an abstract name. -/
theorem endsInNote_iff (shown : (addressAt space address n).on w = .ok text)
    (named : ∀ bytes, w.target.read space address (min n maxAddressLength) = .ok bytes →
      ¬ IsAbstract (familyOf bytes) (bytes.drop 2)) :
    (∃ front length, text = front ++ clampNote length) ↔ maxAddressLength < n := by
  by_cases long : 2 ≤ n
  · obtain ⟨bytes, read, rfl⟩ := (on_addressAt_eq_ok long).1 shown
    constructor
    · rintro ⟨front, length, ends⟩
      by_contra within
      rw [if_neg within, String.append_empty] at ends
      exact ((unclosed_dataText (named bytes read)).append _).ne_append_clampNote _ _ ends
    · intro beyond
      exact ⟨addressText bytes, n, by rw [if_pos beyond]⟩
  · unfold addressAt at shown
    rw [if_pos (Nat.lt_of_not_le long)] at shown
    cases shown
    have within : ¬ maxAddressLength < n := by
      unfold maxAddressLength
      omega
    refine iff_of_false ?_ within
    rintro ⟨front, length, ends⟩
    exact (unclosed_shortText n).ne_append_clampNote _ _ ends

/-- Where memory is made of single bytes, a length within the longest address and one beyond it are
not shown alike. -/
theorem addressAt_ne_of_within {cell : AddressSpace → UInt64 → Option UInt8}
    (memory : w.target.ByteAddressed cell) (within : n ≤ maxAddressLength)
    (beyond : maxAddressLength < m) (shown : (addressAt space address n).on w = .ok text)
    (shown' : (addressAt space address m).on w = .ok text') : text ≠ text' := by
  have long' : 2 ≤ m := Nat.le_trans (by decide) (Nat.le_of_lt beyond)
  obtain ⟨whole, read', rfl⟩ := (on_addressAt_eq_ok long').1 shown'
  rw [if_pos beyond]
  by_cases long : 2 ≤ n
  · obtain ⟨bytes, read, rfl⟩ := (on_addressAt_eq_ok long).1 shown
    rw [Nat.min_eq_left within] at read
    rw [Nat.min_eq_right (Nat.le_of_lt beyond)] at read'
    have inside : 0 + n ≤ maxAddressLength := by omega
    have part := memory.read_part read' inside
    rw [offset_zero, read, List.drop_zero] at part
    cases part
    rw [if_neg (Nat.not_lt.2 within), String.append_empty]
    exact addressText_take_ne long whole m
  · unfold addressAt at shown
    rw [if_pos (Nat.lt_of_not_le long)] at shown
    cases shown
    exact (unclosed_shortText n).ne_append_clampNote _ _

/-- Two lengths beyond the longest address are not shown alike. -/
theorem addressAt_ne_of_beyond (different : n ≠ m) (beyond : maxAddressLength < n)
    (beyond' : maxAddressLength < m) (shown : (addressAt space address n).on w = .ok text)
    (shown' : (addressAt space address m).on w = .ok text') : text ≠ text' := by
  have long {k : Nat} (h : maxAddressLength < k) : 2 ≤ k :=
    Nat.le_trans (by decide) (Nat.le_of_lt h)
  obtain ⟨bytes, read, rfl⟩ := (on_addressAt_eq_ok (long beyond)).1 shown
  obtain ⟨bytes', read', rfl⟩ := (on_addressAt_eq_ok (long beyond')).1 shown'
  rw [Nat.min_eq_right (Nat.le_of_lt beyond)] at read
  rw [Nat.min_eq_right (Nat.le_of_lt beyond'), read] at read'
  cases read'
  rw [if_pos beyond, if_pos beyond']
  exact fun same => different (clampNote_inj (String.append_right_inj _ |>.1 same))

end SyscallDecode.Socket
