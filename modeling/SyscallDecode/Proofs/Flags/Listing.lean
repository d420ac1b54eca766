/-
Flags in words lose no bit and invent none. A name is listed when all its bits are set, names stand in
the order of their table, and the bits that no listed name covers stand behind them as one number. The
names and the number make up the value, so that no two values have one text.
-/
import Mathlib.Data.List.Nodup
import SyscallDecode.Flags.Memory
import SyscallDecode.Flags.Socket
import SyscallDecode.Proofs.Terminal.Words
import SyscallDecode.Proofs.Text.Numeral

namespace SyscallDecode.Flags

open SyscallDecode.Text

/-! ## Bits -/

variable {names : BitNames} {value bits : UInt64} {i : Nat}

theorem testBit_allBits (names : BitNames) (i : Nat) :
    (allBits names).toNat.testBit i = names.any fun entry => entry.1.toNat.testBit i := by
  induction names with
  | nil => exact Nat.zero_testBit i
  | cons entry rest ih =>
    have first : allBits (entry :: rest) = entry.1 ||| allBits rest := rfl
    rw [first, UInt64.toNat_or, Nat.testBit_or, ih, List.any_cons]

theorem testBit_and_not (value bits : UInt64) (i : Nat) :
    (value &&& ~~~bits).toNat.testBit i = (value.toNat.testBit i && !bits.toNat.testBit i) := by
  have flipped : (~~~bits).toNat.testBit i = (decide (i < 64) && !bits.toNat.testBit i) := by
    show (~~~bits).toBitVec.getLsbD i = _
    rw [UInt64.toBitVec_not, BitVec.getLsbD_not]
    rfl
  rw [UInt64.toNat_and, Nat.testBit_and, flipped]
  by_cases inside : i < 64
  · rw [decide_eq_true inside, Bool.true_and]
  · have large : value.toNat < 2 ^ i :=
      Nat.lt_of_lt_of_le value.toNat_lt (Nat.pow_le_pow_right (by decide) (by omega))
    rw [Nat.testBit_lt_two_pow large, Bool.false_and, Bool.false_and]

theorem testBit_unknownBits (names : BitNames) (value : UInt64) (i : Nat) :
    (unknownBits names value).toNat.testBit i =
      (value.toNat.testBit i && !(allBits (listed names value)).toNat.testBit i) :=
  testBit_and_not value (allBits (listed names value)) i

/-- Bits that a word has are among its bits. -/
theorem testBit_of_and_eq (h : value &&& bits = bits) (set : bits.toNat.testBit i = true) :
    value.toNat.testBit i = true := by
  rw [← h, UInt64.toNat_and, Nat.testBit_and, Bool.and_eq_true] at set
  exact set.1

theorem mem_listed {entry : UInt64 × String} :
    entry ∈ listed names value ↔ entry ∈ names ∧ entry.1 ≠ 0 ∧ value &&& entry.1 = entry.1 := by
  unfold listed
  rw [List.mem_filter, Bool.and_eq_true, bne_iff_ne, beq_iff_eq]

/-- The listed names and the unknown bits are all that the value has. -/
theorem allBits_or_unknownBits (names : BitNames) (value : UInt64) :
    allBits (listed names value) ||| unknownBits names value = value := by
  apply UInt64.toNat_inj.1
  apply Nat.eq_of_testBit_eq
  intro i
  rw [UInt64.toNat_or, Nat.testBit_or, testBit_unknownBits]
  cases covered : (allBits (listed names value)).toNat.testBit i with
  | false => rw [Bool.false_or, Bool.not_false, Bool.and_true]
  | true =>
    rw [testBit_allBits, List.any_eq_true] at covered
    obtain ⟨entry, member, set⟩ := covered
    rw [testBit_of_and_eq (mem_listed.1 member).2.2 set]
    rfl

/-! ## Texts -/

/-- The entry for the bits that no name covers. -/
def unknownText (bits : UInt64) : String :=
  "unknown " ++ hexMarked bits.toNat

theorem unknownText_inj {bits bits' : UInt64} (h : unknownText bits = unknownText bits') :
    bits = bits' := by
  unfold unknownText at h
  rw [String.append_right_inj] at h
  exact UInt64.toNat_inj.1 (hexMarked_inj h)

/-- A text that is not one for unknown bits, and that no bar divides. -/
def Plain (text : String) : Prop :=
  text.toList.head? ≠ some 'u' ∧ '|' ∉ text.toList

instance (text : String) : Decidable (Plain text) :=
  inferInstanceAs (Decidable (_ ∧ _))

/-- The names of a table can be told from one another and from unknown bits. -/
structure Distinct (names : BitNames) : Prop where
  bits : ∀ entry ∈ names, entry.1 ≠ 0
  once : (names.map Prod.snd).Nodup
  plain : ∀ entry ∈ names, Plain entry.2

theorem head?_unknownText (bits : UInt64) : (unknownText bits).toList.head? = some 'u' := by
  unfold unknownText
  rw [String.toList_append]
  rfl

theorem bitTexts_eq (names : BitNames) (value : UInt64) :
    bitTexts names value = (listed names value).map Prod.snd ++
      if unknownBits names value = 0 then [] else [unknownText (unknownBits names value)] :=
  rfl

/-- A name is listed exactly when the value has all its bits. -/
theorem Distinct.mem_bitTexts (table : Distinct names) {entry : UInt64 × String}
    (member : entry ∈ names) : entry.2 ∈ bitTexts names value ↔ value &&& entry.1 = entry.1 := by
  rw [bitTexts_eq, List.mem_append]
  constructor
  · rintro (shown | unknown)
    · obtain ⟨entry', shown, same⟩ := List.mem_map.1 shown
      obtain ⟨member', -, set⟩ := mem_listed.1 shown
      rwa [List.inj_on_of_nodup_map table.once member' member same] at set
    · split at unknown
      · cases unknown
      · have head := head?_unknownText (unknownBits names value)
        rw [← List.mem_singleton.1 unknown] at head
        exact absurd head (table.plain entry member).1
  · intro set
    exact .inl (List.mem_map_of_mem (mem_listed.2 ⟨member, table.bits entry member, set⟩))

/-- Values with one list of texts are one value. -/
theorem Distinct.bitTexts_inj (table : Distinct names) {value' : UInt64}
    (h : bitTexts names value = bitTexts names value') : value = value' := by
  have same : listed names value = listed names value' := by
    unfold listed
    refine List.filter_congr fun entry member => ?_
    have set : value &&& entry.1 = entry.1 ↔ value' &&& entry.1 = entry.1 := by
      rw [← table.mem_bitTexts member, ← table.mem_bitTexts member, h]
    rw [Bool.eq_iff_iff, Bool.and_eq_true, Bool.and_eq_true, beq_iff_eq, beq_iff_eq, set]
  have rest : unknownBits names value = unknownBits names value' := by
    rw [bitTexts_eq, bitTexts_eq, same, List.append_cancel_left_eq] at h
    split at h <;> split at h
    · next none none' => rw [none, none']
    · cases h
    · cases h
    · exact unknownText_inj (List.singleton_inj.1 h)
  rw [← allBits_or_unknownBits names value, same, rest, allBits_or_unknownBits]

theorem bitTexts_eq_nil_iff : bitTexts names value = [] ↔ value = 0 := by
  constructor
  · intro none
    rw [bitTexts_eq, List.append_eq_nil_iff, List.map_eq_nil_iff] at none
    obtain ⟨shown, rest⟩ := none
    have parts := allBits_or_unknownBits names value
    split at rest
    · next unknown =>
      rw [shown, unknown] at parts
      exact parts.symm
    · cases rest
  · rintro rfl
    have shown : listed names 0 = [] := by
      refine List.filter_eq_nil_iff.2 fun entry _ set => ?_
      rw [Bool.and_eq_true, bne_iff_ne, beq_iff_eq, UInt64.zero_and] at set
      exact set.1 set.2.symm
    have unknown : unknownBits names 0 = 0 := by
      unfold unknownBits
      exact UInt64.zero_and
    rw [bitTexts_eq, shown, unknown]
    rfl

/-! ## Texts read back -/

/-- The items of a text with bars between them. -/
def items (text : String) : List String :=
  (text.toList.splitOn '|').map String.ofList

theorem items_bar {texts : List String} (whole : ∀ text ∈ texts, '|' ∉ text.toList)
    (some : texts ≠ []) : items ("|".intercalate texts) = texts := by
  have bar : "|".toList = ['|'] := rfl
  unfold items
  rw [String.toList_intercalate, bar, List.splitOn_intercalate, List.map_map]
  · have same : String.ofList ∘ String.toList = id := funext fun _ => String.ofList_toList
    rw [same, List.map_id]
  · exact List.forall_mem_map.2 whole
  · exact fun none => some (List.map_eq_nil_iff.1 none)

theorem items_single {text : String} (whole : '|' ∉ text.toList) : items text = [text] := by
  have single := @items_bar [text] (by simpa using whole) (List.cons_ne_nil _ _)
  rwa [String.intercalate_singleton] at single

theorem bar_notMem_unknownText (bits : UInt64) : '|' ∉ (unknownText bits).toList := by
  unfold unknownText
  rw [String.toList_append, List.mem_append, not_or]
  exact ⟨by decide, notMem_hexMarked (by decide) _⟩

theorem Distinct.whole_bitTexts (table : Distinct names) (value : UInt64) :
    ∀ text ∈ bitTexts names value, '|' ∉ text.toList := by
  intro text member
  rw [bitTexts_eq, List.mem_append] at member
  rcases member with shown | unknown
  · obtain ⟨entry, listed, rfl⟩ := List.mem_map.1 shown
    exact (table.plain entry (mem_listed.1 listed).1).2
  · split at unknown
    · cases unknown
    · rw [List.mem_singleton.1 unknown]
      exact bar_notMem_unknownText _

theorem items_bitText (table : Distinct names) {empty : String} (plain : Plain empty)
    (value : UInt64) :
    items (bitText empty names value) =
      if value = 0 then [empty] else bitTexts names value := by
  unfold bitText
  split
  · next none => rw [if_pos (bitTexts_eq_nil_iff.1 none), items_single plain.2]
  · next some =>
    rw [if_neg fun zero => some (bitTexts_eq_nil_iff.2 zero),
      items_bar (table.whole_bitTexts value) some]

/-- The text for no bits is never among those for some. -/
theorem notMem_bitTexts_of_plain {empty : String} (plain : Plain empty)
    (other : empty ∉ names.map Prod.snd) (value : UInt64) : empty ∉ bitTexts names value := by
  rw [bitTexts_eq, List.mem_append, not_or]
  constructor
  · exact fun shown => other ((List.filter_sublist.map _).subset shown)
  · split
    · exact List.not_mem_nil
    · rw [List.mem_singleton]
      intro unknown
      have head := head?_unknownText (unknownBits names value)
      rw [← unknown] at head
      exact plain.1 head

/-- What a text lists of a value: these names, these unknown bits, and nothing else. -/
structure Lists (names : BitNames) (empty : String) (value : UInt64) (text : String)
    (shown : BitNames) (unknown : UInt64) : Prop where
  /-- The names stand first, and the unknown bits behind them if there are any. -/
  items : items text = if value = 0 then [empty] else
    shown.map Prod.snd ++ if unknown = 0 then [] else ["unknown " ++ hexMarked unknown.toNat]
  order : shown.Sublist names
  once : (shown.map Prod.snd).Nodup
  /-- A name is there exactly when all its bits are set. -/
  named : ∀ entry ∈ names, entry.2 ∈ Flags.items text ↔ value &&& entry.1 = entry.1
  /-- The unknown bits are those that no name covers. -/
  uncovered : ∀ i, unknown.toNat.testBit i = true ↔
    value.toNat.testBit i = true ∧ ∀ entry ∈ shown, entry.1.toNat.testBit i = false
  whole : allBits shown ||| unknown = value
  empty : text = empty ↔ value = 0

theorem lists_bitText (table : Distinct names) {empty : String} (plain : Plain empty)
    (other : empty ∉ names.map Prod.snd) (value : UInt64) :
    Lists names empty value (bitText empty names value) (listed names value)
      (unknownBits names value) where
  items := items_bitText table plain value
  order := List.filter_sublist
  once := table.once.sublist (List.filter_sublist.map _)
  named := by
    intro entry member
    rw [items_bitText table plain]
    split
    · next zero =>
      have named : entry.2 ≠ empty := fun same => other (same ▸ List.mem_map_of_mem member)
      rw [zero, UInt64.zero_and, List.mem_singleton]
      exact iff_of_false named (table.bits entry member).symm
    · exact table.mem_bitTexts member
  uncovered := by
    intro i
    rw [testBit_unknownBits, testBit_allBits, Bool.and_eq_true, Bool.not_eq_true',
      List.any_eq_false]
    simp only [Bool.not_eq_true]
  whole := allBits_or_unknownBits names value
  empty := by
    constructor
    · intro same
      have told := items_bitText table plain value
      rw [same, items_single plain.2] at told
      split at told
      · next zero => exact zero
      · exact absurd (told ▸ List.mem_singleton_self empty) (notMem_bitTexts_of_plain plain other value)
    · rintro rfl
      unfold bitText
      rw [bitTexts_eq_nil_iff.2 rfl]

/-- Values with one text are one value. -/
theorem bitText_injective (table : Distinct names) {empty : String} (plain : Plain empty)
    (other : empty ∉ names.map Prod.snd) : Function.Injective (bitText empty names) := by
  intro value value' same
  have told := items_bitText table plain value
  have lists := lists_bitText table plain other value
  have lists' := lists_bitText table plain other value'
  by_cases zero : value = 0
  · rw [zero, lists'.empty.1 (same ▸ lists.empty.2 zero)]
  · have some : value' ≠ 0 := fun zero' => zero (lists.empty.1 (same ▸ lists'.empty.2 zero'))
    rw [same, items_bitText table plain, if_neg zero, if_neg some] at told
    exact (table.bitTexts_inj told).symm

/-! ## Values without a name -/

/-- A word is told by the signed number that it stands for. -/
theorem eq_of_bmod {value value' : UInt64}
    (h : Int.bmod value.toNat UInt64.size = Int.bmod value'.toNat UInt64.size) : value = value' := by
  have low (value : UInt64) :
      Int.bmod value.toNat UInt64.size % (UInt64.size : Nat) = (value.toNat : Int) := by
    rw [Int.bmod_emod, ← Int.natCast_emod, Nat.mod_eq_of_lt value.toNat_lt_size]
  have word := low value
  rw [h, low] at word
  exact UInt64.toNat_inj.1 (Int.ofNat_inj.1 word).symm

theorem toList_unrecognized (value : UInt64) :
    (unrecognized value).toList = (toString (Int.bmod value.toNat UInt64.size)).toList ++
      ' ' :: "(unrecognized value)".toList := by
  have text : " (unrecognized value)".toList = ' ' :: "(unrecognized value)".toList := rfl
  unfold unrecognized
  rw [String.toList_append, text]

theorem unrecognized_injective : Function.Injective unrecognized := by
  intro value value' same
  have chars := congrArg String.toList same
  rw [toList_unrecognized, toList_unrecognized] at chars
  exact eq_of_bmod (toString_int_append_inj (by decide) chars)

theorem bar_notMem_unrecognized (value : UInt64) : '|' ∉ (unrecognized value).toList := by
  unfold unrecognized
  rw [String.toList_append, List.mem_append, not_or]
  exact ⟨notMem_toString_int (by decide) _, by decide⟩

/-! ## Socket types -/

theorem distinct_creationNames : Distinct creationNames :=
  ⟨by decide, by decide, by decide⟩

/-- The number of a socket type is told by its name. -/
theorem socketTypeNames_inj {a b : UInt32} {name : String}
    (ha : socketTypeNames.lookup a = some name) (hb : socketTypeNames.lookup b = some name) :
    a = b := by
  have once : (socketTypeNames.map Prod.snd).Nodup := by decide
  exact congrArg Prod.fst
    (List.inj_on_of_nodup_map once (mem_of_lookup ha) (mem_of_lookup hb) rfl)

/-- A word is made up of its type proper and its flags. -/
theorem eq_of_typeBits {value value' : UInt64}
    (base : (value &&& typeBits).toUInt32 = (value' &&& typeBits).toUInt32)
    (flags : value &&& ~~~typeBits = value' &&& ~~~typeBits) : value = value' := by
  have narrow (value : UInt64) : (value &&& typeBits).toUInt32.toNat = (value &&& typeBits).toNat := by
    have small : (value &&& typeBits).toNat ≤ typeBits.toNat := by
      rw [UInt64.toNat_and]
      exact Nat.and_le_right
    rw [UInt64.toNat_toUInt32]
    exact Nat.mod_eq_of_lt (Nat.lt_of_le_of_lt small (by decide))
  have base' : value &&& typeBits = value' &&& typeBits := by
    apply UInt64.toNat_inj.1
    rw [← narrow, base, narrow]
  have whole (value : UInt64) : (value &&& typeBits) ||| (value &&& ~~~typeBits) = value := by
    apply UInt64.toNat_inj.1
    apply Nat.eq_of_testBit_eq
    intro i
    rw [UInt64.toNat_or, Nat.testBit_or, testBit_and_not, UInt64.toNat_and, Nat.testBit_and,
      ← Bool.and_or_distrib_left, Bool.or_not_self, Bool.and_true]
  rw [← whole value, base', flags, whole]

theorem items_socketType {value : UInt64} {base : String}
    (found : socketTypeNames.lookup (value &&& typeBits).toUInt32 = some base) :
    items (socketType value) = base :: bitTexts creationNames (value &&& ~~~typeBits) := by
  have whole : ∀ entry ∈ socketTypeNames, '|' ∉ entry.2.toList := by decide
  unfold socketType
  rw [found]
  refine items_bar (List.forall_mem_cons.2 ⟨whole _ (mem_of_lookup found), ?_⟩) (List.cons_ne_nil _ _)
  exact distinct_creationNames.whole_bitTexts _

/-- A text without a name for the type is told by its parenthesis. -/
theorem socketType_ne_unrecognized {value value' : UInt64} {base : String}
    (found : socketTypeNames.lookup (value &&& typeBits).toUInt32 = some base) :
    socketType value ≠ unrecognized value' := by
  have plain : ∀ entry ∈ socketTypeNames, '(' ∉ entry.2.toList := by decide
  intro same
  have told := congrArg items same
  rw [items_socketType found, items_single (bar_notMem_unrecognized value')] at told
  have named : base = unrecognized value' := (List.cons.inj told).1
  refine plain _ (mem_of_lookup found) ?_
  show '(' ∈ base.toList
  rw [named, unrecognized, String.toList_append, List.mem_append]
  exact .inr (by decide)

theorem socketType_of_none {value : UInt64}
    (none : socketTypeNames.lookup (value &&& typeBits).toUInt32 = none) :
    socketType value = unrecognized value := by
  unfold socketType
  rw [none]

theorem socketType_injective : Function.Injective socketType := by
  intro value value' same
  cases found : socketTypeNames.lookup (value &&& typeBits).toUInt32 with
  | none =>
    rw [socketType_of_none found] at same
    cases found' : socketTypeNames.lookup (value' &&& typeBits).toUInt32 with
    | none => exact unrecognized_injective (same.trans (socketType_of_none found'))
    | some base' => exact absurd same.symm (socketType_ne_unrecognized found')
  | some base =>
    cases found' : socketTypeNames.lookup (value' &&& typeBits).toUInt32 with
    | none => exact absurd (same.trans (socketType_of_none found')) (socketType_ne_unrecognized found)
    | some base' =>
      have told := congrArg items same
      rw [items_socketType found, items_socketType found'] at told
      obtain ⟨rfl, flags⟩ := List.cons.inj told
      exact eq_of_typeBits (socketTypeNames_inj found found')
        (distinct_creationNames.bitTexts_inj flags)

/-! ## Main statement -/

/-- Each of the texts lists the names of the bits that are set and what is left of the value, and no two
values have one text. -/
theorem flags_lossless :
    (∀ value, ∃ shown unknown, Lists mapFlagNames "0" value (mapFlags value) shown unknown) ∧
    (∀ value, ∃ shown unknown,
      Lists protectionNames "PROT_NONE" value (protection value) shown unknown) ∧
    (∀ value, ∃ shown unknown,
      Lists messageFlagNames "0" value (messageFlags value) shown unknown) ∧
    (∀ value, ∃ shown unknown,
      Lists socketStateNames "0" value (socketState value) shown unknown) ∧
    Function.Injective mapFlags ∧ Function.Injective protection ∧
    Function.Injective messageFlags ∧ Function.Injective socketState ∧
    Function.Injective socketType := by
  have map : Distinct mapFlagNames := ⟨by decide, by decide, by decide⟩
  have protection : Distinct protectionNames := ⟨by decide, by decide, by decide⟩
  have message : Distinct messageFlagNames := ⟨by decide, by decide, by decide⟩
  have state : Distinct socketStateNames := ⟨by decide, by decide, by decide⟩
  refine ⟨fun value => ⟨_, _, lists_bitText map (by decide) (by decide) value⟩,
    fun value => ⟨_, _, lists_bitText protection (by decide) (by decide) value⟩,
    fun value => ⟨_, _, lists_bitText message (by decide) (by decide) value⟩,
    fun value => ⟨_, _, lists_bitText state (by decide) (by decide) value⟩,
    bitText_injective map (by decide) (by decide),
    bitText_injective protection (by decide) (by decide),
    bitText_injective message (by decide) (by decide),
    bitText_injective state (by decide) (by decide), socketType_injective⟩

end SyscallDecode.Flags
