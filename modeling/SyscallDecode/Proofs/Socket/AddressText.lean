/-
Socket addresses in words. An address is shown by one read of its bytes, none of which is looked for
beyond their end. But for local names, whose text may leave some out, the text has all that the family
gives a meaning to: addresses of one length have one text only if they are alike in their families and
in the bytes that these make use of.
-/
import SyscallDecode.Proofs.CType.Slices
import SyscallDecode.Proofs.Flags.Listing
import SyscallDecode.Proofs.Inquiry.Pointers
import SyscallDecode.Proofs.Socket.Ip
import SyscallDecode.Proofs.Socket.Length

namespace SyscallDecode

open SyscallDecode.Text

/-! ## Numbers -/

/-- Bytes are told by their number and how many they are. -/
theorem littleEndian_inj : ∀ {bytes bytes' : List UInt8}, bytes.length = bytes'.length →
    littleEndian bytes = littleEndian bytes' → bytes = bytes'
  | [], [], _, _ => rfl
  | b :: bytes, b' :: bytes', same, h => by
    rw [littleEndian, littleEndian] at h
    have small := b.toNat_lt
    have small' := b'.toNat_lt
    have low : b = b' := UInt8.toNat_inj.1 (by omega)
    rw [low, littleEndian_inj (Nat.succ.inj same) (by omega)]

theorem bigEndian_inj {bytes bytes' : List UInt8} (same : bytes.length = bytes'.length)
    (h : bigEndian bytes = bigEndian bytes') : bytes = bytes' :=
  List.reverse_inj.1 (littleEndian_inj (by simpa using same) h)

/-! ## Families -/

namespace Flags

theorem notMem_familyNames : ∀ entry ∈ familyNames, ' ' ∉ entry.2.toList ∧ 'A' ∈ entry.2.toList := by
  decide

theorem family_of_lookup {value : UInt64} {name : String}
    (found : familyNames.lookup value.toUInt32 = some name) : family value = name := by
  unfold family valueText
  rw [found]

theorem family_of_none {value : UInt64} (none : familyNames.lookup value.toUInt32 = none) :
    family value = unrecognized value := by
  unfold family valueText
  rw [none]

/-- A family with a name does not begin as one without. -/
theorem family_ne_unrecognized {value value' : UInt64} {name : String}
    (found : familyNames.lookup value.toUInt32 = some name) (rest rest' : List Char) :
    name.toList ++ ' ' :: rest ≠ (unrecognized value').toList ++ rest' := by
  obtain ⟨blank, letter⟩ := notMem_familyNames _ (mem_of_lookup found)
  rw [toList_unrecognized, List.append_assoc]
  intro same
  obtain ⟨number, -⟩ := append_cons_inj blank (notMem_toString_int (by decide) _) same
  rw [number] at letter
  exact notMem_toString_int (by decide) _ letter

/-- A family is told by its text, whatever comes behind the next blank. -/
theorem family_append_inj {value value' : UInt64} (small : value.toNat < UInt32.size)
    (small' : value'.toNat < UInt32.size) {rest rest' : List Char}
    (h : (family value).toList ++ ' ' :: rest = (family value').toList ++ ' ' :: rest') :
    value = value' := by
  cases found : familyNames.lookup value.toUInt32 with
  | none =>
    rw [family_of_none found] at h
    cases found' : familyNames.lookup value'.toUInt32 with
    | none =>
      rw [family_of_none found', toList_unrecognized, toList_unrecognized, List.append_assoc,
        List.append_assoc] at h
      exact eq_of_bmod (toString_int_append_inj (by decide) h)
    | some name' =>
      rw [family_of_lookup found'] at h
      exact absurd h.symm (family_ne_unrecognized found' _ _)
  | some name =>
    rw [family_of_lookup found] at h
    cases found' : familyNames.lookup value'.toUInt32 with
    | none =>
      rw [family_of_none found'] at h
      exact absurd h (family_ne_unrecognized found _ _)
    | some name' =>
      rw [family_of_lookup found'] at h
      have member := mem_of_lookup found
      have member' := mem_of_lookup found'
      have once : (familyNames.map Prod.snd).Nodup := by decide
      obtain ⟨named, -⟩ :=
        append_cons_inj (notMem_familyNames _ member).1 (notMem_familyNames _ member').1 h
      have entries := List.inj_on_of_nodup_map once member member' (String.toList_inj.1 named)
      have word := congrArg (fun entry => entry.1.toNat) entries
      simp only [UInt64.toNat_toUInt32] at word
      rw [Nat.mod_eq_of_lt small, Nat.mod_eq_of_lt small'] at word
      exact UInt64.toNat_inj.1 word

end Flags

namespace Socket

/-! ## Fields -/

variable {data data' : List UInt8}

theorem span_add (data : List UInt8) (start length length' : Nat) :
    (data.drop start).take (length + length') =
      (data.drop start).take length ++ (data.drop (start + length)).take length' := by
  rw [List.take_add, List.drop_drop]

/-- Fields inside a span that two addresses have in common are the same. -/
theorem field_eq {k m : Nat} (span : (data.drop k).take m = (data'.drop k).take m) {start length : Nat}
    (behind : k ≤ start) (inside : start + length ≤ k + m) :
    (data.drop start).take length = (data'.drop start).take length := by
  have part (data : List UInt8) :
      (data.drop start).take length = (((data.drop k).take m).drop (start - k)).take length := by
    rw [List.drop_take, List.take_take, List.drop_drop, Nat.min_eq_left (by omega),
      Nat.add_sub_cancel' behind]
  rw [part, part, span]

theorem littleField_inj (start : Nat) {length : Nat} (inside : start + length ≤ data.length)
    (inside' : start + length ≤ data'.length)
    (h : littleField data start length = littleField data' start length) :
    (data.drop start).take length = (data'.drop start).take length := by
  refine littleEndian_inj ?_ h
  rw [List.length_take, List.length_take, List.length_drop, List.length_drop]
  omega

theorem bigField_inj (start : Nat) {length : Nat} (inside : start + length ≤ data.length)
    (inside' : start + length ≤ data'.length)
    (h : bigField data start length = bigField data' start length) :
    (data.drop start).take length = (data'.drop start).take length := by
  refine bigEndian_inj ?_ h
  rw [List.length_take, List.length_take, List.length_drop, List.length_drop]
  omega

/-! ## What the texts tell -/

theorem inetText_eq_iff (long : 6 ≤ data.length) (long' : 6 ≤ data'.length) :
    inetText data = inetText data' ↔ data.take 6 = data'.take 6 := by
  have colon : ":".toList = [':'] := rfl
  constructor
  · intro h
    unfold inetText at h
    rw [String.append_assoc, String.append_assoc] at h
    obtain ⟨ip, port⟩ := append_mark_inj colon (notMem_ipv4Text (by decide) (by decide) _)
      (notMem_ipv4Text (by decide) (by decide) _) h
    have some {data : List UInt8} (long : 6 ≤ data.length) : (data.drop 2).take 4 ≠ [] := by
      rw [← List.length_pos_iff, List.length_take, List.length_drop]
      omega
    have front : data.take 2 = data'.take 2 :=
      bigField_inj 0 (by omega) (by omega) (toString_inj port)
    have span (data : List UInt8) : data.take 6 = data.take 2 ++ (data.drop 2).take 4 :=
      span_add data 0 2 4
    rw [span, front, ipv4Text_inj (some long) (some long') ip, ← span]
  · intro same
    have field := @field_eq data data' 0 6 same
    unfold inetText bigField
    rw [field (Nat.zero_le 2) (by decide), field (Nat.le_refl 0) (by decide)]

theorem inet6Text_eq_iff (long : 26 ≤ data.length) (long' : 26 ≤ data'.length) :
    inet6Text data = inet6Text data' ↔ data.take 26 = data'.take 26 := by
  have bracket : "]:".toList = [']', ':'] := rfl
  have flowMark : " flowinfo ".toList = ' ' :: "flowinfo ".toList := rfl
  have scopeMark : " scope_id ".toList = ' ' :: "scope_id ".toList := rfl
  constructor
  · intro h
    unfold inet6Text at h
    simp only [String.append_assoc, String.append_right_inj] at h
    -- each mark begins with a character that the field before it cannot have
    obtain ⟨ip, h⟩ := append_mark_inj bracket
      (notMem_ipv6Text (by decide) (by decide) (by decide) _)
      (notMem_ipv6Text (by decide) (by decide) (by decide) _) h
    obtain ⟨port, h⟩ := append_mark_inj flowMark (notMem_toString (by decide) _)
      (notMem_toString (by decide) _) h
    obtain ⟨flow, scope⟩ := append_mark_inj scopeMark (notMem_toString (by decide) _)
      (notMem_toString (by decide) _) h
    have count {data : List UInt8} (long : 26 ≤ data.length) :
        ((data.drop 6).take 16).length = 16 := by
      rw [List.length_take, List.length_drop]
      omega
    have ports : data.take 2 = data'.take 2 :=
      bigField_inj 0 (by omega) (by omega) (toString_inj port)
    have flows := bigField_inj 2 (by omega) (by omega) (toString_inj flow)
    have ips := ipv6Text_inj (count long) (count long') ip
    have scopes := littleField_inj 22 (by omega) (by omega) (toString_inj scope)
    have spans (data : List UInt8) : data.take 26 =
        data.take 2 ++ ((data.drop 2).take 4 ++ ((data.drop 6).take 16 ++ (data.drop 22).take 4)) := by
      rw [← span_add data 6 16 4, ← span_add data 2 4 20]
      exact span_add data 0 2 24
    rw [spans, ports, flows, ips, scopes, ← spans]
  · intro same
    have field := @field_eq data data' 0 26 same
    unfold inet6Text bigField littleField
    rw [field (Nat.zero_le 6) (by decide), field (Nat.le_refl 0) (by decide),
      field (Nat.zero_le 2) (by decide), field (Nat.zero_le 22) (by decide)]

theorem netlinkText_eq_iff (long : 10 ≤ data.length) (long' : 10 ≤ data'.length) :
    netlinkText data = netlinkText data' ↔ (data.drop 2).take 8 = (data'.drop 2).take 8 := by
  have mark : " groups ".toList = ' ' :: "groups ".toList := rfl
  constructor
  · intro h
    unfold netlinkText at h
    simp only [String.append_assoc, String.append_right_inj] at h
    obtain ⟨pid, groups⟩ := append_mark_inj mark (notMem_toString (by decide) _)
      (notMem_toString (by decide) _) h
    have pids := littleField_inj 2 (by omega) (by omega) (toString_inj pid)
    have groups := littleField_inj 6 (by omega) (by omega) (hexMarked_inj groups)
    rw [span_add data 2 4 4, pids, groups, ← span_add]
  · intro same
    have field := @field_eq data data' 2 8 same
    unfold netlinkText littleField
    rw [field (Nat.le_refl 2) (by decide), field (by decide : 2 ≤ 6) (by decide)]

/-- The bytes behind the family that are of use to it: the service and the address, with the flow and
the scope for version 6, or the number and the groups. Where there are too few for that, or the family is
another one, all of them are. -/
def meaningful (family : Nat) (data : List UInt8) : List UInt8 :=
  if family = 2 ∧ 6 ≤ data.length then data.take 6
  else if family = 10 ∧ 26 ≤ data.length then data.take 26
  else if family = 16 ∧ 10 ≤ data.length then (data.drop 2).take 8
  else data

theorem dataText_eq_iff {family : Nat} (other : family ≠ 1) (same : data.length = data'.length) :
    dataText family data = dataText family data' ↔
      meaningful family data = meaningful family data' := by
  unfold dataText meaningful
  rw [← same]
  split
  · next inet => exact inetText_eq_iff inet.2 (same ▸ inet.2)
  split
  · next inet6 => exact inet6Text_eq_iff inet6.2 (same ▸ inet6.2)
  split
  · next netlink => exact netlinkText_eq_iff netlink.2 (same ▸ netlink.2)
  · rw [String.append_right_inj]
    exact ⟨hexDump_inj, congrArg hexDump⟩

theorem familyOf_lt (bytes : List UInt8) : familyOf bytes < 65536 := by
  have bound := littleEndian_lt ((bytes.drop 0).take 2)
  have short : ((bytes.drop 0).take 2).length ≤ 2 := List.length_take_le 2 _
  have most : Nat.pow 256 ((bytes.drop 0).take 2).length ≤ Nat.pow 256 2 :=
    Nat.pow_le_pow_right (by decide) short
  exact Nat.lt_of_lt_of_le bound most

/-- Addresses of one length whose family is not that of local names are shown alike exactly if they are
of one family and have the same bytes of use to it. -/
theorem addressText_eq_iff {bytes bytes' : List UInt8} (long : 2 ≤ bytes.length)
    (same : bytes.length = bytes'.length) (other : familyOf bytes ≠ 1) :
    addressText bytes = addressText bytes' ↔
      bytes.take 2 = bytes'.take 2 ∧
        meaningful (familyOf bytes) (bytes.drop 2) = meaningful (familyOf bytes') (bytes'.drop 2) := by
  have small (bytes : List UInt8) : (UInt64.ofNat (familyOf bytes)).toNat = familyOf bytes := by
    have bound := familyOf_lt bytes
    rw [UInt64.toNat_ofNat', Nat.mod_eq_of_lt (by omega)]
  have word (bytes : List UInt8) : (UInt64.ofNat (familyOf bytes)).toNat < UInt32.size := by
    rw [small]
    exact Nat.lt_trans (familyOf_lt bytes) (by decide)
  have family : bytes.take 2 = bytes'.take 2 ↔ familyOf bytes = familyOf bytes' :=
    ⟨congrArg littleEndian, littleField_inj 0 (by omega) (by omega)⟩
  have rest : (bytes.drop 2).length = (bytes'.drop 2).length := by
    rw [List.length_drop, List.length_drop, same]
  have blank : " ".toList = [' '] := rfl
  rw [family]
  constructor
  · intro h
    unfold addressText at h
    -- the first word tells the family, so that one reading is left for what comes behind it
    have chars := congrArg String.toList h
    simp only [String.toList_append, blank, List.append_assoc, List.singleton_append] at chars
    have families := Flags.family_append_inj (word bytes) (word bytes') chars
    have equal : familyOf bytes = familyOf bytes' := by rw [← small, families, small]
    rw [← equal] at h ⊢
    exact ⟨rfl, (dataText_eq_iff other rest).1 (String.append_right_inj _ |>.1 h)⟩
  · rintro ⟨equal, told⟩
    unfold addressText
    rw [← equal] at told ⊢
    rw [(dataText_eq_iff other rest).2 told]

/-! ## Slices -/

/-- A local name, where no slice may leave the bytes. -/
def slicedLocal (data : List UInt8) : Option String :=
  match data with
  | [] => some "unnamed"
  | 0 :: _ => do
    let rest ← slice? data 1 (data.length - 1)
    let name ← front? rest (rest.findIdx (· == 0))
    return "@" ++ graphicText name
  | _ => do
    let name ← front? data (data.findIdx (· == 0))
    return quote (graphicText name)

/-- The bytes behind the family in words in the same way. -/
def slicedData (family : Nat) (data : List UInt8) : Option String :=
  if family = 2 ∧ 6 ≤ data.length then do
    let port ← slice? data 0 2
    let octets ← slice? data 2 4
    return ipv4Text octets ++ ":" ++ toString (bigEndian port)
  else if family = 10 ∧ 26 ≤ data.length then do
    let port ← slice? data 0 2
    let flow ← slice? data 2 4
    let octets ← slice? data 6 16
    let scope ← slice? data 22 4
    return "[" ++ ipv6Text octets ++ "]:" ++ toString (bigEndian port) ++ " flowinfo " ++
      toString (bigEndian flow) ++ " scope_id " ++ toString (littleEndian scope)
  else if family = 1 then slicedLocal data
  else if family = 16 ∧ 10 ≤ data.length then do
    let pid ← slice? data 2 4
    let groups ← slice? data 6 4
    return "pid " ++ toString (littleEndian pid) ++ " groups " ++ hexMarked (littleEndian groups)
  else return "data: " ++ hexDump data

/-- A whole address in words in the same way. -/
def slicedAddress (bytes : List UInt8) : Option String := do
  let family ← slice? bytes 0 2
  let data ← slice? bytes 2 (bytes.length - 2)
  let text ← slicedData (littleEndian family) data
  return Flags.family (UInt64.ofNat (littleEndian family)) ++ " " ++ text

theorem slicedLocal_eq (data : List UInt8) : slicedLocal data = some (localText data) := by
  have name (bytes : List UInt8) :
      front? bytes (bytes.findIdx (· == 0)) = some (beforeZero bytes) := by
    rw [front?_of_le List.findIdx_le_length, beforeZero_eq_take]
  unfold slicedLocal
  split
  · rfl
  · next rest =>
    have behind : slice? (0 :: rest) 1 ((0 :: rest).length - 1) = some rest := by
      rw [slice?_of_le (by rw [List.length_cons]; omega)]
      exact congrArg some List.take_length
    rw [behind]
    show (front? rest (rest.findIdx (· == 0))).bind _ = _
    rw [name]
    rfl
  · next some path =>
    have text : localText data = quote (graphicText (beforeZero data)) := by
      unfold localText
      split
      · exact absurd rfl some
      · next rest => exact absurd rfl (path rest)
      · rfl
    rw [name, text]
    rfl

theorem slicedData_eq (family : Nat) (data : List UInt8) :
    slicedData family data = some (dataText family data) := by
  unfold slicedData dataText
  split
  · next inet =>
    have long := inet.2
    rw [slice?_of_le (by omega), slice?_of_le (by omega)]
    rfl
  split
  · next inet6 =>
    have long := inet6.2
    rw [slice?_of_le (by omega), slice?_of_le (by omega), slice?_of_le (by omega),
      slice?_of_le (by omega)]
    rfl
  split
  · exact slicedLocal_eq data
  split
  · next netlink =>
    have long := netlink.2
    rw [slice?_of_le (by omega), slice?_of_le (by omega)]
    rfl
  · rfl

theorem slicedAddress_eq {bytes : List UInt8} (long : 2 ≤ bytes.length) :
    slicedAddress bytes = some (addressText bytes) := by
  have rest : (bytes.drop 2).take (bytes.length - 2) = bytes.drop 2 := by
    rw [← List.length_drop, List.take_length]
  unfold slicedAddress
  rw [slice?_of_le (by omega), slice?_of_le (by omega), rest]
  show (slicedData (familyOf bytes) (bytes.drop 2)).bind _ = _
  rw [slicedData_eq]
  rfl

/-! ## Reads -/

theorem asked_addressAt (w : World) (space : AddressSpace) (address : UInt64) {length : Nat}
    (long : 2 ≤ length) :
    (addressAt space address length).asked w =
      [.read space address (min length maxAddressLength)] := by
  unfold addressAt
  rw [if_neg (Nat.not_lt.2 long), Course.asked_bind]
  cases (Reading.bytes space address (min length maxAddressLength)).on w with
  | error stop => rfl
  | ok bytes =>
    show [_] ++ (ite _ _ _ : Reading String).asked w = _
    split <;> rfl

theorem readAddress_eq_error_iff (t : Target) (space : AddressSpace) (address : UInt64)
    (length : Nat) (stop : Stop) :
    readAddress t space address length = .error stop ↔
      2 ≤ length ∧ t.read space address (min length maxAddressLength) = .error stop := by
  unfold readAddress addressAt
  by_cases long : 2 ≤ length
  · rw [if_neg (Nat.not_lt.2 long), Course.on_bind_eq_error, and_iff_right long]
    refine or_iff_left ?_
    rintro ⟨bytes, -, failed⟩
    dsimp only at failed
    split at failed <;> cases failed
  · rw [if_pos (Nat.lt_of_not_le long)]
    exact iff_of_false nofun fun told => long told.1

/-! ## Main statement -/

/-- An address is shown by one read of as many bytes as the longest one has, or fewer, and fails only
with it; one without a family is not read at all. No slice of the bytes leaves them, and a word on the
length is put behind the text exactly if there may be more of them; abstract names apart, no text ends
in such a word otherwise. Texts of one length differ exactly where families or bytes of use to them
do, local names apart. -/
theorem address_shown (t : Target) (space : AddressSpace) (address : UInt64) (length : Nat) :
    (length < 2 → (addressAt space address length).asked t.world = [] ∧
      readAddress t space address length =
        .ok ("length " ++ toString length ++ " is shorter than the address family")) ∧
    (2 ≤ length → (addressAt space address length).asked t.world =
      [.read space address (min length maxAddressLength)]) ∧
    (∀ stop, readAddress t space address length = .error stop ↔
      2 ≤ length ∧ t.read space address (min length maxAddressLength) = .error stop) ∧
    (∀ bytes, 2 ≤ length → t.read space address (min length maxAddressLength) = .ok bytes →
      slicedAddress bytes = some (addressText bytes) ∧
        readAddress t space address length =
          .ok (addressText bytes ++ if maxAddressLength < length then clampNote length else "")) ∧
    (∀ text, readAddress t space address length = .ok text →
      (∀ bytes, t.read space address (min length maxAddressLength) = .ok bytes →
        ¬ IsAbstract (familyOf bytes) (bytes.drop 2)) →
      ((∃ front count, text = front ++ clampNote count) ↔ maxAddressLength < length)) ∧
    ∀ bytes bytes', 2 ≤ bytes.length → bytes.length = bytes'.length → familyOf bytes ≠ 1 →
      (addressText bytes = addressText bytes' ↔
        bytes.take 2 = bytes'.take 2 ∧ meaningful (familyOf bytes) (bytes.drop 2) =
          meaningful (familyOf bytes') (bytes'.drop 2)) := by
  have short (few : length < 2) : addressAt space address length =
      pure ("length " ++ toString length ++ " is shorter than the address family") :=
    if_pos few
  have whole (long : 2 ≤ length) {bytes : List UInt8}
      (read : t.read space address (min length maxAddressLength) = .ok bytes) : 2 ≤ bytes.length := by
    rw [t.read_length read]
    exact Nat.le_min.2 ⟨long, by decide⟩
  refine ⟨fun few => ?_, fun long => ?_, fun stop => ?_, fun bytes long read => ⟨?_, ?_⟩, ?_, ?_⟩
  · unfold readAddress
    rw [short few]
    exact ⟨rfl, rfl⟩
  · exact asked_addressAt t.world space address long
  · exact readAddress_eq_error_iff t space address length stop
  · exact slicedAddress_eq (whole long read)
  · exact (on_addressAt_eq_ok long).2 ⟨bytes, read, rfl⟩
  · exact fun text shown named => endsInNote_iff shown named
  · exact fun bytes bytes' => addressText_eq_iff

/-- A target with an abstract name that ends in a word on a length. -/
def notedName : Target :=
  let bytes := [1, 0, 0] ++ "x (length 31 clamped to 128)".toList.map Char.toUInt8
  Cells.target (fun _ a => .ok (bytes.getD (a - 0x5000).toNat 0)) catalogueTypes
    fun name => .fail (.unknownSymbol name)

/-- An abstract name stands without quotes, and may end in anything: this address of 31 bytes is shown
like one that was cut off. -/
theorem address_notedName :
    readAddress notedName (.user 0x1000) 0x5000 31 =
      .ok "AF_UNIX @x (length 31 clamped to 128)" ∧
    ¬ ∀ text, readAddress notedName (.user 0x1000) 0x5000 31 = .ok text →
      ((∃ front count, text = front ++ clampNote count) ↔ maxAddressLength < 31) := by
  have shown : readAddress notedName (.user 0x1000) 0x5000 31 =
      .ok "AF_UNIX @x (length 31 clamped to 128)" := by decide +kernel
  refine ⟨shown, fun onlyBeyond => ?_⟩
  have ends : "AF_UNIX @x (length 31 clamped to 128)" = "AF_UNIX @x" ++ clampNote 31 := by
    decide +kernel
  exact absurd ((onlyBeyond _ shown).1 ⟨_, _, ends⟩) (by decide)

end Socket

end SyscallDecode
