/-
Internet addresses are told by their texts. The text of a version 4 address has its bytes between dots.
That of a version 6 address has its groups between colons, where a run of zeros may be left out: what
stands before and behind it gives the length of the run, as there are always eight groups.
-/
import Mathlib.Data.List.Basic
import SyscallDecode.Proofs.Terminal.Safe
import SyscallDecode.Proofs.Text.Numeral
import SyscallDecode.Proofs.Text.Parts
import SyscallDecode.Socket.Ip

namespace SyscallDecode.Socket

open SyscallDecode.Text

/-! ## Version 4 -/

theorem toList_ipv4Text (octets : List UInt8) :
    (ipv4Text octets).toList = ['.'].intercalate (octets.map fun b => (toString b.toNat).toList) := by
  have dot : ".".toList = ['.'] := rfl
  unfold ipv4Text
  rw [String.toList_intercalate, dot, List.map_map]
  rfl

theorem notMem_ipv4Text {c : Char} (foreign : Foreign c) (dot : c ≠ '.') (octets : List UInt8) :
    c ∉ (ipv4Text octets).toList := by
  rw [toList_ipv4Text]
  intro hc
  rcases mem_intercalate hc with sep | ⟨part, hp, hc⟩
  · exact dot (List.mem_singleton.1 sep)
  · obtain ⟨b, -, rfl⟩ := List.mem_map.1 hp
    exact notMem_toString foreign _ hc

theorem dot_mem_ipv4Text {octets : List UInt8} (long : 2 ≤ octets.length) :
    '.' ∈ (ipv4Text octets).toList := by
  match octets, long with
  | a :: b :: rest, _ =>
    rw [toList_ipv4Text, List.map_cons, List.map_cons, List.intercalate_cons_cons]
    simp only [List.mem_append, List.mem_singleton, true_or, or_true]

theorem ipv4Text_inj {octets octets' : List UInt8} (some : octets ≠ []) (some' : octets' ≠ [])
    (h : ipv4Text octets = ipv4Text octets') : octets = octets' := by
  have whole (octets : List UInt8) :
      ∀ part ∈ octets.map fun b => (toString b.toNat).toList, '.' ∉ part :=
    List.forall_mem_map.2 fun b _ => notMem_toString (by decide) _
  have texts := congrArg String.toList h
  rw [toList_ipv4Text, toList_ipv4Text] at texts
  have parts := intercalate_inj (whole octets) (whole octets') (List.map_eq_nil_iff.not.2 some)
    (List.map_eq_nil_iff.not.2 some') texts
  refine List.map_injective_iff.2 (fun b b' same => ?_) parts
  exact UInt8.toNat_inj.1 (toString_inj (String.toList_inj.1 same))

/-! ## Groups -/

theorem groups_take : ∀ (bytes : List UInt8) (count : Nat),
    (groups bytes).take count = groups (bytes.take (2 * count))
  | [], count => by rw [List.take_nil]; exact List.take_nil
  | [b], 0 => rfl
  | [b], count + 1 => rfl
  | hi :: lo :: rest, 0 => rfl
  | hi :: lo :: rest, count + 1 => by
    rw [Nat.mul_succ, groups, List.take_succ_cons, groups_take rest count]
    rfl

theorem length_groups : ∀ bytes : List UInt8, (groups bytes).length = bytes.length / 2
  | [] => rfl
  | [_] => by simp [groups]
  | hi :: lo :: rest => by
    rw [groups, List.length_cons, length_groups rest, List.length_cons, List.length_cons]
    omega

/-- Pairs of bytes are told by their groups. -/
theorem groups_inj : ∀ (bytes bytes' : List UInt8), bytes.length % 2 = 0 →
    bytes.length = bytes'.length → groups bytes = groups bytes' → bytes = bytes'
  | [], [], _, _, _ => rfl
  | hi :: lo :: rest, hi' :: lo' :: rest', even, same, h => by
    rw [groups, groups, List.cons.injEq] at h
    rw [List.length_cons, List.length_cons] at even same
    have small := lo.toNat_lt
    have small' := lo'.toNat_lt
    have high : hi = hi' := UInt8.toNat_inj.1 (by omega)
    have low : lo = lo' := UInt8.toNat_inj.1 (by omega)
    rw [high, low, groups_inj rest rest' (by omega) (by simpa using same) h.2]

/-! ## Runs of zeros -/

theorem replicate_leadingZeros (gs : List Nat) :
    List.replicate (leadingZeros gs) 0 ++ gs.drop (leadingZeros gs) = gs := by
  induction gs with
  | nil => rfl
  | cons g gs ih =>
    unfold leadingZeros at ih ⊢
    rw [List.takeWhile_cons]
    split
    · next zero =>
      rw [List.length_cons, List.replicate_succ, List.cons_append, List.drop_succ_cons, ih,
        beq_iff_eq.1 zero]
    · rfl

/-- A run lies inside the groups and has zeros only. -/
theorem longestZeroRun_spec (gs : List Nat) :
    gs.take (longestZeroRun gs).1 ++ List.replicate (longestZeroRun gs).2 0 ++
      gs.drop ((longestZeroRun gs).1 + (longestZeroRun gs).2) = gs := by
  induction gs with
  | nil => rfl
  | cons g gs ih =>
    rw [longestZeroRun]
    dsimp only
    split
    · dsimp only
      rw [List.take_zero, List.nil_append, Nat.zero_add, replicate_leadingZeros]
    · dsimp only
      rw [List.take_succ_cons, List.cons_append, List.cons_append, Nat.add_right_comm,
        List.drop_succ_cons, ih]

/-! ## Version 6 -/

/-- The digits of the groups of a row; a row without groups is one empty part. -/
def parts (gs : List Nat) : List (List Char) :=
  if gs = [] then [[]] else gs.map (Nat.toDigits 16)

theorem parts_ne_nil (gs : List Nat) : parts gs ≠ [] := by
  unfold parts
  split
  · exact List.cons_ne_nil _ _
  · next some => exact List.map_eq_nil_iff.not.2 some

theorem notMem_parts {c : Char} (foreign : Foreign c) (gs : List Nat) :
    ∀ part ∈ parts gs, c ∉ part := by
  unfold parts
  split
  · simp
  · exact List.forall_mem_map.2 fun g _ => notMem_toDigits foreign (by decide) (by decide) g

theorem toList_joinGroups (gs : List Nat) : (joinGroups gs).toList = [':'].intercalate (parts gs) := by
  have colon : ":".toList = [':'] := rfl
  unfold joinGroups parts
  rw [String.toList_intercalate, colon, List.map_map]
  split
  · next none => rw [none]; rfl
  · congr 1
    exact List.map_congr_left fun g _ => String.toList_ofList

/-- A row that has something in it has no empty part. -/
theorem nil_notMem_parts {gs : List Nat} (some : gs ≠ []) : [] ∉ parts gs := by
  unfold parts
  rw [if_neg some, List.mem_map]
  rintro ⟨g, -, empty⟩
  exact Nat.toDigits_ne_nil empty

theorem parts_inj {gs gs' : List Nat} (some : gs ≠ []) (some' : gs' ≠ [])
    (h : parts gs = parts gs') : gs = gs' := by
  unfold parts at h
  rw [if_neg some, if_neg some'] at h
  exact List.map_injective_iff.2 (fun _ _ => toDigits_inj) h

/-- The row before the first empty part. -/
theorem front_inj {gs gs' : List Nat} {rest rest' : List (List Char)}
    (h : parts gs ++ [] :: rest = parts gs' ++ [] :: rest') : gs = gs' := by
  have front (gs : List Nat) (rest : List (List Char)) :
      (parts gs ++ [] :: rest).takeWhile (· ≠ []) = gs.map (Nat.toDigits 16) := by
    unfold parts
    split
    · next none =>
      rw [none]
      rfl
    · rw [List.takeWhile_append_of_pos, List.takeWhile_cons_of_neg (by simp), List.append_nil]
      refine List.forall_mem_map.2 fun g _ => ?_
      simp [Nat.toDigits_ne_nil]
  have digits := congrArg (List.takeWhile (· ≠ [])) h
  rw [front, front] at digits
  exact List.map_injective_iff.2 (fun _ _ => toDigits_inj) digits

theorem reverse_parts (gs : List Nat) : (parts gs).reverse = parts gs.reverse := by
  unfold parts
  simp only [List.reverse_eq_nil_iff]
  split
  · rfl
  · rw [List.map_reverse]

/-- Two rows with an empty part between them can be told from the whole. -/
theorem rows_inj {as bs as' bs' : List Nat}
    (h : parts as ++ [] :: parts bs = parts as' ++ [] :: parts bs') : as = as' ∧ bs = bs' := by
  refine ⟨front_inj h, List.reverse_inj.1 ?_⟩
  have back := congrArg List.reverse h
  rw [List.reverse_append, List.reverse_append, List.reverse_cons, List.reverse_cons,
    List.append_assoc, List.append_assoc, List.singleton_append, List.singleton_append,
    reverse_parts, reverse_parts, reverse_parts, reverse_parts] at back
  exact front_inj back

/-- The groups of an address that does not stand for one of version 4. -/
def groupsText (gs : List Nat) : String :=
  let (start, length) := longestZeroRun gs
  if length ≤ 1 then joinGroups gs
  else joinGroups (gs.take start) ++ "::" ++ joinGroups (gs.drop (start + length))

theorem ipv6Text_eq (octets : List UInt8) :
    ipv6Text octets =
      if (groups octets).take 6 = [0, 0, 0, 0, 0, 0xFFFF] then
        "::ffff:" ++ ipv4Text (octets.drop 12)
      else groupsText (groups octets) :=
  rfl

/-- What stands between the colons of the groups. -/
def shownParts (gs : List Nat) : List (List Char) :=
  if (longestZeroRun gs).2 ≤ 1 then parts gs
  else parts (gs.take (longestZeroRun gs).1) ++
    [] :: parts (gs.drop ((longestZeroRun gs).1 + (longestZeroRun gs).2))

theorem toList_groupsText (gs : List Nat) :
    (groupsText gs).toList = [':'].intercalate (shownParts gs) := by
  have colons : "::".toList = [':', ':'] := rfl
  unfold groupsText shownParts
  dsimp only
  split
  · exact toList_joinGroups gs
  · rw [String.toList_append, String.toList_append, toList_joinGroups, toList_joinGroups, colons,
      intercalate_append _ (parts_ne_nil _) (List.cons_ne_nil _ _), List.append_assoc,
      List.append_assoc]
    congr 1
    obtain ⟨part, rest, row⟩ := List.exists_cons_of_ne_nil (parts_ne_nil
      (gs.drop ((longestZeroRun gs).1 + (longestZeroRun gs).2)))
    rw [row, List.intercalate_cons_cons]
    rfl

theorem notMem_shownParts {c : Char} (foreign : Foreign c) (gs : List Nat) :
    ∀ part ∈ shownParts gs, c ∉ part := by
  unfold shownParts
  split
  · exact notMem_parts foreign gs
  · refine List.forall_mem_append.2 ⟨notMem_parts foreign _, List.forall_mem_cons.2 ⟨?_, ?_⟩⟩
    · exact List.not_mem_nil
    · exact notMem_parts foreign _

theorem shownParts_ne_nil (gs : List Nat) : shownParts gs ≠ [] := by
  unfold shownParts
  split
  · exact parts_ne_nil gs
  · exact List.append_ne_nil_of_left_ne_nil (parts_ne_nil _) _

/-- Groups are told by what is shown of them and their number. -/
theorem shownParts_inj {gs gs' : List Nat} (some : gs ≠ []) (same : gs.length = gs'.length)
    (h : shownParts gs = shownParts gs') : gs = gs' := by
  have some' : gs' ≠ [] := fun none => some (List.length_eq_zero_iff.1 (by rw [same, none]; rfl))
  unfold shownParts at h
  split at h <;> split at h
  · exact parts_inj some some' h
  · -- only the text of a run has an empty part
    exact absurd (h ▸ List.mem_append_right _ List.mem_cons_self) (nil_notMem_parts some)
  · exact absurd (h ▸ List.mem_append_right _ List.mem_cons_self) (nil_notMem_parts some')
  · -- the rows before and behind the run give its length, as the groups are equally many
    have run := longestZeroRun_spec gs
    have run' := longestZeroRun_spec gs'
    obtain ⟨front, back⟩ := rows_inj h
    rw [front, back] at run
    have zeros : (longestZeroRun gs).2 = (longestZeroRun gs').2 := by
      have count := congrArg List.length run
      have count' := congrArg List.length run'
      simp only [List.length_append, List.length_replicate] at count count'
      omega
    rw [zeros] at run
    exact run.symm.trans run'

theorem notMem_groupsText {c : Char} (foreign : Foreign c) (colon : c ≠ ':') (gs : List Nat) :
    c ∉ (groupsText gs).toList := by
  rw [toList_groupsText]
  intro hc
  rcases mem_intercalate hc with sep | ⟨part, hp, hc⟩
  · exact colon (List.mem_singleton.1 sep)
  · exact notMem_shownParts foreign gs part hp hc

theorem groupsText_inj {gs gs' : List Nat} (some : gs ≠ []) (same : gs.length = gs'.length)
    (h : groupsText gs = groupsText gs') : gs = gs' := by
  have texts := congrArg String.toList h
  rw [toList_groupsText, toList_groupsText] at texts
  exact shownParts_inj some same (intercalate_inj (notMem_shownParts (by decide) gs)
    (notMem_shownParts (by decide) gs') (shownParts_ne_nil gs) (shownParts_ne_nil gs') texts)

/-- A version 6 address is told by its text. -/
theorem ipv6Text_inj {octets octets' : List UInt8} (count : octets.length = 16)
    (count' : octets'.length = 16) (h : ipv6Text octets = ipv6Text octets') : octets = octets' := by
  have dotted {octets : List UInt8} (count : octets.length = 16) (gs : List Nat) :
      "::ffff:" ++ ipv4Text (octets.drop 12) ≠ groupsText gs := by
    intro same
    refine notMem_groupsText (c := '.') (by decide) (by decide) gs ?_
    rw [← same, String.toList_append, List.mem_append]
    exact .inr (dot_mem_ipv4Text (by rw [List.length_drop]; omega))
  rw [ipv6Text_eq, ipv6Text_eq] at h
  split at h <;> split at h
  · next old old' =>
    have front : octets.take 12 = octets'.take 12 := by
      have heads := old.trans old'.symm
      rw [groups_take, groups_take] at heads
      exact groups_inj _ _ (by rw [List.length_take]; omega)
        (by rw [List.length_take, List.length_take]; omega) heads
    have some {octets : List UInt8} (count : octets.length = 16) : octets.drop 12 ≠ [] := by
      rw [ne_eq, List.drop_eq_nil_iff]
      omega
    rw [String.append_right_inj] at h
    rw [← List.take_append_drop 12 octets, front, ipv4Text_inj (some count) (some count') h,
      List.take_append_drop]
  · exact absurd h (dotted count _)
  · exact absurd h.symm (dotted count' _)
  · have eight {octets : List UInt8} (count : octets.length = 16) : (groups octets).length = 8 := by
      rw [length_groups, count]
    have some : groups octets ≠ [] := fun none => by
      have := eight count
      rw [none] at this
      cases this
    refine groups_inj _ _ (by omega) (count.trans count'.symm) (groupsText_inj some ?_ h)
    rw [eight count, eight count']

/-- Of two runs of one length the first is left out. -/
example : ipv6Text [0x20, 0x01, 0x0d, 0xb8, 0, 0, 0, 0, 0, 1, 0, 0, 0, 0, 0, 1] =
    "2001:db8::1:0:0:1" := by
  decide

/-- No other character than these is in the text of a version 6 address. -/
theorem notMem_ipv6Text {c : Char} (foreign : Foreign c) (dot : c ≠ '.') (colon : c ≠ ':')
    (octets : List UInt8) : c ∉ (ipv6Text octets).toList := by
  have mark : "::ffff:".toList = [':', ':', Nat.digitChar 15, Nat.digitChar 15, Nat.digitChar 15,
    Nat.digitChar 15, ':'] := rfl
  have digit : c ≠ Nat.digitChar 15 := (foreign.2.2 15 (by decide)).symm
  rw [ipv6Text_eq]
  split
  · rw [String.toList_append, List.mem_append, not_or, mark]
    refine ⟨?_, notMem_ipv4Text foreign dot _⟩
    simp only [List.mem_cons, List.not_mem_nil, or_false, colon, digit, not_false_eq_true]
  · exact notMem_groupsText foreign colon _

end SyscallDecode.Socket
