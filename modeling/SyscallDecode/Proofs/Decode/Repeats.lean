/-
Texts that overlays repeat. The overlay of a pointer is made of what was read behind it: a string, the
strings of an array, an address, a message. With values for all answers it has a word for a failure
exactly where a text that it repeats has one.
-/
import SyscallDecode.Proofs.Decode.Lengths
import SyscallDecode.Proofs.Decode.OwnWords
import SyscallDecode.Proofs.Decode.StringArray

namespace SyscallDecode

open SyscallDecode.Text

namespace Overlay

variable {w : World} {space : AddressSpace} {config : Config} {call : Invocation} {arg : Argument}
  {address slot pointer : UInt64} {name text : String} {limit remaining index : Nat} {type : CType}

/-! ## What an overlay repeats -/

/-- A pointer of an array is reached from a slot on, within so many slots and before a null. -/
def Reached (w : World) (space : AddressSpace) (type : CType) : Nat → UInt64 → UInt64 → Prop
  | 0, _, _ => False
  | remaining + 1, slot, pointer => ∃ first,
    (Cursor.value ⟨slot, some type⟩ space).on w = .ok first ∧ first ≠ 0 ∧
      (pointer = first ∨ Reached w space type remaining (slot + UInt64.ofNat type.size) pointer)

/-- A text that an overlay repeats from what was read: the string at a path, in a buffer or behind a
pointer of an array, or a whole address or message. -/
def Repeats (w : World) (space : AddressSpace) (config : Config) (call : Invocation)
    (arg : Argument) (address : UInt64) (text : String) : Prop :=
  match arg.role with
  | .path => ∃ bytes, (Reading.string space address config.stringLimit).on w = .ok bytes ∧
      text = graphicText bytes
  | .buffer index => ∃ count bytes, call.register index = .ok count ∧
      (Reading.buffer space address (wantedBytes config.bufferLimit count.toNat)).on w = .ok bytes ∧
      text = graphicText bytes
  | .stringArray => ∃ type pointer bytes, (Reading.typeNamed "char __user *").on w = .ok type ∧
      Reached w space type maxStrings address pointer ∧
      (Reading.string space pointer config.stringLimit).on w = .ok bytes ∧ text = decodeLossy bytes
  | .socketAddress length => (socketAddress space call length address).on w = .ok ("\n" ++ text)
  | .messageHeader => ∃ message, (Socket.messageAt space address).on w = .ok message ∧
      text = message.value
  | _ => False

/-! ## Paths and buffers -/

theorem speaks_path (shown : (path space limit address).on w = .ok text) :
    Fresh text ∧ ∃ bytes, (Reading.string space address limit).on w = .ok bytes ∧
      (Speaks text ↔ Speaks (graphicText bytes)) := by
  obtain ⟨bytes, read, told⟩ := (Course.on_bind_eq_ok w).1 shown
  cases told
  refine ⟨?_, bytes, read, ?_⟩
  · rw [String.append_assoc, String.append_assoc]
    exact fresh_append (by decide) (by decide)
  · have silent : ¬ Speaks ("\nhex: " ++ hexDump bytes ++ " string: ") := by
      refine not_speaks_of_notMem (c := 'o') (by decide) ?_
      simp only [String.toList_append, List.mem_append, not_or]
      exact ⟨⟨by decide, notMem_hexDump (by decide) bytes⟩, by decide⟩
    rw [speaks_append_of_closed (closed_append (by decide) (by decide)), or_iff_right silent,
      speaks_quote]

theorem not_speaks_bufferHead (count : Nat) : ¬ Speaks (bufferHead count) := by
  have mark : ¬ Speaks "\nbuffer content hex (of size " := by decide
  have number : ¬ Speaks (toString count ++ "):\n") := by
    refine not_speaks_of_notMem (c := 'o') (by decide) ?_
    rw [String.toList_append, List.mem_append, not_or]
    exact ⟨notMem_toString (by decide) count, by decide⟩
  unfold bufferHead
  rw [String.append_assoc, speaks_append_of_closed (by decide), or_iff_right mark]
  exact number

theorem closed_bufferHead (count : Nat) : Closed (bufferHead count) :=
  closed_append (by decide) (by decide)

theorem speaks_bufferText (count : Nat) (bytes : List UInt8) :
    Speaks (bufferText count bytes) ↔ Speaks (graphicText bytes) := by
  have mark : ¬ Speaks "\nbuffer content string: " := by decide
  have dump : ¬ Speaks (hexDump bytes) :=
    not_speaks_of_notMem (c := 'o') (by decide) (notMem_hexDump (by decide) bytes)
  rw [bufferText_eq, speaks_append_of_closed (closed_bufferHead count),
    or_iff_right (not_speaks_bufferHead count),
    speaks_append_of_fresh (fresh_append (by decide) (by decide)), or_iff_right dump,
    speaks_append_of_closed (by decide), or_iff_right mark, speaks_quote]

/-- A buffer begins with a word of its own, which is not the beginning of another. -/
theorem bufferText_front (count : Nat) (bytes : List UInt8) :
    Fresh (bufferText count bytes) ∧ (bufferText count bytes).toList ≠ [] := by
  unfold bufferText
  simp only [String.append_assoc]
  refine ⟨fresh_append (by decide) (by decide), ?_⟩
  simp

theorem closed_bufferText (count : Nat) (bytes : List UInt8) : Closed (bufferText count bytes) :=
  closed_append (quote_ne_nil _) (closed_quote _)

theorem speaks_buffer (shown : (buffer space config call index address).on w = .ok text) :
    Fresh text ∧ ∃ count bytes, call.register index = .ok count ∧
      (Reading.buffer space address (wantedBytes config.bufferLimit count.toNat)).on w = .ok bytes ∧
      (Speaks text ↔ Speaks (graphicText bytes)) := by
  obtain ⟨count, held, shown⟩ := (Course.on_bind_eq_ok w).1 shown
  obtain ⟨bytes, read, told⟩ := (Course.on_bind_eq_ok w).1 shown
  have counted : call.register index = .ok count := by
    unfold sibling at held
    cases register : call.register index with
    | ok value => rw [register] at held; cases held; rfl
    | error f => rw [register] at held; cases held
  dsimp only at told
  split at told
  · cases told
    have note : ¬ Speaks (" (first " ++ toString (wantedBytes config.bufferLimit count.toNat) ++
        " of " ++ toString count.toNat ++ " bytes)") := by
      refine not_speaks_of_notMem (c := 'n') (by decide) ?_
      simp only [String.toList_append, List.mem_append, not_or]
      exact ⟨⟨⟨⟨by decide, notMem_toString (by decide) _⟩, by decide⟩,
        notMem_toString (by decide) _⟩, by decide⟩
    simp only [String.append_assoc] at note ⊢
    obtain ⟨fresh, some⟩ := bufferText_front count.toNat bytes
    refine ⟨fresh_append some fresh, count, bytes, counted, read,
      ?_⟩
    rw [speaks_append_of_closed (closed_bufferText _ _), or_iff_left note, speaks_bufferText]
  · cases told
    exact ⟨(bufferText_front _ _).1, count, bytes, counted, read, speaks_bufferText _ _⟩

/-! ## Arrays of strings -/

theorem speaks_entryText (plain : 'o' ∉ name.toList) (index : Nat) (pointer : UInt64)
    (told : String) : Speaks (entryText name index pointer told) ↔ Speaks told := by
  have front : ¬ Speaks ("\n" ++ name ++ "[" ++ toString index ++ "] @ " ++
      hexMarked pointer.toNat ++ " -> ") := by
    refine not_speaks_of_notMem (c := 'o') (by decide) ?_
    simp only [String.toList_append, List.mem_append, not_or]
    exact ⟨⟨⟨⟨⟨⟨by decide, plain⟩, by decide⟩, notMem_toString (by decide) _⟩, by decide⟩,
      notMem_hexMarked (by decide) _⟩, by decide⟩
  unfold entryText
  rw [speaks_append_of_closed (closed_append (by decide) (by decide)), or_iff_right front]

theorem separate_entryText (name : String) (index : Nat) (pointer : UInt64) (text : String) :
    Separate (entryText name index pointer (quote text)) where
  some := by simp [entryText]
  fresh := by
    unfold entryText
    simp only [String.append_assoc]
    exact fresh_append (by decide) (by decide)
  closed := closed_append (quote_ne_nil text) (closed_quote text)

theorem on_stringEntry_of_answered
    (answered : (stringEntry space name limit index pointer).Answered w) :
    ∃ bytes, (Reading.string space pointer limit).on w = .ok bytes ∧
      (stringEntry space name limit index pointer).on w =
        .ok ⟨entryText name index pointer (quote (decodeLossy bytes)), false⟩ := by
  obtain ⟨bytes, read⟩ := answered.first.of_settle.on_eq_ok
    (Reading.string_within (T := { asks := fun _ => True }) (fun _ _ => trivial) _ _) fun _ h => h
  refine ⟨bytes, read, ?_⟩
  unfold stringEntry
  rw [Course.on_bind_ok w (Reading.on_settle_ok w read)]
  rfl

/-- The entries have the words of the strings behind the pointers that are reached. -/
theorem speaks_stringEntries (plain : 'o' ∉ name.toList) {entries : List (Noted String)}
    (answered : (stringEntries space name limit type index remaining slot).Answered w)
    (shown : (stringEntries space name limit type index remaining slot).on w = .ok entries) :
    (∀ entry ∈ entries, Separate entry.value) ∧
    ((∃ entry ∈ entries, Speaks entry.value) ↔
      ∃ pointer bytes, Reached w space type remaining slot pointer ∧
        (Reading.string space pointer limit).on w = .ok bytes ∧ Speaks (decodeLossy bytes)) := by
  induction remaining generalizing index slot entries with
  | zero =>
    cases shown
    have silent : ¬ Speaks ("\n... stopped after " ++ toString maxStrings ++ " entries") := by decide
    simp only [List.mem_singleton, forall_eq, exists_eq_left, Reached, false_and, exists_false,
      iff_false]
    exact ⟨⟨by decide, by decide, by decide⟩, silent⟩
  | succ remaining ih =>
    unfold stringEntries at answered shown
    obtain ⟨first, held, shown⟩ := (Course.on_bind_eq_ok w).1 shown
    have answered := answered.second held
    split at shown
    · next null =>
      cases shown
      have none : ¬ ∃ pointer, Reached w space type (remaining + 1) slot pointer := by
        rintro ⟨pointer, first', held', nonnull, -⟩
        cases held.symm.trans held'
        exact nonnull null
      simp [fun pointer => not_exists.1 none pointer]
    · next nonnull =>
      rw [if_neg nonnull] at answered
      obtain ⟨bytes, read, told⟩ := on_stringEntry_of_answered answered.first.of_ofTelling
      have entry : (Reading.ofTelling (stringEntry space name limit index first)).on w =
          .ok ⟨entryText name index first (quote (decodeLossy bytes)), false⟩ := by
        rw [Reading.on_ofTelling, told]
        rfl
      rw [Course.on_bind_ok w entry] at shown
      have answered := (answered.second entry).first
      obtain ⟨later, rest, shown⟩ := (Course.on_bind_eq_ok w).1 shown
      cases shown
      obtain ⟨marked, speaks⟩ := ih answered rest
      refine ⟨List.forall_mem_cons.2 ⟨separate_entryText _ _ _ _, marked⟩, ?_⟩
      rw [List.exists_mem_cons_iff, speaks_entryText plain, speaks_quote, speaks]
      constructor
      · rintro (here | ⟨pointer, bytes', reached, read', behind⟩)
        · exact ⟨first, bytes, ⟨first, held, nonnull, .inl rfl⟩, read, here⟩
        · exact ⟨pointer, bytes', ⟨first, held, nonnull, .inr reached⟩, read', behind⟩
      · rintro ⟨pointer, bytes', ⟨first', held', -, place⟩, read', told⟩
        cases held.symm.trans held'
        rcases place with rfl | reached
        · cases read.symm.trans read'
          exact .inl told
        · exact .inr ⟨pointer, bytes', reached, read', told⟩

theorem speaks_stringArray (plain : 'o' ∉ name.toList) {overlay : Noted String}
    (answered : (stringArray space name limit address).Answered w)
    (shown : (stringArray space name limit address).on w = .ok overlay) :
    Fresh overlay.value ∧ ∃ type, (Reading.typeNamed "char __user *").on w = .ok type ∧
      (Speaks overlay.value ↔
        ∃ pointer bytes, Reached w space type maxStrings address pointer ∧
          (Reading.string space pointer limit).on w = .ok bytes ∧ Speaks (decodeLossy bytes)) := by
  obtain ⟨type, known, shown⟩ := (Course.on_bind_eq_ok w).1 shown
  obtain ⟨entries, listed, told⟩ := (Course.on_bind_eq_ok w).1 shown
  cases told
  obtain ⟨separate, speaks⟩ := speaks_stringEntries plain (answered.second known).first listed
  have items : ∀ item ∈ entries.map Noted.value, Separate item := by
    intro item hi
    obtain ⟨entry, he, rfl⟩ := List.mem_map.1 hi
    exact separate entry he
  refine ⟨fresh_join items, type, known, ?_⟩
  rw [← speaks]
  refine (speaks_join items).trans ?_
  simp

/-! ## By role -/

theorem speaks_feed (text : String) : Speaks ("\n" ++ text) ↔ Speaks text :=
  (speaks_append_of_closed (by decide)).trans (or_iff_right (by decide))

theorem on_whole {r : Reading String} {overlay : Noted String}
    (shown : (whole r).on w = .ok overlay) : r.on w = .ok overlay.value := by
  obtain ⟨text, told, same⟩ := (Course.on_bind_eq_ok w).1 shown
  cases same
  exact told

/-- An overlay has the words of what it repeats. -/
theorem speaks_ofRole (silent : arg.Silent) {overlay : Noted String}
    (answered : (ofRole space config call arg address).Answered w)
    (shown : (ofRole space config call arg address).on w = .ok overlay) :
    Fresh overlay.value ∧ (Speaks overlay.value ↔
      ∃ text, Repeats w space config call arg address text ∧ Speaks text) := by
  unfold ofRole at answered shown
  unfold Repeats
  cases role : arg.role with
  | path =>
    simp only [role] at answered shown ⊢
    obtain ⟨fresh, bytes, read, speaks⟩ := speaks_path (on_whole shown)
    exact ⟨fresh, by simp [speaks, read]⟩
  | buffer index =>
    simp only [role] at answered shown ⊢
    obtain ⟨fresh, count, bytes, held, read, speaks⟩ := speaks_buffer (on_whole shown)
    exact ⟨fresh, by simp [speaks, held, read]⟩
  | stringArray =>
    simp only [role] at answered shown ⊢
    obtain ⟨fresh, type, known, speaks⟩ := speaks_stringArray (silent.name role) answered shown
    refine ⟨fresh, speaks.trans ⟨?_, ?_⟩⟩
    · rintro ⟨pointer, bytes, reached, read, told⟩
      exact ⟨_, ⟨type, pointer, bytes, known, reached, read, rfl⟩, told⟩
    · rintro ⟨_, ⟨type', pointer, bytes, known', reached, read, rfl⟩, told⟩
      cases known.symm.trans known'
      exact ⟨pointer, bytes, reached, read, told⟩
  | socketAddress length =>
    simp only [role] at answered shown ⊢
    have read := on_whole shown
    obtain ⟨count, -, given⟩ := (Course.on_bind_eq_ok w).1 read
    obtain ⟨text, -, told⟩ := (Course.on_bind_eq_ok w).1 given
    have value : "\n" ++ text = overlay.value := Except.ok.inj told
    rw [← value] at read ⊢
    refine ⟨fresh_append (by decide) (by decide), ?_⟩
    rw [speaks_feed]
    refine ⟨fun speaks => ⟨text, read, speaks⟩, ?_⟩
    rintro ⟨text', read', speaks⟩
    have same := Except.ok.inj (read.symm.trans read')
    rwa [(String.append_right_inj _).1 same]
  | messageHeader =>
    simp only [role] at answered shown ⊢
    obtain ⟨message, read, told⟩ := (Course.on_bind_eq_ok w).1 shown
    cases told
    refine ⟨fresh_append (by decide) (by decide), ?_⟩
    simp [Noted.map, speaks_feed, read]
  | _ =>
    simp only [role] at shown ⊢
    cases shown
    exact ⟨by decide, by simp; decide⟩

end Overlay

end SyscallDecode
