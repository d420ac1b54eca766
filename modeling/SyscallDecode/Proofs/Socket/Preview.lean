/-
Previews of the pieces of a message. Where memory is made of single bytes a preview shows the bytes
that lie at the base of its piece, and a piece without them shows none. Null is the exception: through
it nothing is read, and zeros are shown whatever memory holds there.
-/
import SyscallDecode.Proofs.Socket.Message
import SyscallDecode.Proofs.Text.Dump

namespace SyscallDecode.Socket

open SyscallDecode.Text

/-! ## Lines with bytes -/

/-- The text of a piece that shows these bytes. -/
def pieceText (base length : UInt64) (bytes : List UInt8) : String :=
  "base " ++ hexMarked base.toNat ++ " len " ++ toString length.toNat ++ " hex: " ++
    hexDump bytes ++ " string: " ++ quote (graphicText bytes) ++
    (if previewLength < length.toNat then " ..." else "")

/-- The line of a piece that shows these bytes. -/
def shownLine (index : Nat) (base length : UInt64) (bytes : List UInt8) : String :=
  "\t[" ++ toString index ++ "] " ++ pieceText base length bytes

/-- A line shows its bytes in one way only. -/
theorem shownLine_inj {index : Nat} {base length : UInt64} {bytes bytes' : List UInt8}
    (h : shownLine index base length bytes = shownLine index base length bytes') :
    bytes = bytes' := by
  unfold shownLine pieceText at h
  have same := congrArg String.toList h
  simp only [String.toList_append, List.append_assoc, List.append_cancel_left_eq] at same
  have blank (rest : List Char) : " string: ".toList ++ rest = ' ' :: ("string: ".toList ++ rest) :=
    rfl
  -- what stands behind the dump does not read as more of it
  have stops (rest : List Char) : readDump ("string: ".toList ++ rest) = [] := rfl
  rw [blank, blank] at same
  have read := congrArg readDump same
  rwa [readDump_hexDump _ (stops _), readDump_hexDump _ (stops _)] at read

/-- A line without a preview shows no bytes. -/
theorem lost_ne_shownLine (index : Nat) (base length : UInt64) (bytes : List UInt8)
    (reason : String) :
    "\t[" ++ toString index ++ "] " ++ ("cannot dereference: " ++ reason) ≠
      shownLine index base length bytes := by
  intro h
  unfold shownLine pieceText at h
  have same := congrArg String.toList h
  simp only [String.toList_append, List.append_assoc, List.append_cancel_left_eq] at same
  cases same

/-! ## Bytes of a piece -/

/-- What memory holds of a piece, as far as it may be shown. -/
def held (cell : AddressSpace → UInt64 → Option UInt8) (space : AddressSpace)
    (base length : UInt64) : List (Option UInt8) :=
  (List.range (min length.toNat previewLength)).map fun k => cell space (base + UInt64.ofNat k)

/-- Bytes that a line shows of a piece are those that memory holds, so that none are shown where not
all of them are there. -/
def Faithful (cell : AddressSpace → UInt64 → Option UInt8) (space : AddressSpace) (index : Nat)
    (base length : UInt64) (line : String) : Prop :=
  ∀ bytes, line = shownLine index base length bytes → bytes.map some = held cell space base length

variable {t : Target} {cell : AddressSpace → UInt64 → Option UInt8} {space : AddressSpace}

/-- A piece of which the entry can be read at once comes down to its preview. -/
theorem on_pieceAt (memory : t.ByteAddressed cell) {address : UInt64} {entry : List UInt8}
    (read : t.read space address pieceSize = .ok entry) :
    (pieceAt space address).on t.world =
      ((previewAt space (wordIn entry 0 8) (min (wordIn entry 8 8).toNat previewLength)).on
        t.world).map (pieceText (wordIn entry 0 8) (wordIn entry 8 8)) := by
  have word {start size : Nat} (inside : start + size ≤ pieceSize) (small : size ≤ 8) :=
    memory.readUnsigned_of_read read inside small
  have base : (Reading.pointer space address).on t.world = .ok (wordIn entry 0 8) := by
    have zero := @word 0 8 (by decide) (by decide)
    rwa [offset_zero] at zero
  have length : (Reading.unsigned space (address + 8) 8).on t.world = .ok (wordIn entry 8 8) :=
    @word 8 8 (by decide) (by decide)
  unfold pieceAt
  rw [Course.on_bind_ok _ base, Course.on_bind_ok _ length, Course.on_bind]
  rfl

variable (memory : t.ByteAddressed cell) (h : MessageHeader) (index : Nat) {entry : List UInt8}

include memory

theorem lineOn_of_shown (read : t.read space (h.entry index) pieceSize = .ok entry)
    {bytes : List UInt8}
    (preview : (previewAt space (wordIn entry 0 8)
      (min (wordIn entry 8 8).toNat previewLength)).on t.world = .ok bytes) :
    ((piecePlan space h index).lineOn t).value =
      shownLine index (wordIn entry 0 8) (wordIn entry 8 8) bytes := by
  unfold LinePlan.lineOn piecePlan
  dsimp only
  rw [on_pieceAt memory read, preview]
  rfl

theorem lineOn_of_lost (read : t.read space (h.entry index) pieceSize = .ok entry) {stop : Stop}
    (preview : (previewAt space (wordIn entry 0 8)
      (min (wordIn entry 8 8).toNat previewLength)).on t.world = .error stop) :
    ((piecePlan space h index).lineOn t).value =
      "\t[" ++ toString index ++ "] " ++ ("cannot dereference: " ++ stop.message) := by
  unfold LinePlan.lineOn piecePlan
  dsimp only
  rw [on_pieceAt memory read, preview]
  rfl

/-- Through a base that is not null a preview shows what memory holds. -/
theorem faithful_of_base (read : t.read space (h.entry index) pieceSize = .ok entry)
    (nonnull : wordIn entry 0 8 ≠ 0) :
    Faithful cell space index (wordIn entry 0 8) (wordIn entry 8 8)
        ((piecePlan space h index).lineOn t).value ∧
      ((∀ item ∈ held cell space (wordIn entry 0 8) (wordIn entry 8 8), item.isSome) →
        ∃ bytes, ((piecePlan space h index).lineOn t).value =
          shownLine index (wordIn entry 0 8) (wordIn entry 8 8) bytes) := by
  have asked : (previewAt space (wordIn entry 0 8)
      (min (wordIn entry 8 8).toNat previewLength)).on t.world =
        t.read space (wordIn entry 0 8) (min (wordIn entry 8 8).toNat previewLength) := by
    unfold previewAt
    rw [if_neg nonnull]
    rfl
  cases preview : t.read space (wordIn entry 0 8) (min (wordIn entry 8 8).toNat previewLength) with
  | ok bytes =>
    have line := lineOn_of_shown memory h index read (asked.trans preview)
    refine ⟨fun bytes' shown => ?_, fun _ => ⟨bytes, line⟩⟩
    obtain rfl := shownLine_inj (line.symm.trans shown)
    exact (memory.read_iff _ _ _ _).1 preview
  | error stop =>
    have line := lineOn_of_lost memory h index read (asked.trans preview)
    refine ⟨fun bytes shown => ?_, fun all => ?_⟩
    · exact absurd (line.symm.trans shown) (lost_ne_shownLine _ _ _ _ _)
    · obtain ⟨bytes, there⟩ := exists_map_some_iff.2 all
      have whole := (memory.read_iff space _ _ bytes).2 there
      rw [preview] at whole
      cases whole

/-- Through null zeros are shown. -/
theorem lineOn_of_null (read : t.read space (h.entry index) pieceSize = .ok entry)
    (null : wordIn entry 0 8 = 0) :
    ((piecePlan space h index).lineOn t).value =
      shownLine index (wordIn entry 0 8) (wordIn entry 8 8)
        (List.replicate (min (wordIn entry 8 8).toNat previewLength) 0) := by
  refine lineOn_of_shown memory h index read ?_
  unfold previewAt
  rw [if_pos null]
  rfl

/-- These are the bytes of memory only where it holds zeros at null. -/
theorem faithful_null_iff (read : t.read space (h.entry index) pieceSize = .ok entry)
    (null : wordIn entry 0 8 = 0) :
    Faithful cell space index (wordIn entry 0 8) (wordIn entry 8 8)
        ((piecePlan space h index).lineOn t).value ↔
      ∀ item ∈ held cell space 0 (wordIn entry 8 8), item = some 0 := by
  have line := lineOn_of_null memory h index read null
  have zeros : (List.replicate (min (wordIn entry 8 8).toNat previewLength) (0 : UInt8)).map some =
      held cell space (wordIn entry 0 8) (wordIn entry 8 8) ↔
        ∀ item ∈ held cell space 0 (wordIn entry 8 8), item = some 0 := by
    rw [null, List.map_replicate, eq_comm, List.eq_replicate_iff]
    unfold held
    rw [List.length_map, List.length_range]
    exact and_iff_right rfl
  rw [← zeros]
  constructor
  · exact fun faithful => faithful _ line
  · intro same bytes shown
    rwa [← shownLine_inj (line.symm.trans shown)]

omit memory

/-! ## Messages -/

/-- The line of a shown piece comes behind those of the address and of the pieces as a whole. -/
theorem getElem?_plan {index : Nat} (shown : index < h.shown) :
    (plan space h)[index + 2]? = some (piecePlan space h index) := by
  unfold plan piecePlans
  have inside : index < ((List.range h.shown).map (piecePlan space h)).length := by
    rwa [List.length_map, List.length_range]
  rw [List.append_assoc, List.append_assoc]
  simp only [List.cons_append, List.nil_append, List.getElem?_cons_succ]
  rw [List.getElem?_append_left inside, List.getElem?_map, List.getElem?_range shown,
    Option.map_some]

include memory in
/-- Previews in a message. In the line of a piece of which the entry can be read, bytes are shown
where all are there, and the bytes shown are those that memory holds at the base, unless the base is
null and memory does not hold zeros there. -/
theorem readMessage_previews {address : UInt64} {text : Noted String}
    (decoded : readMessage t space address = .ok text) :
    ∃ (h : MessageHeader) (lines : List String),
      headerAttempts t space address = h.words.map .ok ∧
      text.value = "\n".intercalate lines ∧
      ∀ index < h.shown, ∀ entry, t.read space (h.entry index) pieceSize = .ok entry →
        ∃ line, lines[index + 2]? = some line ∧
          ((∀ item ∈ held cell space (wordIn entry 0 8) (wordIn entry 8 8), item.isSome) →
            ∃ bytes, line = shownLine index (wordIn entry 0 8) (wordIn entry 8 8) bytes) ∧
          (Faithful cell space index (wordIn entry 0 8) (wordIn entry 8 8) line ↔
            wordIn entry 0 8 ≠ 0 ∨
              ∀ item ∈ held cell space 0 (wordIn entry 8 8), item = some 0) := by
  rcases readMessage_ends memory.calm space address with ⟨stop, -, ends⟩ | ⟨h, gives, ends⟩
  · rw [ends] at decoded
    cases decoded
  · rw [ends] at decoded
    cases decoded
    refine ⟨h, (plan space h).map fun p => (p.lineOn t).value, gives, ?_, ?_⟩
    · simp only [Noted.map, Noted.all, List.map_map]
      rfl
    · intro index shown entry read
      refine ⟨((piecePlan space h index).lineOn t).value, ?_, ?_⟩
      · rw [List.getElem?_map, getElem?_plan h shown, Option.map_some]
      · by_cases null : wordIn entry 0 8 = 0
        · have zeros := lineOn_of_null memory h index read null
          refine ⟨fun _ => ⟨_, zeros⟩, ?_⟩
          rw [faithful_null_iff memory h index read null]
          simp only [null, ne_eq, not_true_eq_false, false_or]
        · obtain ⟨faithful, all⟩ := faithful_of_base memory h index read null
          exact ⟨all, iff_of_true faithful (.inl null)⟩

/-- A target that holds a message of two pieces: four bytes at null, where there are none, and two
bytes that are there. -/
def twoPieces : Target :=
  Cells.target
    (fun _ a =>
      match [((0x7011 : UInt64), (0x80 : UInt8)), (0x7018, 2), (0x8008, 4), (0x8011, 0x90),
          (0x8018, 2), (0x9000, 0x68), (0x9001, 0x69)].lookup a with
      | some byte => .ok byte
      | none =>
        if (0x7000 ≤ a ∧ a < 0x7038) ∨ (0x8000 ≤ a ∧ a < 0x8020) then .ok 0
        else .fail (.unreadable a "page not present"))
    catalogueTypes fun name => .fail (.unknownSymbol name)

theorem byteAddressed_twoPieces : ∃ cell, twoPieces.ByteAddressed cell ∧
    held cell (.user 0x1000) 0 4 = [none, none, none, none] := by
  refine ⟨_, Cells.byteAddressed_target _ _ fun space address a => ?_, by decide⟩
  split
  · exact nofun
  · split <;> exact nofun

theorem words_twoPieces {h : MessageHeader}
    (gives : headerAttempts twoPieces (.user 0x1000) 0x7000 = h.words.map .ok) :
    h = ⟨0, 0, 0x8000, 2, 0, 0, 0⟩ := by
  refine MessageHeader.eq_of_words ?_
  exact (List.map_inj_right fun _ _ => Except.ok.inj).1 (gives.symm.trans rfl)

/-- The lines of that message. -/
def twoPiecesLines : List String :=
  ["msg_name: NULL (namelen 0)", "msg_iov: 0x8000 msg_iovlen: 2",
   "\t[0] base 0x0 len 4 hex: 00 00 00 00 string: \"....\"",
   "\t[1] base 0x9000 len 2 hex: 68 69 string: \"hi\"", "msg_control: 0x0 msg_controllen: 0",
   "msg_flags: 0"]

theorem readMessage_twoPieces :
    readMessage twoPieces (.user 0x1000) 0x7000 = .ok ⟨"\n".intercalate twoPiecesLines, false⟩ := by
  have given : (readMessage twoPieces (.user 0x1000) 0x7000).toOption =
      some ⟨"\n".intercalate twoPiecesLines, false⟩ := by decide +kernel
  cases decoded : readMessage twoPieces (.user 0x1000) 0x7000 with
  | error stop => rw [decoded] at given; cases given
  | ok text => rw [decoded] at given; cases given; rfl

/-- The second piece shows its bytes. -/
theorem readMessage_previews_twoPieces :
    ∃ (cell : AddressSpace → UInt64 → Option UInt8) (lines : List String) (line : String)
      (bytes : List UInt8), twoPieces.ByteAddressed cell ∧
      "\n".intercalate twoPiecesLines = "\n".intercalate lines ∧ lines[3]? = some line ∧
      line = shownLine 1 0x9000 2 bytes ∧ Faithful cell (.user 0x1000) 1 0x9000 2 line ∧
      held cell (.user 0x1000) 0x9000 2 = [some 0x68, some 0x69] := by
  obtain ⟨cell, memory, -⟩ := byteAddressed_twoPieces
  obtain ⟨h, lines, gives, text, pieces⟩ := readMessage_previews memory readMessage_twoPieces
  obtain rfl := words_twoPieces gives
  have entry : twoPieces.read (.user 0x1000) 0x8010 pieceSize =
      .ok [0, 0x90, 0, 0, 0, 0, 0, 0, 2, 0, 0, 0, 0, 0, 0, 0] := rfl
  have there : twoPieces.read (.user 0x1000) 0x9000 2 = .ok [0x68, 0x69] := rfl
  have bytes := ((memory.read_iff _ _ _ _).1 there).symm
  obtain ⟨line, place, shown, faithful⟩ := pieces 1 (by decide) _ entry
  obtain ⟨preview, told⟩ := shown (exists_map_some_iff.1 ⟨[0x68, 0x69], bytes.symm⟩)
  exact ⟨cell, lines, line, preview, memory, text, place, told, faithful.2 (.inl (by decide)), bytes⟩

/-- The first piece shows four bytes, though memory holds none at null. -/
theorem invented_twoPieces :
    ∃ cell, twoPieces.ByteAddressed cell ∧
      held cell (.user 0x1000) 0 4 = [none, none, none, none] ∧
      readMessage twoPieces (.user 0x1000) 0x7000 =
        .ok ⟨"\n".intercalate twoPiecesLines, false⟩ ∧
      twoPieces.read (.user 0x1000) 0x8000 pieceSize =
        .ok [0, 0, 0, 0, 0, 0, 0, 0, 4, 0, 0, 0, 0, 0, 0, 0] ∧
      twoPiecesLines[2]? = some (shownLine 0 0 4 [0, 0, 0, 0]) ∧
      ¬ Faithful cell (.user 0x1000) 0 0 4 (shownLine 0 0 4 [0, 0, 0, 0]) := by
  obtain ⟨cell, memory, missing⟩ := byteAddressed_twoPieces
  refine ⟨cell, memory, missing, readMessage_twoPieces, rfl, by decide +kernel, fun faithful => ?_⟩
  have bytes := faithful _ rfl
  rw [missing] at bytes
  cases bytes

end SyscallDecode.Socket
