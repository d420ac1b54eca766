/-
Messages. Reading one fails only with its header, at the first of its seven words that cannot be
read. Every line has a reading of its own, planned from the header alone: a reading that fails leaves
a gap in its line and changes no other.
-/
import SyscallDecode.Proofs.Decode.Gaps
import SyscallDecode.Proofs.Inquiry.Agreement
import SyscallDecode.Proofs.Socket.Flagged
import SyscallDecode.Proofs.Target.Bytes

namespace SyscallDecode

open SyscallDecode.Text
open Course (readTerms)

/-- A reading of nothing but memory is not aborted where memory is calm. -/
theorem Course.Within.not_aborted {t : Target} {space : AddressSpace} {α : Type} {r : Reading α}
    (h : r.Within (readTerms space)) (calm : t.Calm) (a : Abort) :
    r.on t.world ≠ .error (.abort a) := by
  intro aborted
  obtain ⟨q, hq, answer⟩ :=
    (h.stop_or_answer (Reading.stop?_eq_some.2 aborted)).resolve_left id
  obtain ⟨address, length, rfl⟩ := h.asks_of_mem q hq
  exact calm space address length a answer

/-! ## Words one after the other -/

/-- The stop of the first attempt that has one. -/
def firstStop {α : Type} : List (Attempt α) → Option Stop
  | [] => none
  | .ok _ :: rest => firstStop rest
  | .error stop :: _ => some stop

/-- A reading stops with the first of some attempts that does, and else comes to a result that has
to do with the words they give. -/
def Gathers {α : Type} (w : World) (r : Reading α) (attempts : List (Attempt UInt64))
    (fits : α → List UInt64 → Prop) : Prop :=
  (∃ stop, firstStop attempts = some stop ∧ r.on w = .error stop) ∨
    ∃ words result, attempts = words.map .ok ∧ r.on w = .ok result ∧ fits result words

theorem gathers_pure {α : Type} {w : World} {result : α} {fits : α → List UInt64 → Prop}
    (h : fits result []) : Gathers w (pure result) [] fits :=
  .inr ⟨[], result, rfl, rfl, h⟩

/-- A word is read first, and then the others. -/
theorem Gathers.word {α : Type} {w : World} {c : Reading UInt64} {k : UInt64 → Reading α}
    {first : Attempt UInt64} {attempts : List (Attempt UInt64)} {fits : α → List UInt64 → Prop}
    (read : c.on w = first)
    (h : ∀ word, Gathers w (k word) attempts fun result words => fits result (word :: words)) :
    Gathers w (c >>= k) (first :: attempts) fits := by
  subst read
  cases hc : c.on w with
  | error stop => exact .inl ⟨stop, rfl, Course.on_bind_error w hc k⟩
  | ok word =>
    have on := Course.on_bind_ok w hc k
    rcases h word with ⟨stop, stopped, ends⟩ | ⟨words, result, gives, ends, fitting⟩
    · exact .inl ⟨stop, stopped, on.trans ends⟩
    · exact .inr ⟨word :: words, result, by rw [gives, List.map_cons], on.trans ends, fitting⟩

theorem firstStop_map_ok {α : Type} (values : List α) : firstStop (values.map .ok) = none := by
  induction values with
  | nil => rfl
  | cons value rest ih => exact ih

namespace Socket

variable (t : Target) (space : AddressSpace)

/-! ## The header -/

/-- The words of a header in memory order. -/
def MessageHeader.words (h : MessageHeader) : List UInt64 :=
  [h.name, h.nameLength, h.pieces, h.pieceCount, h.control, h.controlLength, h.flags]

theorem MessageHeader.eq_of_words {h h' : MessageHeader} (same : h.words = h'.words) : h = h' := by
  cases h
  cases h'
  cases same
  rfl

/-- Attempts at the words of the header at an address, in the order in which they are made. -/
def headerAttempts (address : UInt64) : List (Attempt UInt64) :=
  [t.readPointer space address, t.readUnsigned space (address + 8) 4,
   t.readPointer space (address + 16), t.readUnsigned space (address + 24) 8,
   t.readPointer space (address + 32), t.readUnsigned space (address + 40) 8,
   t.readUnsigned space (address + 48) 4]

theorem gathers_headerAt (address : UInt64) :
    Gathers t.world (headerAt space address) (headerAttempts t space address)
      fun h words => h.words = words :=
  .word rfl fun _ => .word rfl fun _ => .word rfl fun _ => .word rfl fun _ => .word rfl fun _ =>
  .word rfl fun _ => .word rfl fun _ => gathers_pure rfl

/-! ## The pieces -/

/-- A piece cannot be shown: its entry or the bytes it leads to cannot be read. -/
inductive PieceLost (entry : UInt64) : Stop → Prop
  | base {stop : Stop} : t.readPointer space entry = .error stop → PieceLost entry stop
  | length {base : UInt64} {stop : Stop} : t.readPointer space entry = .ok base →
      t.readUnsigned space (entry + 8) 8 = .error stop → PieceLost entry stop
  | preview {base length : UInt64} {stop : Stop} : t.readPointer space entry = .ok base →
      t.readUnsigned space (entry + 8) 8 = .ok length → base ≠ 0 →
      t.read space base (min length.toNat previewLength) = .error stop → PieceLost entry stop

variable {t space}

/-- Through a null base nothing is read, so nothing can fail. -/
theorem on_previewAt_error {base : UInt64} {length : Nat} {stop : Stop} :
    (previewAt space base length).on t.world = .error stop ↔
      base ≠ 0 ∧ t.read space base length = .error stop := by
  unfold previewAt
  by_cases null : base = 0
  · simp [null]
  · simp only [null, if_false, ne_eq, not_false_eq_true, true_and]
    exact Iff.rfl

theorem pieceAt_lost_iff {entry : UInt64} {stop : Stop} :
    (pieceAt space entry).on t.world = .error stop ↔ PieceLost t space entry stop := by
  unfold pieceAt
  rw [Course.on_bind_eq_error]
  constructor
  · rintro (first | ⟨base, read, rest⟩)
    · exact .base first
    rcases (Course.on_bind_eq_error _).1 rest with second | ⟨length, counted, rest⟩
    · exact .length read second
    rcases (Course.on_bind_eq_error _).1 rest with third | ⟨bytes, -, told⟩
    · obtain ⟨nonnull, lost⟩ := on_previewAt_error.1 third
      exact .preview read counted nonnull lost
    · cases told
  · intro lost
    cases lost with
    | base first => exact .inl first
    | length read second => exact .inr ⟨_, read, (Course.on_bind_eq_error _).2 (.inl second)⟩
    | preview read counted nonnull lost =>
      refine .inr ⟨_, read, (Course.on_bind_eq_error _).2 (.inr ⟨_, counted, ?_⟩)⟩
      exact (Course.on_bind_eq_error _).2 (.inl (on_previewAt_error.2 ⟨nonnull, lost⟩))

/-! ## The plan of a message -/

/-- How a line comes about: what is read for it, and its wording with the text of that and with the
reason why there is none. -/
structure LinePlan where
  reading : Reading String
  told : String → String
  lost : String → String

namespace LinePlan

/-- A line that is known from the header. -/
def fixed (text : String) : LinePlan :=
  ⟨pure text, id, id⟩

/-- The line, once its reading has ended. A reading that fails leaves a gap. -/
def ended (p : LinePlan) : Attempt String → Noted String
  | .ok text => ⟨p.told text, false⟩
  | .error stop => ⟨p.lost ("cannot dereference: " ++ stop.message), true⟩

/-- The line that a target gives. -/
def lineOn (t : Target) (p : LinePlan) : Noted String :=
  p.ended (p.reading.on t.world)

theorem missed_lineOn {p : LinePlan} :
    (p.lineOn t).missed = true ↔ ∃ stop, p.reading.on t.world = .error stop := by
  unfold lineOn
  cases p.reading.on t.world <;> simp [ended]

theorem not_missed_fixed (text : String) : ((fixed text).lineOn t).missed = false := rfl

end LinePlan

variable (space)

/-- The line of the address. -/
def namePlan (h : MessageHeader) : LinePlan :=
  let line := fun text =>
    "msg_name: " ++ text ++ " (namelen " ++ toString h.nameLength.toNat ++ ")"
  if h.name = 0 then .fixed (line "NULL")
  else
    { reading := addressAt space h.name h.nameLength.toNat
      told := fun text => line (hexMarked h.name.toNat ++ " -> " ++ text)
      lost := fun reason => line (hexMarked h.name.toNat ++ " " ++ reason) }

/-- Where the entry of a piece lies. -/
def MessageHeader.entry (h : MessageHeader) (index : Nat) : UInt64 :=
  h.pieces + UInt64.ofNat (index * pieceSize)

/-- The line of a piece. -/
def piecePlan (h : MessageHeader) (index : Nat) : LinePlan where
  reading := pieceAt space (h.entry index)
  told := fun text => "\t[" ++ toString index ++ "] " ++ text
  lost := fun reason => "\t[" ++ toString index ++ "] " ++ reason

/-- How many pieces are shown. -/
def MessageHeader.shown (h : MessageHeader) : Nat :=
  if h.pieces = 0 then 0 else min h.pieceCount.toNat maxPieces

/-- The lines of the pieces, and one for those that are not shown. -/
def piecePlans (h : MessageHeader) : List LinePlan :=
  (List.range h.shown).map (piecePlan space h) ++
    if h.pieces ≠ 0 ∧ maxPieces < h.pieceCount.toNat then
      [.fixed ("\t... " ++ toString (h.pieceCount.toNat - maxPieces) ++ " more")]
    else []

/-- All lines of a message. -/
def plan (h : MessageHeader) : List LinePlan :=
  [namePlan space h,
   .fixed ("msg_iov: " ++ hexMarked h.pieces.toNat ++ " msg_iovlen: " ++
    toString h.pieceCount.toNat)] ++
  piecePlans space h ++
  [.fixed ("msg_control: " ++ hexMarked h.control.toNat ++ " msg_controllen: " ++
    toString h.controlLength.toNat),
   .fixed ("msg_flags: " ++ Flags.messageFlags h.flags)]

/-! ## Messages go by their plan -/

variable {space}

theorem on_nameLine (calm : t.Calm) (h : MessageHeader) :
    (nameLine space h).on t.world = .ok ((namePlan space h).lineOn t) := by
  unfold nameLine nameText namePlan
  split
  · rfl
  · have within := addressAt_within (T := readTerms space) readTerms_reads h.name h.nameLength.toNat
    rw [Course.on_bind]
    unfold LinePlan.lineOn
    rcases name : (addressAt space h.name h.nameLength.toNat).on t.world with (f | a) | text
    · rw [Course.on_bind_ok _ (Reading.on_settle_failure _ name)]
      simp only [Course.on_pure, Except.bind, Noted.map, LinePlan.ended, Stop.message,
        String.append_assoc]
      rfl
    · exact absurd name (within.not_aborted calm a)
    · rw [Course.on_bind_ok _ (Reading.on_settle_ok _ name)]
      rfl

theorem on_orGap {r : Reading String} (calm : ∀ a, r.on t.world ≠ .error (.abort a)) :
    (orGap r).on t.world = .ok ((LinePlan.mk r id id).lineOn t) := by
  unfold orGap LinePlan.lineOn
  rcases read : r.on t.world with (f | a) | text
  · rw [Course.on_bind_ok _ (Reading.on_settle_failure _ read)]
    rfl
  · exact absurd read (calm a)
  · rw [Course.on_bind_ok _ (Reading.on_settle_ok _ read)]
    rfl

theorem on_pieceLine (calm : t.Calm) (h : MessageHeader) (index : Nat) :
    (pieceLine space h index).on t.world = .ok ((piecePlan space h index).lineOn t) := by
  have within := pieceAt_within (T := readTerms space) readTerms_reads (h.entry index)
  unfold pieceLine
  refine (Course.on_bind_ok _ (on_orGap (within.not_aborted calm)) _).trans ?_
  unfold LinePlan.lineOn piecePlan
  cases (pieceAt space (h.entry index)).on t.world <;> rfl

theorem on_shownPieces (calm : t.Calm) (h : MessageHeader) (indices : List Nat) :
    (shownPieces space id h indices).on t.world =
      .ok (indices.map fun index => (piecePlan space h index).lineOn t) := by
  induction indices with
  | nil => rfl
  | cons index rest ih =>
    refine (Course.on_bind_ok _ (on_pieceLine calm h index) _).trans ?_
    rw [Course.on_bind_ok _ ih]
    rfl

theorem on_pieceLines (calm : t.Calm) (h : MessageHeader) :
    (pieceLines space id Noted.plain h).on t.world =
      .ok ((piecePlans space h).map fun p => p.lineOn t) := by
  unfold pieceLines piecePlans MessageHeader.shown
  by_cases null : h.pieces = 0
  · simp [null]
  · simp only [null, if_false, ne_eq, not_false_eq_true, true_and]
    rw [Course.on_bind_ok _ (on_shownPieces calm h _), List.map_append, List.map_map]
    split
    · rw [List.map_singleton]
      rfl
    · rw [List.map_nil, List.append_nil]
      rfl

theorem on_notedLines (calm : t.Calm) (h : MessageHeader) :
    (notedLines space h).on t.world = .ok ((plan space h).map fun p => p.lineOn t) := by
  unfold plan
  refine (Course.on_bind_ok _ (on_nameLine calm h) _).trans ?_
  rw [Course.on_bind_ok _ (on_pieceLines calm h), List.map_append, List.map_append]
  rfl

/-- A message ends with the first word of its header that cannot be read, or by its plan. -/
theorem readMessage_ends (calm : t.Calm) (space : AddressSpace) (address : UInt64) :
    (∃ stop, firstStop (headerAttempts t space address) = some stop ∧
      readMessage t space address = .error stop) ∨
    ∃ h : MessageHeader, headerAttempts t space address = h.words.map .ok ∧
      readMessage t space address =
        .ok ((Noted.all ((plan space h).map fun p => p.lineOn t)).map "\n".intercalate) := by
  unfold readMessage messageAt
  rcases gathers_headerAt t space address with ⟨stop, stopped, on⟩ | ⟨words, h, gives, on, rfl⟩
  · exact .inl ⟨stop, stopped, Course.on_bind_error _ on _⟩
  · have lines : (Reading.ofTelling (notedLines space h)).on t.world =
        .ok ((plan space h).map fun p => p.lineOn t) := by
      rw [Reading.on_ofTelling, on_notedLines calm]
      rfl
    refine .inr ⟨h, gives, ?_⟩
    rw [Course.on_bind_ok _ on, Course.on_bind_ok _ lines]
    rfl

/-- A header that cannot be read ends a message under a flag, which stays as it was. -/
theorem readMessageUnder_of_firstStop {address : UInt64} {stop : Stop}
    (stopped : firstStop (headerAttempts t space address) = some stop) (flag : Bool) :
    readMessageUnder t space address flag = (.error stop, flag) := by
  rcases gathers_headerAt t space address with ⟨stop', stopped', on⟩ | ⟨words, h, gives, -, -⟩
  · rw [stopped] at stopped'
    cases stopped'
    exact runFrom_flaggedMessage_error on flag
  · rw [gives, firstStop_map_ok] at stopped
    cases stopped

/-! ## Gaps -/

theorem namePlan_lost_iff {h : MessageHeader} :
    ((namePlan space h).lineOn t).missed = true ↔
      h.name ≠ 0 ∧ ∃ stop, readAddress t space h.name h.nameLength.toNat = .error stop := by
  unfold namePlan
  by_cases null : h.name = 0
  · simp [null, LinePlan.not_missed_fixed]
  · simp only [null, if_false, ne_eq, not_false_eq_true, true_and]
    exact LinePlan.missed_lineOn

theorem piecePlan_lost_iff {h : MessageHeader} {index : Nat} :
    ((piecePlan space h index).lineOn t).missed = true ↔
      ∃ stop, PieceLost t space (h.entry index) stop := by
  rw [LinePlan.missed_lineOn]
  exact exists_congr fun _ => pieceAt_lost_iff

/-- Only the address and the pieces can leave gaps. -/
theorem plan_lost_iff {h : MessageHeader} :
    ((plan space h).map fun p => p.lineOn t).any Noted.missed = true ↔
      (h.name ≠ 0 ∧ ∃ stop, readAddress t space h.name h.nameLength.toNat = .error stop) ∨
        ∃ index < h.shown, ∃ stop, PieceLost t space (h.entry index) stop := by
  have pieces : ((piecePlans space h).map fun p => p.lineOn t).any Noted.missed = true ↔
      ∃ index < h.shown, ∃ stop, PieceLost t space (h.entry index) stop := by
    unfold piecePlans
    rw [List.map_append, List.any_append, List.map_map, Bool.or_eq_true, List.any_map,
      List.any_eq_true]
    simp only [Function.comp_apply, List.mem_range, piecePlan_lost_iff]
    refine or_iff_left ?_
    split <;> simp [LinePlan.not_missed_fixed]
  unfold plan
  simp only [List.map_append, List.any_append, List.map_cons, List.map_nil, List.any_cons,
    List.any_nil, LinePlan.not_missed_fixed, Bool.or_false, Bool.or_eq_true, namePlan_lost_iff,
    pieces]

/-- A line is the same on two targets that answer alike what is read for it. -/
theorem LinePlan.lineOn_congr {t' : Target} {p : LinePlan}
    (h : ∀ q ∈ p.reading.asked t.world, t.world.answer q = t'.world.answer q) :
    p.lineOn t' = p.lineOn t := by
  unfold lineOn
  rw [(Course.on_congr p.reading h).1]

/-! ## Messages -/

/-- Reading a message fails exactly with its header, at the first word that cannot be read, and then
leaves a flag as it was. Otherwise it has the lines of its plan, and the flag is raised if it was
before, if the address behind a name cannot be read, or if a piece that is shown cannot. On any other
target with the same header each line is the same that is read alike. -/
theorem readMessage_by_plan (t : Target) (space : AddressSpace) (address : UInt64) (before : Bool)
    (calm : t.Calm) :
    (∀ stop, readMessage t space address = .error stop ↔
      firstStop (headerAttempts t space address) = some stop) ∧
    (∀ stop after, readMessageUnder t space address before = (.error stop, after) ↔
      firstStop (headerAttempts t space address) = some stop ∧ after = before) ∧
    (firstStop (headerAttempts t space address) = none →
      ∃ h : MessageHeader, headerAttempts t space address = h.words.map .ok ∧
        readMessage t space address =
          .ok ((Noted.all ((plan space h).map fun p => p.lineOn t)).map "\n".intercalate) ∧
        (∃ after, readMessageUnder t space address before =
            (.ok ("\n".intercalate ((plan space h).map fun p => (p.lineOn t).value)), after) ∧
          (after = true ↔ before = true ∨
            (h.name ≠ 0 ∧ ∃ stop, readAddress t space h.name h.nameLength.toNat = .error stop) ∨
            ∃ index < h.shown, ∃ stop, PieceLost t space (h.entry index) stop)) ∧
        ∀ t' : Target, t'.Calm →
          headerAttempts t' space address = headerAttempts t space address →
          readMessage t' space address =
            .ok ((Noted.all ((plan space h).map fun p => p.lineOn t')).map "\n".intercalate) ∧
          ∀ p ∈ plan space h,
            (∀ q ∈ p.reading.asked t.world, t.world.answer q = t'.world.answer q) →
            p.lineOn t' = p.lineOn t) := by
  rcases readMessage_ends calm space address with ⟨stop, stopped, ends⟩ | ⟨h, gives, ends⟩
  · have under := readMessageUnder_of_firstStop stopped before
    rw [ends, stopped, under]
    refine ⟨fun stop' => ?_, fun stop' after => ?_, fun none => by cases none⟩
    · rw [Except.error.injEq, Option.some.injEq]
    · rw [Prod.mk.injEq, Except.error.injEq, Option.some.injEq, eq_comm (a := before)]
  · have unstopped : firstStop (headerAttempts t space address) = none := by
      rw [gives, firstStop_map_ok]
    have under : readMessageUnder t space address before =
        (.ok ("\n".intercalate ((plan space h).map fun p => (p.lineOn t).value)),
          before || ((plan space h).map fun p => p.lineOn t).any Noted.missed) := by
      refine (runFrom_flaggedMessage_ok ends before).trans ?_
      simp only [Noted.all, Noted.map, List.map_map]
      rfl
    rw [ends, unstopped, under]
    refine ⟨fun stop => ?_, fun stop after => ?_, fun _ => ?_⟩
    · constructor <;> intro h <;> cases h
    · constructor
      · intro h
        cases h
      · rintro ⟨⟨⟩, -⟩
    refine ⟨h, gives, rfl, ⟨_, rfl, ?_⟩, fun t' calm' same => ⟨?_, fun p _ alike => ?_⟩⟩
    · rw [Bool.or_eq_true, plan_lost_iff]
    · rcases readMessage_ends calm' space address with
        ⟨stop, stopped, -⟩ | ⟨h', gives', ends'⟩
      · rw [same, unstopped] at stopped
        cases stopped
      · have words : h'.words = h.words :=
          (List.map_inj_right fun _ _ => Except.ok.inj).1 (gives'.symm.trans (same.trans gives))
        rw [MessageHeader.eq_of_words words] at ends'
        exact ends'
    · exact LinePlan.lineOn_congr alike

/-- A target that holds ones in the place of one header, and nothing else. -/
def headerOnly : Target :=
  Cells.target
    (fun _ a => if 0x7000 ≤ a ∧ a < 0x7038 then .ok 1 else .fail (.unreadable a "page not present"))
    catalogueTypes fun name => .fail (.unknownSymbol name)

theorem byteAddressed_headerOnly : ∃ cell, headerOnly.ByteAddressed cell := by
  refine ⟨_, Cells.byteAddressed_target _ _ fun space address a => ?_⟩
  split <;> rintro ⟨⟩

/-- That header leads nowhere, which is a message with gaps; a header that ends behind it is none. -/
theorem by_plan_headerOnly :
    (∃ message, readMessage headerOnly (.user 0x1000) 0x7000 = .ok message) ∧
    (readMessageUnder headerOnly (.user 0x1000) 0x7000 false).2 = true ∧
    readMessage headerOnly (.user 0x1000) 0x7010 =
      .error (.failure (.unreadable 0x7038 "page not present")) ∧
    readMessageUnder headerOnly (.user 0x1000) 0x7010 false =
      (.error (.failure (.unreadable 0x7038 "page not present")), false) ∧
    (readMessageUnder headerOnly (.user 0x1000) 0x7010 true).2 = true := by
  obtain ⟨_, memory⟩ := byteAddressed_headerOnly
  obtain ⟨-, -, told⟩ := readMessage_by_plan headerOnly (.user 0x1000) 0x7000 false memory.calm
  obtain ⟨stops, kept, -⟩ := readMessage_by_plan headerOnly (.user 0x1000) 0x7010 false memory.calm
  obtain ⟨-, kept', -⟩ := readMessage_by_plan headerOnly (.user 0x1000) 0x7010 true memory.calm
  have stopped : firstStop (headerAttempts headerOnly (.user 0x1000) 0x7010) =
      some (.failure (.unreadable 0x7038 "page not present")) := by decide +kernel
  obtain ⟨h, gives, ends, ⟨after, under, raised⟩, -⟩ := told (by decide +kernel)
  refine ⟨⟨_, ends⟩, ?_, (stops _).2 stopped, (kept _ _).2 ⟨stopped, rfl⟩, ?_⟩
  · rw [under]
    refine raised.2 (.inr (.inl ?_))
    have words : h.words = [0x101010101010101, 0x1010101, 0x101010101010101, 0x101010101010101,
        0x101010101010101, 0x101010101010101, 0x1010101] :=
      (List.map_inj_right fun _ _ => Except.ok.inj).1 (gives.symm.trans (by decide +kernel))
    obtain ⟨name, nameLength⟩ := h
    cases words
    exact ⟨by decide, .failure (.unreadable 0x101010101010101 "page not present"), rfl⟩
  · rw [(kept' _ _).2 ⟨stopped, rfl⟩]

end Socket

end SyscallDecode
