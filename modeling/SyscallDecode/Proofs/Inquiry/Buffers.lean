/-
Buffers in memory. A buffer is read chunk by chunk, and what comes of it is what one read of the whole
would have given. No chunk behind the one with the first missing byte is asked for.
-/
import SyscallDecode.Proofs.Target.Bytewise

namespace SyscallDecode

open Cells (Holds FirstMissing)
open Reading (chunkSize)

/-! ## Chunks -/

/-- The read of one chunk of a buffer. The last chunk has what is left. -/
def chunkRead (space : AddressSpace) (address : UInt64) (length k : Nat) : Question :=
  .read space (address + UInt64.ofNat (chunkSize * k)) (min (length - chunkSize * k) chunkSize)

/-- The reads of the first chunks of a buffer. -/
def chunkReads (space : AddressSpace) (address : UInt64) (length count : Nat) : List Question :=
  (List.range count).map (chunkRead space address length)

/-- How many chunks a buffer has. -/
def chunkCount (length : Nat) : Nat :=
  (length + (chunkSize - 1)) / chunkSize

variable {space : AddressSpace} {address : UInt64} {length : Nat}

theorem chunkCount_of_short (some : length ≠ 0) (short : length ≤ chunkSize) :
    chunkCount length = 1 := by
  unfold chunkCount
  unfold chunkSize at short ⊢
  omega

theorem chunkCount_of_long (long : chunkSize ≤ length) :
    chunkCount length = chunkCount (length - chunkSize) + 1 := by
  unfold chunkCount
  unfold chunkSize at long ⊢
  omega

theorem chunkReads_one :
    chunkReads space address length 1 = [.read space address (min length chunkSize)] := by
  have first : chunkRead space address length 0 = .read space address (min length chunkSize) := by
    unfold chunkRead
    rw [Nat.mul_zero, offset_zero, Nat.sub_zero]
  unfold chunkReads
  rw [List.range_one, List.map_singleton, first]

/-- Behind a full chunk lie those of a shorter buffer. -/
theorem chunkReads_succ (long : chunkSize ≤ length) (count : Nat) :
    chunkReads space address length (count + 1) =
      .read space address chunkSize ::
        chunkReads space (address + UInt64.ofNat chunkSize) (length - chunkSize) count := by
  have first : chunkRead space address length 0 = .read space address chunkSize := by
    unfold chunkRead
    rw [Nat.mul_zero, offset_zero, Nat.sub_zero, Nat.min_eq_right long]
  have later (k : Nat) : chunkRead space address length (k + 1) =
      chunkRead space (address + UInt64.ofNat chunkSize) (length - chunkSize) k := by
    unfold chunkRead
    rw [Nat.mul_succ, Nat.add_comm (chunkSize * k), UInt64.ofNat_add, UInt64.add_assoc, Nat.sub_sub]
  unfold chunkReads
  rw [List.range_succ_eq_map, List.map_cons, List.map_map, first]
  exact congrArg _ (List.map_congr_left fun k _ => later k)

/-! ## Reading a buffer -/

namespace Reading

variable {w : World} {cells : Cells} {found piece : List UInt8} {i : Nat} {stop : Stop}

/-- A buffer is read as a whole: these are its bytes, and all its chunks were asked for. -/
structure Gives (w : World) (cells : Cells) (space : AddressSpace) (address : UInt64) (length : Nat)
    (found : List UInt8) : Prop where
  length_eq : found.length = length
  held : Holds (cells space) address found
  on : (buffer space address length).on w = .ok found
  asked : (buffer space address length).asked w =
    chunkReads space address length (chunkCount length)

/-- A buffer is read up to a byte that is missing, and the chunk of that byte is the last. -/
structure Breaks (w : World) (cells : Cells) (space : AddressSpace) (address : UInt64) (length : Nat)
    (i : Nat) (stop : Stop) : Prop where
  inside : i < length
  first : FirstMissing (cells space) address i stop
  on : (buffer space address length).on w = .error stop
  asked : (buffer space address length).asked w =
    chunkReads space address length (i / chunkSize + 1)

theorem buffer_zero : buffer space address 0 = pure [] := by
  rw [buffer, dif_pos rfl]

theorem buffer_of_some (some : length ≠ 0) :
    buffer space address length = (do
      let first ← bytes space address (min length chunkSize)
      let rest ← buffer space (address + UInt64.ofNat (min length chunkSize))
        (length - min length chunkSize)
      return first ++ rest) := by
  rw [buffer, dif_neg some]

theorem gives_zero : Gives w cells space address 0 [] :=
  ⟨rfl, Cells.holds_nil, by rw [buffer_zero, Course.on_pure], by rw [buffer_zero]; rfl⟩

/-- The last chunk is all there is to a short buffer. -/
theorem gives_last (some : length ≠ 0) (short : length ≤ chunkSize)
    (read : w.target.read space address length = .ok found)
    (held : Holds (cells space) address found) : Gives w cells space address length found := by
  have first : (bytes space address length).on w = .ok found := read
  refine ⟨w.target.read_length read, held, ?_, ?_⟩
  · rw [buffer_of_some some, Nat.min_eq_left short, Nat.sub_self, buffer_zero,
      Course.on_bind_ok w first]
    exact congrArg Except.ok (List.append_nil found)
  · rw [buffer_of_some some, chunkCount_of_short some short, chunkReads_one,
      Nat.min_eq_left short, Nat.sub_self, buffer_zero, Course.asked_bind_ok w first]
    rfl

theorem Gives.chunk {rest : List UInt8} (long : chunkSize < length)
    (read : w.target.read space address chunkSize = .ok piece)
    (held : Holds (cells space) address piece)
    (later : Gives w cells space (address + UInt64.ofNat chunkSize) (length - chunkSize) rest) :
    Gives w cells space address length (piece ++ rest) := by
  have some : length ≠ 0 := Nat.ne_of_gt (Nat.zero_lt_of_lt long)
  have full := w.target.read_length read
  have first : (bytes space address chunkSize).on w = .ok piece := read
  refine ⟨?_, Cells.holds_append.2 ⟨held, full ▸ later.held⟩, ?_, ?_⟩
  · rw [List.length_append, full, later.length_eq, Nat.add_sub_of_le (Nat.le_of_lt long)]
  · rw [buffer_of_some some, Nat.min_eq_right (Nat.le_of_lt long), Course.on_bind_ok w first,
      Course.on_bind_ok w later.on]
    rfl
  · rw [buffer_of_some some, Nat.min_eq_right (Nat.le_of_lt long), Course.asked_bind_ok w first,
      Course.asked_bind_ok w later.on, later.asked, chunkCount_of_long (Nat.le_of_lt long),
      chunkReads_succ (Nat.le_of_lt long), Course.asked_pure, List.append_nil]
    rfl

/-- A byte of the first chunk is missing. -/
theorem breaks_first (inside : i < min length chunkSize)
    (read : w.target.read space address (min length chunkSize) = .error stop)
    (lost : FirstMissing (cells space) address i stop) :
    Breaks w cells space address length i stop := by
  have some : length ≠ 0 := by omega
  have first : (bytes space address (min length chunkSize)).on w = .error stop := read
  have chunk : i / chunkSize = 0 := Nat.div_eq_of_lt (by omega)
  refine ⟨by omega, lost, ?_, ?_⟩
  · rw [buffer_of_some some, Course.on_bind_error w first]
  · rw [buffer_of_some some, Course.asked_bind_error w first, chunk, chunkReads_one]
    rfl

theorem Breaks.chunk (read : w.target.read space address chunkSize = .ok piece)
    (held : Holds (cells space) address piece)
    (later : Breaks w cells space (address + UInt64.ofNat chunkSize) (length - chunkSize) i stop) :
    Breaks w cells space address length (chunkSize + i) stop := by
  have inside := later.inside
  have some : length ≠ 0 := by omega
  have long : chunkSize ≤ length := by omega
  have full := w.target.read_length read
  have first : (bytes space address chunkSize).on w = .ok piece := read
  have chunks : (chunkSize + i) / chunkSize = i / chunkSize + 1 := Nat.add_div_left i (by decide)
  refine ⟨by omega, ?_, ?_, ?_⟩
  · rw [← full]
    exact .append held (full ▸ later.first)
  · rw [buffer_of_some some, Nat.min_eq_right long, Course.on_bind_ok w first,
      Course.on_bind_error w later.on]
  · rw [buffer_of_some some, Nat.min_eq_right long, Course.asked_bind_ok w first,
      Course.asked_bind_error w later.on, later.asked, chunks, chunkReads_succ long]
    rfl

/-- A buffer has the bytes that memory holds, or breaks at the first that is missing. -/
theorem buffer_cases (memory : w.target.Bytewise cells) (space : AddressSpace) (address : UInt64)
    (length : Nat) :
    (∃ found, Gives w cells space address length found) ∨
      ∃ i stop, Breaks w cells space address length i stop := by
  induction length using Nat.strongRecOn generalizing address with
  | ind length ih =>
    by_cases empty : length = 0
    · subst empty
      exact .inl ⟨[], gives_zero⟩
    obtain ⟨chunk, -, held, read⟩ | ⟨i, inside, stop, lost, read⟩ :=
      Cells.readFrom_cases (cells space) address (min length chunkSize)
    · rw [← memory.read_eq] at read
      by_cases short : length ≤ chunkSize
      · rw [Nat.min_eq_left short] at read
        exact .inl ⟨chunk, gives_last empty short read held⟩
      · -- the rest is a buffer of its own, one chunk further on
        have long : chunkSize < length := Nat.lt_of_not_le short
        rw [Nat.min_eq_right (Nat.le_of_lt long)] at read
        have fewer : length - chunkSize < length := by
          unfold chunkSize
          omega
        obtain ⟨rest, later⟩ | ⟨i, stop, later⟩ :=
          ih (length - chunkSize) fewer (address + UInt64.ofNat chunkSize)
        · exact .inl ⟨chunk ++ rest, later.chunk long read held⟩
        · exact .inr ⟨chunkSize + i, stop, later.chunk read held⟩
    · rw [← memory.read_eq] at read
      exact .inr ⟨i, stop, breaks_first inside read lost⟩

/-- Reading chunk by chunk gives what one read gives. -/
theorem on_buffer (memory : w.target.Bytewise cells) (space : AddressSpace) (address : UInt64)
    (length : Nat) :
    (buffer space address length).on w = w.target.read space address length := by
  obtain ⟨found, given⟩ | ⟨i, stop, broken⟩ := buffer_cases memory space address length
  · rw [given.on, memory.read_eq_ok_iff.2 ⟨given.length_eq, given.held⟩]
  · rw [broken.on, memory.read_eq_error_iff.2 ⟨i, broken.inside, broken.first⟩]

end Reading

namespace Target

variable {t : Target} {cells : Cells}

/-- A buffer of any length of 64 bits is read as one read would have it: all its bytes in order, or the
failure of the first that is missing. The chunks are asked for one after the other, those behind the
missing byte not at all, and no sum of an offset and a chunk leaves the 64 bits. -/
theorem readBuffer_eq_read (memory : t.Bytewise cells) (space : AddressSpace)
    (address length : UInt64) :
    t.readBuffer space address length.toNat = t.read space address length.toNat ∧
    ((∃ bytes, bytes.length = length.toNat ∧ Holds (cells space) address bytes ∧
        t.readBuffer space address length.toNat = .ok bytes ∧
        (Reading.buffer space address length.toNat).asked t.world =
          chunkReads space address length.toNat (chunkCount length.toNat)) ∨
      ∃ i < length.toNat, ∃ reason,
        FirstMissing (cells space) address i
          (.failure (.unreadable (address + UInt64.ofNat i) reason)) ∧
        t.readBuffer space address length.toNat =
          .error (.failure (.unreadable (address + UInt64.ofNat i) reason)) ∧
        (Reading.buffer space address length.toNat).asked t.world =
          chunkReads space address length.toNat (i / chunkSize + 1)) ∧
    ∀ k, chunkSize * k < length.toNat →
      (UInt64.ofNat (chunkSize * k) +
          UInt64.ofNat (min (length.toNat - chunkSize * k) chunkSize)).toNat =
        chunkSize * k + min (length.toNat - chunkSize * k) chunkSize := by
  have memory' : t.world.target.Bytewise cells := memory
  refine ⟨Reading.on_buffer memory' space address length.toNat, ?_, fun k inside => ?_⟩
  · obtain ⟨found, given⟩ | ⟨i, stop, broken⟩ :=
      Reading.buffer_cases memory' space address length.toNat
    · exact .inl ⟨found, given.length_eq, given.held, given.on, given.asked⟩
    · obtain ⟨reason, rfl⟩ := memory.missing _ _ _ broken.first.missing
      exact .inr ⟨i, broken.inside, reason, broken.first, broken.on, broken.asked⟩
  · have small := length.toNat_lt
    rw [← UInt64.ofNat_add, UInt64.toNat_ofNat', Nat.mod_eq_of_lt (by omega)]

/-- A target of two pages of zeros. -/
def twoPages : Target :=
  Cells.target
    (fun _ a => if 0x4000 ≤ a ∧ a < 0x6000 then .ok 0 else .fail (.unreadable a "page not present"))
    catalogueTypes fun name => .fail (.unknownSymbol name)

theorem bytewise_twoPages : twoPages.Bytewise fun _ a =>
    if 0x4000 ≤ a ∧ a < 0x6000 then .ok 0 else .fail (.unreadable a "page not present") := by
  refine Cells.bytewise_target _ _ fun space address stop missing => ?_
  split at missing
  · cases missing
  · cases missing
    exact ⟨_, rfl⟩

/-- Of three chunks the second is the last that is read, as the pages end in it. -/
theorem readBuffer_twoPages :
    twoPages.readBuffer (.user 0x1000) 0x4800 0x3000 =
      .error (.failure (.unreadable 0x6000 "page not present")) ∧
    (Reading.buffer (.user 0x1000) 0x4800 0x3000).asked twoPages.world =
      [.read (.user 0x1000) 0x4800 4096, .read (.user 0x1000) 0x5800 4096] ∧
    chunkCount 0x3000 = 3 := by
  have stops : FirstMissing (fun a => if 0x4000 ≤ a ∧ a < 0x6000 then .ok 0
      else .fail (.unreadable a "page not present")) 0x4800 0x1800
      (.failure (.unreadable 0x6000 "page not present")) := by
    refine ⟨rfl, fun k inside => ⟨0, if_pos ?_⟩⟩
    have offset : (0x4800 + UInt64.ofNat k).toNat = 0x4800 + k :=
      Cells.toNat_offset (Nat.lt_trans (Nat.add_lt_add_left inside _) (by decide))
    simp only [UInt64.le_iff_toNat_le, UInt64.lt_iff_toNat_lt, offset, UInt64.reduceToNat]
    omega
  have length : (0x3000 : UInt64).toNat = 0x3000 := rfl
  have read := readBuffer_eq_read bytewise_twoPages (.user 0x1000) 0x4800 0x3000
  rw [length] at read
  obtain ⟨-, ⟨bytes, count, held, -⟩ | ⟨i, -, reason, lost, stopped, asked⟩, -⟩ := read
  · have inside := stops.length_le held
    rw [count] at inside
    exact absurd inside (by decide)
  · obtain ⟨rfl, same⟩ := lost.unique stops
    rw [same] at stopped
    exact ⟨stopped, asked, rfl⟩

end Target

end SyscallDecode
