/-
The live process against an image of its pages. A transfer stops at a page that is not mapped, an
image goes through the bytes one by one; both give the same bytes, or fail at the same address, that of
the first byte that is not mapped. All readings that are made of reads then agree as well.
-/
import SyscallDecode.Proofs.Inquiry.Buffers
import SyscallDecode.Target.Traced

namespace SyscallDecode

open Cells (Holds FirstMissing)

variable {α β : Type}

/-! ## Two readings -/

/-- Two attempts come to the same value, or fail at the same address. What they say of it may
differ. -/
def SameReading (x y : Attempt α) : Prop :=
  (∃ a, x = .ok a ∧ y = .ok a) ∨
    ∃ address reason reason', x = Attempt.fail (.unreadable address reason) ∧
      y = Attempt.fail (.unreadable address reason')

namespace SameReading

variable {w w' : World} {space : AddressSpace}

theorem pure (a : α) :
    SameReading ((Pure.pure a : Reading α).on w) ((Pure.pure a : Reading α).on w') :=
  .inl ⟨a, rfl, rfl⟩

theorem bind {r : Reading β} {k : β → Reading α} (first : SameReading (r.on w) (r.on w'))
    (next : ∀ b, SameReading ((k b).on w) ((k b).on w')) :
    SameReading ((r >>= k).on w) ((r >>= k).on w') := by
  rcases first with ⟨b, on, on'⟩ | ⟨address, reason, reason', on, on'⟩
  · rw [Course.on_bind_ok w on, Course.on_bind_ok w' on']
    exact next b
  · exact .inr ⟨address, reason, reason', Course.on_bind_error w on k,
      Course.on_bind_error w' on' k⟩

variable (reads : ∀ address length,
  SameReading (w.target.read space address length) (w'.target.read space address length))
include reads

theorem unsigned (address : UInt64) (size : Nat) :
    SameReading ((Reading.unsigned space address size).on w)
      ((Reading.unsigned space address size).on w') :=
  bind (reads address (min size 8)) fun bytes => pure (WordBuffer.zero.write bytes).word

theorem string (address : UInt64) (limit : Nat) :
    SameReading ((Reading.string space address limit).on w)
      ((Reading.string space address limit).on w') := by
  induction limit generalizing address with
  | zero => exact pure []
  | succ limit ih =>
    unfold Reading.string
    refine bind (bind (reads address 1) fun bytes => pure (bytes.headD 0)) fun b => ?_
    by_cases zero : b = 0
    · rw [if_pos zero]
      exact pure []
    · rw [if_neg zero]
      exact bind (ih (address + 1)) fun rest => pure (b :: rest)

theorem buffer (address : UInt64) (length : Nat) :
    SameReading ((Reading.buffer space address length).on w)
      ((Reading.buffer space address length).on w') := by
  induction length using Nat.strongRecOn generalizing address with
  | ind length ih =>
    by_cases empty : length = 0
    · subst empty
      rw [Reading.buffer_zero]
      exact pure []
    · have fewer : length - min length Reading.chunkSize < length := by
        unfold Reading.chunkSize
        omega
      rw [Reading.buffer_of_some empty]
      -- the rest is a buffer of its own, one chunk further on
      refine bind (reads address _) fun chunk => ?_
      exact bind (ih _ fewer _) fun rest => pure (chunk ++ rest)

end SameReading

/-! ## Pages -/

namespace MappedPages

variable {p : MappedPages} {root : UInt64} {s : Snapshot} {address page : UInt64} {length i : Nat}
  {bytes : List UInt8} {stop : Stop}

/-- What an image of the pages has at an address. -/
def imageCell (p : MappedPages) (address : UInt64) : Attempt UInt8 :=
  (p.cell? address).elim (.fail (.unreadable address "page not present")) .ok

/-- A snapshot has the pages in the space of a root, and nothing else there. -/
def RecordedIn (p : MappedPages) (root : UInt64) (s : Snapshot) : Prop :=
  ∀ address, s.cells (.user root) address = p.imageCell address

theorem imageCell_eq_ok_iff {b : UInt8} : p.imageCell address = .ok b ↔ p.cell? address = some b := by
  unfold imageCell
  cases p.cell? address with
  | none => exact iff_of_false nofun nofun
  | some c => simp

theorem imageCell_eq_error_iff :
    p.imageCell address = .error stop ↔
      p.cell? address = none ∧ stop = .failure (.unreadable address "page not present") := by
  unfold imageCell
  cases p.cell? address with
  | none => simp [Attempt.fail, eq_comm]
  | some c => exact iff_of_false nofun nofun

theorem cell?_eq_none_iff : p.cell? address = none ↔ p.isMapped (address / pageSize) = false := by
  unfold cell?
  cases p.isMapped (address / pageSize) <;> simp

/-- Behind a byte that is mapped only a new page can be missing. -/
theorem page_start (here : p.cell? address ≠ none) (hole : p.cell? (address + 1) = none) :
    (address + 1) % pageSize = 0 := by
  rw [Ne, cell?_eq_none_iff] at here
  rw [cell?_eq_none_iff] at hole
  -- otherwise both bytes lie on one page
  have other : (address + 1) / pageSize ≠ address / pageSize := fun same => here (same ▸ hole)
  rw [Ne, ← UInt64.toNat_inj, UInt64.toNat_div, UInt64.toNat_div, UInt64.toNat_add] at other
  rw [← UInt64.toNat_inj, UInt64.toNat_mod, UInt64.toNat_add]
  have small := address.toNat_lt
  simp only [pageSize, UInt64.reduceToNat, Nat.reducePow] at other ⊢
  omega

/-! ## Transfers -/

theorem transfer_of_holds (h : Holds p.imageCell address bytes) :
    p.transfer address bytes.length = bytes := by
  induction bytes generalizing address with
  | nil => rfl
  | cons b bytes ih =>
    obtain ⟨first, later⟩ := Cells.holds_cons.1 h
    simp [transfer, imageCell_eq_ok_iff.1 first, ih later]

/-- A transfer copies what is in front of the first byte that is missing. -/
theorem length_transfer (lost : FirstMissing p.imageCell address i stop) (inside : i < length) :
    (p.transfer address length).length = i := by
  induction i generalizing address length with
  | zero =>
    obtain ⟨length, rfl⟩ := Nat.exists_eq_add_of_lt inside
    have hole := (imageCell_eq_error_iff.1 (Cells.firstMissing_zero.1 lost)).1
    simp [transfer, hole]
  | succ i ih =>
    obtain ⟨length, rfl⟩ := Nat.exists_eq_add_of_lt inside
    obtain ⟨b, first⟩ := lost.before 0 (Nat.succ_pos i)
    rw [offset_zero] at first
    -- seen from the second byte, what is missing lies one byte nearer
    have later : FirstMissing p.imageCell (address + 1) i stop := by
      refine ⟨offset_succ address i ▸ lost.missing, fun k hk => ?_⟩
      exact offset_succ address k ▸ lost.before (k + 1) (Nat.succ_lt_succ hk)
    simp only [transfer, imageCell_eq_ok_iff.1 first, List.length_cons]
    rw [ih later (by omega)]

/-- The first byte that is missing is the first of all, or the first of its page. -/
theorem firstMissing_start (lost : FirstMissing p.imageCell address i stop) :
    i = 0 ∨ (address + UInt64.ofNat i) % pageSize = 0 := by
  cases i with
  | zero => exact .inl rfl
  | succ i =>
    obtain ⟨b, here⟩ := lost.before i (Nat.lt_succ_self i)
    have next : address + UInt64.ofNat (i + 1) = address + UInt64.ofNat i + 1 := by
      rw [UInt64.ofNat_add, UInt64.add_assoc]
      rfl
    have hole := (imageCell_eq_error_iff.1 lost.missing).1
    rw [next] at hole ⊢
    refine .inr (page_start ?_ hole)
    rw [imageCell_eq_ok_iff.1 here]
    exact Option.some_ne_none b

theorem read_of_holds (h : Holds p.imageCell address bytes) :
    p.target.read (.user root) address bytes.length = .ok bytes := by
  have whole : p.read (.user root) address bytes.length = .ok bytes := by
    simp [read, transfer_of_holds h]
  exact whole

theorem read_of_missing (root : UInt64) (lost : FirstMissing p.imageCell address i stop)
    (inside : i < length) : ∃ reason, p.target.read (.user root) address length =
      .fail (.unreadable (address + UInt64.ofNat i) reason) := by
  have got := length_transfer lost inside
  show ∃ reason, p.read (.user root) address length = _
  simp only [read, got, Nat.ne_of_lt inside, if_false]
  -- nothing was copied, or too little
  by_cases first : i = 0
  · subst first
    rw [if_pos rfl, offset_zero]
    exact ⟨_, rfl⟩
  · rw [if_neg first]
    exact ⟨_, rfl⟩

/-! ## Images -/

theorem RecordedIn.read (recorded : p.RecordedIn root s) (address : UInt64) (length : Nat) :
    s.target.read (.user root) address length = Cells.readFrom p.imageCell address length := by
  have same : s.cells (.user root) = p.imageCell := funext recorded
  rw [← same]
  exact Cells.gather_nil _ _ _

/-- Both have all the bytes, or fail at the first of them that is not mapped. -/
theorem RecordedIn.read_cases (recorded : p.RecordedIn root s) (address : UInt64) (length : Nat) :
    (∃ bytes, bytes.length = length ∧ Holds p.imageCell address bytes ∧
      p.target.read (.user root) address length = .ok bytes ∧
      s.target.read (.user root) address length = .ok bytes) ∨
    ∃ i < length, p.cell? (address + UInt64.ofNat i) = none ∧
      (∀ k < i, p.cell? (address + UInt64.ofNat k) ≠ none) ∧
      (i = 0 ∨ (address + UInt64.ofNat i) % pageSize = 0) ∧
      ∃ reason reason', p.target.read (.user root) address length =
          .fail (.unreadable (address + UInt64.ofNat i) reason) ∧
        s.target.read (.user root) address length =
          .fail (.unreadable (address + UInt64.ofNat i) reason') := by
  rw [recorded.read]
  obtain ⟨bytes, rfl, held, read⟩ | ⟨i, inside, stop, lost, read⟩ :=
    Cells.readFrom_cases p.imageCell address length
  · exact .inl ⟨bytes, rfl, held, read_of_holds held, read⟩
  · obtain ⟨hole, rfl⟩ := imageCell_eq_error_iff.1 lost.missing
    obtain ⟨reason, failed⟩ := read_of_missing root lost inside
    refine .inr ⟨i, inside, hole, fun k hk none => ?_, firstMissing_start lost, reason, _, failed,
      read⟩
    obtain ⟨b, byte⟩ := lost.before k hk
    rw [imageCell_eq_ok_iff, none] at byte
    cases byte

theorem RecordedIn.sameReading (recorded : p.RecordedIn root s) (address : UInt64) (length : Nat) :
    SameReading (p.target.read (.user root) address length)
      (s.target.read (.user root) address length) := by
  obtain ⟨bytes, -, -, read, read'⟩ | ⟨i, -, -, -, -, reason, reason', failed, failed'⟩ :=
    recorded.read_cases address length
  · exact .inl ⟨bytes, read, read'⟩
  · exact .inr ⟨_, reason, reason', failed, failed'⟩

/-! ## Recording pages -/

/-- A page as a piece of a snapshot. -/
def pageRegion (p : MappedPages) (root page : UInt64) : Region where
  space := .user root
  start := page * pageSize
  length := pageSize.toNat
  content := .bytes
    (Array.ofFn fun i : Fin pageSize.toNat => p.byte (page * pageSize + UInt64.ofNat i))

/-- A snapshot of pages in the space of a root. -/
def image (p : MappedPages) (root : UInt64) (pages : List UInt64) : Snapshot where
  regions := pages.map (p.pageRegion root)

/-- The number of pages of a space. -/
def pageCount : UInt64 := 0x10000000000000

theorem toNat_start (below : page < pageCount) : (page * pageSize).toNat = page.toNat * 4096 := by
  rw [UInt64.lt_iff_toNat_lt] at below
  simp only [pageCount, pageSize, UInt64.toNat_mul, UInt64.reduceToNat] at below ⊢
  omega

theorem contains_pageRegion (below : page < pageCount) :
    (p.pageRegion root page).contains (.user root) address = true ↔ address / pageSize = page := by
  have start := toNat_start below
  have small := address.toNat_lt
  simp only [Region.contains, pageRegion, beq_self_eq_true, Bool.true_and, Bool.and_eq_true,
    decide_eq_true_eq, ← UInt64.toNat_inj, UInt64.toNat_div, UInt64.le_iff_toNat_le, start,
    UInt64.toNat_sub]
  simp only [pageSize, UInt64.reduceToNat]
  omega

theorem cell_pageRegion (inside : (p.pageRegion root page).contains (.user root) address = true) :
    (p.pageRegion root page).cell address = .ok (p.byte address) := by
  have within : (address - page * pageSize).toNat < pageSize.toNat := by
    simp only [Region.contains, pageRegion, Bool.and_eq_true] at inside
    exact of_decide_eq_true inside.2
  have back : page * pageSize + (address - page * pageSize) = address := by
    rw [UInt64.add_comm, UInt64.sub_add_cancel]
  simp only [Region.cell, pageRegion, Array.size_ofFn, Nat.mod_eq_of_lt within]
  simp [Array.getD, within, back]

/-- What is mapped is a list of pages, and the snapshot of them has what they have. -/
theorem recordedIn_image {pages : List UInt64} (below : ∀ page ∈ pages, page < pageCount)
    (listed : ∀ page, p.isMapped page = true ↔ page ∈ pages) :
    p.RecordedIn root (p.image root pages) := by
  intro address
  unfold Snapshot.cells image imageCell cell?
  cases found : (pages.map (p.pageRegion root)).find? fun r => r.contains (.user root) address with
  | none =>
    have absent : address / pageSize ∉ pages := by
      intro member
      have outside := List.find?_eq_none.1 found _ (List.mem_map_of_mem member)
      exact outside ((contains_pageRegion (below _ member)).2 rfl)
    simp [mt (listed _).1 absent]
  | some r =>
    obtain ⟨page, member, rfl⟩ := List.mem_map.1 (List.mem_of_find?_eq_some found)
    have inside : (p.pageRegion root page).contains (.user root) address = true := by
      simpa using List.find?_some found
    obtain rfl := (contains_pageRegion (below page member)).1 inside
    simp [(listed _).2 member, cell_pageRegion inside]

/-! ## The traced process -/

/-- A traced process reads like an image of its mapped pages. A read gives all bytes on both, or fails
on both at the first byte that is not mapped, which is the first of the read or of a page. Words,
pointers, strings and buffers follow. Kernel memory is never read. -/
theorem reads_like_image (p : MappedPages) (root : UInt64) (s : Snapshot)
    (recorded : p.RecordedIn root s) :
    (∀ address length,
      (∃ bytes, bytes.length = length ∧ Holds p.imageCell address bytes ∧
        p.target.read (.user root) address length = .ok bytes ∧
        s.target.read (.user root) address length = .ok bytes) ∨
      ∃ i < length, p.cell? (address + UInt64.ofNat i) = none ∧
        (∀ k < i, p.cell? (address + UInt64.ofNat k) ≠ none) ∧
        (i = 0 ∨ (address + UInt64.ofNat i) % pageSize = 0) ∧
        ∃ reason reason', p.target.read (.user root) address length =
            .fail (.unreadable (address + UInt64.ofNat i) reason) ∧
          s.target.read (.user root) address length =
            .fail (.unreadable (address + UInt64.ofNat i) reason')) ∧
    (∀ address size, SameReading (p.target.readUnsigned (.user root) address size)
      (s.target.readUnsigned (.user root) address size)) ∧
    (∀ address, SameReading (p.target.readPointer (.user root) address)
      (s.target.readPointer (.user root) address)) ∧
    (∀ address limit, SameReading (p.target.readString (.user root) address limit)
      (s.target.readString (.user root) address limit)) ∧
    (∀ address length, SameReading (p.target.readBuffer (.user root) address length)
      (s.target.readBuffer (.user root) address length)) ∧
    ∀ address length, p.target.read .kernel address length =
      .fail (.unreadable address "kernel memory is not visible from a traced process") := by
  have reads (address : UInt64) (length : Nat) :
      SameReading (p.target.world.target.read (.user root) address length)
        (s.target.world.target.read (.user root) address length) :=
    recorded.sameReading address length
  refine ⟨recorded.read_cases, ?_, ?_, ?_, ?_, fun _ _ => rfl⟩
  · exact fun address size => .unsigned reads address size
  · exact fun address => .unsigned reads address CType.pointerSize
  · exact fun address limit => .string reads address limit
  · exact fun address length => .buffer reads address length

/-- One page, on which every byte tells its place. -/
def onePage : MappedPages where
  isMapped page := page == 4
  byte address := address.toUInt8

/-- The second half of a word behind the page is missing. -/
theorem reads_like_image_across :
    onePage.RecordedIn 0x1000 (onePage.image 0x1000 [4]) ∧
    ∃ reason reason',
      onePage.target.read (.user 0x1000) 0x4ffe 4 = .fail (.unreadable 0x5000 reason) ∧
      (onePage.image 0x1000 [4]).target.read (.user 0x1000) 0x4ffe 4 =
        .fail (.unreadable 0x5000 reason') := by
  have recorded : onePage.RecordedIn 0x1000 (onePage.image 0x1000 [4]) :=
    recordedIn_image (List.forall_mem_singleton.2 (by decide)) (by simp [onePage])
  obtain ⟨read, -⟩ := reads_like_image onePage 0x1000 _ recorded
  refine ⟨recorded, ?_⟩
  obtain ⟨bytes, count, held, -⟩ | ⟨i, inside, hole, before, -, reason, reason', failed, failed'⟩ :=
    read 0x4ffe 4
  · obtain ⟨b, byte⟩ := held.byte (i := 2) (by omega)
    cases imageCell_eq_ok_iff.1 byte
  · obtain first | rfl | behind := Nat.lt_trichotomy i 2
    · have mapped : i = 0 ∨ i = 1 := by omega
      rcases mapped with rfl | rfl
      · exact absurd hole (by decide)
      · exact absurd hole (by decide)
    · exact ⟨reason, reason', failed, failed'⟩
    · exact absurd rfl (before 2 behind)

end MappedPages

end SyscallDecode
