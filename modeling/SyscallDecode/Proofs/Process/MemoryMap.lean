/-
The block of the mapped areas of a task. Each record of the chain in kernel memory tells one area, and
the table has one line of texts for each of them, in the order of the chain; sizes, last addresses and
page counts are right up to the ends of the address space. If the walk along the chain fails, the block
is one line with the failure.
-/
import Mathlib.Data.List.Forall2
import Mathlib.Data.Nat.Bitwise
import SyscallDecode.Process.MemoryMap
import SyscallDecode.Proofs.Kernel.Areas
import SyscallDecode.Proofs.Text.HexWord
import SyscallDecode.Target.Snapshot

namespace SyscallDecode

open SyscallDecode.Text

/-! ## Sizes and page counts -/

namespace Area

/-- So many pages hold so many bytes, and fewer do not. -/
structure PageCount (page size count : Nat) : Prop where
  enough : size ≤ count * page
  least : ((count : Int) - 1) * page < size
  zero : count = 0 ↔ size = 0
  fits : count < UInt64.size

theorem size_eq (a : Area) :
    a.size = if a.finish < a.start then 0 else (a.finish - a.start).toNat := by
  unfold size
  split
  · next before =>
    rw [UInt64.lt_iff_toNat_lt] at before
    omega
  · next behind =>
    rw [UInt64.lt_iff_toNat_lt, Nat.not_lt] at behind
    rw [UInt64.toNat_sub_of_le _ _ (UInt64.le_iff_toNat_le.2 behind)]

theorem last_eq (a : Area) : a.last = max a.finish.toNat 1 - 1 := by
  unfold last
  omega

theorem size_lt (a : Area) : a.size < UInt64.size :=
  Nat.lt_of_le_of_lt (Nat.sub_le _ _) a.finish.toNat_lt_size

theorem last_lt (a : Area) : a.last < UInt64.size :=
  Nat.lt_of_le_of_lt (Nat.sub_le _ _) a.finish.toNat_lt_size

/-- Division upwards counts pages. -/
theorem pageCount_div {page size : Nat} (some : 0 < page) (small : size < UInt64.size) :
    PageCount page size ((size + (page - 1)) / page) := by
  have above := Nat.lt_div_mul_add (a := size + (page - 1)) some
  have below := Nat.div_mul_le_self (size + (page - 1)) page
  generalize count_eq : (size + (page - 1)) / page = count at above below
  refine ⟨by omega, ?_, ⟨fun none => ?_, fun none => ?_⟩, ?_⟩
  · rw [Int.sub_mul, ← Int.natCast_mul]
    omega
  · subst none
    omega
  · rw [← count_eq, none]
    exact Nat.div_eq_of_lt (by omega)
  · -- a page has a byte, so that there are no more pages than bytes
    have fewer : count * page < (size + 1) * page := by
      have bytes := Nat.le_mul_of_pos_right size some
      rw [Nat.succ_mul]
      omega
    exact Nat.lt_of_le_of_lt (Nat.le_of_lt_succ (Nat.lt_of_mul_lt_mul_right fewer)) small

/-- The pages of an area are counted, a page having at least one byte. -/
theorem pageCount_pages (a : Area) (pageSize : UInt64) :
    PageCount (max pageSize.toNat 1) a.size (a.pages pageSize) :=
  pageCount_div (Nat.le_max_right _ 1) a.size_lt

end Area

/-! ## Flags -/

namespace Flags

/-- The text has one letter for each of the four permissions, and behind them, in the order of the
table, the names of the other flags that are set. -/
def ShowsAreaFlags (flags : UInt64) (text : String) : Prop :=
  ∃ letters names, text = " ".intercalate (String.ofList letters :: names) ∧
    letters = [if flags.toNat.testBit 0 then 'r' else '-', if flags.toNat.testBit 1 then 'w' else '-',
      if flags.toNat.testBit 2 then 'x' else '-', if flags.toNat.testBit 3 then 's' else 'p'] ∧
    names.Sublist (areaExtras.map Prod.snd) ∧
    ∀ entry ∈ areaExtras, entry.2 ∈ names ↔ flags &&& entry.1 ≠ 0

/-- The letter of a permission stands for a bit. -/
theorem permission_eq {bit : UInt64} {i : Nat} (single : bit.toNat = 2 ^ i) (flags : UInt64)
    (letter absent : Char) :
    permission flags bit letter absent =
      if flags.toNat.testBit i then letter else absent := by
  have set : flags &&& bit ≠ 0 ↔ flags.toNat.testBit i = true := by
    rw [Ne, ← UInt64.toNat_inj, UInt64.toNat_and, single, Nat.and_two_pow]
    cases flags.toNat.testBit i <;> simp
  unfold permission
  simp only [bne_iff_ne, set]

theorem showsAreaFlags (flags : UInt64) : ShowsAreaFlags flags (areaFlags flags) := by
  have distinct : ∀ e ∈ areaExtras, ∀ e' ∈ areaExtras, e.2 = e'.2 → e = e' := by
    decide
  unfold areaFlags
  refine ⟨_, _, rfl, ?_, ?_, ?_⟩
  · rw [permission_eq (i := 0) rfl, permission_eq (i := 1) rfl, permission_eq (i := 2) rfl,
      permission_eq (i := 3) rfl]
  · exact List.filter_sublist.map Prod.snd
  · intro entry known
    simp only [List.mem_map, List.mem_filter, bne_iff_ne]
    constructor
    · rintro ⟨entry', ⟨known', set⟩, same⟩
      rwa [distinct entry' known' entry known same] at set
    · exact fun set => ⟨entry, ⟨known, set⟩, rfl⟩

end Flags

/-! ## Records -/

namespace MemoryMap

/-- The texts of a line show an area: its first and its last address with all their digits, its size,
the number of its pages, its flags, and the physical address and the path if it has them. -/
structure ShowsArea (pageSize : UInt64) (a : Area) (texts : List String) : Prop where
  cells : ∃ start last flags io count,
    texts = [start, last, byteSize a.size, toString count, flags, io, a.path.getD ""] ∧
    WrittenHex 16 a.start.toNat start ∧
    WrittenHex 16 (max a.finish.toNat 1 - 1) last ∧
    Area.PageCount (max pageSize.toNat 1) a.size count ∧
    Flags.ShowsAreaFlags a.flags flags ∧
    (a.ioAddress = none → io = "") ∧
    ∀ n, a.ioAddress = some n → ∃ length, WrittenHex length n.toNat io
  size : a.size = if a.finish < a.start then 0 else (a.finish - a.start).toNat

theorem writtenHex_address {n : Nat} (small : n < UInt64.size) : WrittenHex 16 n (address n) :=
  writtenHex_hexPadded (Nat.toDigits_length 16 n 16 (by decide) small)

theorem showsArea_record (pageSize : UInt64) (a : Area) :
    ShowsArea pageSize a (record pageSize a) := by
  refine ⟨⟨_, _, _, _, _, rfl, writtenHex_address a.start.toNat_lt_size, ?_,
    a.pageCount_pages pageSize, Flags.showsAreaFlags a.flags, ?_, ?_⟩, a.size_eq⟩
  · rw [← a.last_eq]
    exact writtenHex_address a.last_lt
  · intro none
    rw [none]
    rfl
  · intro n some
    rw [some]
    exact writtenHex_hexMarked n.toNat

theorem showsArea_records (pageSize : UInt64) (areas : List Area) :
    List.Forall₂ (ShowsArea pageSize) areas (areas.map (record pageSize)) := by
  rw [List.forall₂_map_right_iff, List.forall₂_same]
  exact fun a _ => showsArea_record pageSize a

end MemoryMap

/-! ## The chain of records -/

namespace Kernel

variable (t : Target) (layout : KernelLayout)

/-- A record of kernel memory tells an area. Only a physical one has an address of its own, and none
has a path. -/
structure Tells (record : UInt64) (a : Area) : Prop where
  start : t.readPointer .kernel (record + layout.areaStart) = .ok a.start
  finish : t.readPointer .kernel (record + layout.areaFinish) = .ok a.finish
  flags : t.readPointer .kernel (record + layout.areaFlags) = .ok a.flags
  physical : Physical a.flags → ∃ page,
    t.readPointer .kernel (record + layout.areaPageOffset) = .ok page ∧
      a.ioAddress = some (page <<< UInt64.ofNat layout.pageShift)
  other : ¬ Physical a.flags → a.ioAddress = none
  path : a.path = none

variable {t layout} {record first : UInt64} {a : Area} {areas seen : List Area} {limit : Nat}

theorem pointerAt_of_read {address word : UInt64}
    (h : t.readPointer .kernel address = .ok word) : pointerAt t address = word := by
  have read : t.readUnsigned .kernel address CType.pointerSize = .ok word := h
  unfold pointerAt wordAt
  rw [read]
  rfl

theorem tells_of_areaAt (h : (areaAt layout record).on t.world = .ok a) : Tells t layout record a := by
  unfold areaAt at h
  obtain ⟨start, readStart, h⟩ := (Course.on_bind_eq_ok _).1 h
  obtain ⟨finish, readFinish, h⟩ := (Course.on_bind_eq_ok _).1 h
  obtain ⟨flags, readFlags, h⟩ := (Course.on_bind_eq_ok _).1 h
  split at h
  · next asked =>
    -- a shift beyond the word would have ended the walk
    have physical := (isPhysical_iff flags).1 asked
    obtain ⟨page, readPage, h⟩ := (Course.on_bind_eq_ok _).1 h
    obtain ⟨io, shifted, h⟩ := (Course.on_bind_eq_ok _).1 h
    unfold pageAddress at shifted
    dsimp only at shifted
    split at shifted
    · cases shifted
      cases h
      exact ⟨readStart, readFinish, readFlags, fun _ => ⟨page, readPage, rfl⟩,
        fun other => absurd physical other, rfl⟩
    · cases shifted
  · next asked =>
    have other := mt (isPhysical_iff flags).2 asked
    cases h
    exact ⟨readStart, readFinish, readFlags, fun physical => absurd physical other, fun _ => rfl, rfl⟩

/-- A walk that succeeds has met one record after the other, and lists the area of each. -/
theorem tells_of_chainFrom (h : (chainFrom layout seen first limit).on t.world = .ok areas) :
    ∃ list, areas = seen.reverse ++ list ∧ Extent (recordFrom t layout first) limit list.length ∧
      ∀ i a, list[i]? = some a → Tells t layout (recordFrom t layout first i) a := by
  induction limit generalizing seen first with
  | zero =>
    cases h
    exact ⟨[], (List.append_nil _).symm, ⟨Nat.le_refl 0, nofun, .inl rfl⟩, nofun⟩
  | succ limit ih =>
    unfold chainFrom at h
    split at h
    · next null =>
      cases h
      exact ⟨[], (List.append_nil _).symm, ⟨Nat.zero_le _, nofun, .inr null⟩, nofun⟩
    · next linked =>
      obtain ⟨a, told, h⟩ := (Course.on_bind_eq_ok _).1 h
      obtain ⟨next, readNext, h⟩ := (Course.on_bind_eq_ok _).1 h
      obtain ⟨list, rfl, extent, tells⟩ := ih h
      -- the records behind the first are those of the chain that its link leads to
      have later (i : Nat) : recordFrom t layout first (i + 1) = recordFrom t layout next i := by
        rw [recordFrom_succ, pointerAt_of_read readNext]
      refine ⟨a :: list, by simp, extent.cons linked later, fun i b hb => ?_⟩
      cases i with
      | zero =>
        cases hb
        exact tells_of_areaAt told
      | succ i =>
        rw [later]
        exact tells i b hb

theorem tells_of_areas {task : UInt64} (h : Kernel.areas t layout task = .ok areas) :
    Extent (recordOf t layout task) maxAreas areas.length ∧
      ∀ i a, areas[i]? = some a → Tells t layout (recordOf t layout task i) a := by
  unfold Kernel.areas areasOf at h
  obtain ⟨memory, readMemory, h⟩ := (Course.on_bind_eq_ok _).1 h
  split at h
  · cases h
  · obtain ⟨first, readFirst, h⟩ := (Course.on_bind_eq_ok _).1 h
    obtain ⟨list, rfl, walked⟩ := tells_of_chainFrom h
    unfold recordOf firstRecord
    rw [pointerAt_of_read readMemory, pointerAt_of_read readFirst]
    exact walked

end Kernel

/-! ## The block of a task -/

namespace MemoryMap

variable {process : ProcessView} {pageSize : UInt64} {areas : List Area} {f : Failure}

theorem report_of_areas (h : process.areas = .ok areas) :
    report process pageSize = .ok (title ++ "\n" ++ table areas pageSize) := by
  unfold report
  rw [h]
  rfl

theorem report_of_failure (h : process.areas = .error (.failure f)) :
    report process pageSize = .ok (title ++ " unavailable: " ++ f.message) := by
  unfold report
  rw [h]
  rfl

/-- A failure told in one line leaves the block one line. -/
theorem newline_notMem_unavailable (single : '\n' ∉ f.message.toList) :
    '\n' ∉ (title ++ " unavailable: " ++ f.message).toList := by
  have words : '\n' ∉ (title ++ " unavailable: ").toList := by
    decide
  rw [String.toList_append, List.mem_append, not_or]
  exact ⟨words, single⟩

/-- The block of a task has the title and a table of the heads and one line of texts per area, which
shows what the record of the area tells, in the order of the chain. A failure on the way leaves one line
with the reason. -/
theorem report_of_task (t : Target) (layout : KernelLayout) (task pageSize : UInt64) :
    (∀ areas, Kernel.areas t layout task = .ok areas →
      Kernel.Extent (Kernel.recordOf t layout task) Kernel.maxAreas areas.length ∧
      (∀ i a, areas[i]? = some a → Kernel.Tells t layout (Kernel.recordOf t layout task i) a) ∧
      ∃ lines, List.Forall₂ (ShowsArea pageSize) areas lines ∧
        report (Kernel.taskView t layout task) pageSize =
          .ok (title ++ "\n" ++ Box.draw ((columns :: lines).map Box.row))) ∧
    (∀ f, Kernel.areas t layout task = .error (.failure f) →
      report (Kernel.taskView t layout task) pageSize =
        .ok (title ++ " unavailable: " ++ f.message) ∧
      ('\n' ∉ f.message.toList → '\n' ∉ (title ++ " unavailable: " ++ f.message).toList)) ∧
    ∀ a, Kernel.areas t layout task = .error (.abort a) →
      report (Kernel.taskView t layout task) pageSize = .error a := by
  refine ⟨fun areas found => ?_, fun f failed => ?_, fun a aborted => ?_⟩
  · obtain ⟨extent, tells⟩ := Kernel.tells_of_areas found
    exact ⟨extent, tells, _, showsArea_records pageSize areas, report_of_areas found⟩
  · exact ⟨report_of_failure failed, newline_notMem_unavailable⟩
  · have ending : (Kernel.taskView t layout task).areas = .error (.abort a) := aborted
    unfold report
    rw [ending]
    rfl

/-- An area of all addresses but the last. -/
def wholeSpace : Area :=
  ⟨0, 0xffffffffffffffff, 0, none, none⟩

/-- An area of two pages of code. -/
def codeArea : Area :=
  ⟨0x1000, 0x3000, 5, none, none⟩

/-- A machine with a task at 0x1000 that has these areas, the longer one first. -/
def twoAreas : Target :=
  Cells.target
    (fun _ address =>
      .ok (if 0x3010 ≤ address ∧ address < 0x3018 then 0xff
        else ([((0x1249 : UInt64), (0x20 : UInt8)), (0x2001, 0x30), (0x3019, 0x40), (0x4009, 0x10),
          (0x4011, 0x30), (0x4028, 5)].lookup address).getD 0))
    catalogueTypes fun name => .fail (.unknownSymbol name)

/-- The lines are in the order of the chain. A page of no bytes is counted like one of a single byte,
and the count does not leave 64 bits. -/
theorem report_twoAreas :
    ∃ texts texts', ShowsArea 0 wholeSpace texts ∧ texts[3]? = some "18446744073709551615" ∧
      ShowsArea 0 codeArea texts' ∧ texts'[3]? = some "8192" ∧
      report (Kernel.taskView twoAreas .linux2632 0x1000) 0 =
        .ok (title ++ "\n" ++ Box.draw ([columns, texts, texts'].map Box.row)) := by
  have areas : Kernel.areas twoAreas .linux2632 0x1000 = .ok [wholeSpace, codeArea] := by
    decide +kernel
  obtain ⟨found, -⟩ := report_of_task twoAreas .linux2632 0x1000 0
  obtain ⟨-, -, lines, shown, text⟩ := found _ areas
  have counted {a : Area} {texts : List String} (shows : ShowsArea 0 a texts) :
      texts[3]? = some (toString a.size) := by
    obtain ⟨start, last, flags, io, count, rfl, -, -, pages, -⟩ := shows.cells
    have page : max (0 : UInt64).toNat 1 = 1 := rfl
    rw [page] at pages
    have enough := pages.enough
    have least := pages.least
    obtain rfl : count = a.size := by omega
    rfl
  cases shown with
  | @cons _ texts _ _ first rest =>
    cases rest with
    | @cons _ texts' _ _ second rest =>
      cases rest
      exact ⟨texts, texts', first, counted first, second, counted second, text⟩

end MemoryMap

end SyscallDecode
