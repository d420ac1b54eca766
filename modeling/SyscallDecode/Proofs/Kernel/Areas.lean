/-
The areas of a task. Each record of the chain tells one area and leads to the next. The walk goes from
record to record, up to a null link or to the limit, and ends early only with the first word that
cannot be read; whatever memory holds, it asks for no more than five words of each record.
-/
import SyscallDecode.Kernel.Task
import SyscallDecode.Proofs.Kernel.Trail

namespace SyscallDecode.Kernel

/-! ## Page numbers -/

theorem lowZeros_of_power {k bits : Nat} (h : k < bits) :
    KernelLayout.lowZeros (Nat.pow 2 k) bits = k := by
  induction bits generalizing k with
  | zero => omega
  | succ bits ih =>
    cases k with
    | zero => rfl
    | succ k =>
      have double : Nat.pow 2 (k + 1) = Nat.pow 2 k * 2 := rfl
      have even : Nat.pow 2 (k + 1) % 2 = 0 := by omega
      have half : Nat.pow 2 (k + 1) / 2 = Nat.pow 2 k := by omega
      rw [KernelLayout.lowZeros, if_pos even, half, ih (by omega)]

/-- A shift by the bits of the page size is a multiplication with it. -/
theorem pageAddress_eq {layout : KernelLayout} (power : layout.pageSize.toNat.isPowerOfTwo)
    (page : UInt64) : pageAddress layout page = pure (page * layout.pageSize) := by
  obtain ⟨k, size⟩ := power
  have small : k < 64 := by
    have bound := layout.pageSize.toNat_lt
    rw [size] at bound
    exact (Nat.pow_lt_pow_iff_right (by omega)).1 bound
  have shift : layout.pageShift = k := by
    unfold KernelLayout.pageShift
    rw [size]
    exact lowZeros_of_power small
  have product : page <<< UInt64.ofNat k = page * layout.pageSize := by
    apply UInt64.toNat_inj.1
    rw [UInt64.toNat_shiftLeft, UInt64.toNat_mul, UInt64.toNat_ofNat', size, Nat.shiftLeft_eq]
    congr 3
    omega
  unfold pageAddress
  simp only [shift, small, if_true, product]

/-! ## One record -/

section Record

variable (t : Target) (layout : KernelLayout)

/-- The flags of the area that a record tells. -/
def flagsOf (record : UInt64) : UInt64 :=
  pointerAt t (record + layout.areaFlags)

/-- An area of device memory or of bare page frames. -/
def Physical (flags : UInt64) : Prop :=
  flags &&& Flags.areaIo ≠ 0 ∨ flags &&& Flags.areaPageFrames ≠ 0

instance (flags : UInt64) : Decidable (Physical flags) :=
  inferInstanceAs (Decidable (_ ∨ _))

/-- The area that a record tells. Only a physical one has an address of its own. -/
def areaOf (record : UInt64) : Area where
  start := pointerAt t (record + layout.areaStart)
  finish := pointerAt t (record + layout.areaFinish)
  flags := flagsOf t layout record
  ioAddress :=
    if Physical (flagsOf t layout record) then
      some (pointerAt t (record + layout.areaPageOffset) * layout.pageSize)
    else none

/-- The way through the area of a record. The page offset is passed by unless the area is
physical. -/
def areaTrail (record : UInt64) : List Waypoint :=
  [.any (record + layout.areaStart) CType.pointerSize,
   .any (record + layout.areaFinish) CType.pointerSize,
   .any (record + layout.areaFlags) CType.pointerSize] ++
    if Physical (flagsOf t layout record) then
      [.any (record + layout.areaPageOffset) CType.pointerSize]
    else []

/-- The way through a record, to the link behind its area. -/
def recordTrail (record : UInt64) : List Waypoint :=
  areaTrail t layout record ++ [.any (record + layout.areaNext) CType.pointerSize]

theorem length_recordTrail_le (record : UInt64) : (recordTrail t layout record).length ≤ 5 := by
  unfold recordTrail areaTrail
  split <;> simp

variable {t layout}

theorem isPhysical_iff (flags : UInt64) : Flags.isPhysical flags = true ↔ Physical flags := by
  have split : flags &&& (Flags.areaIo ||| Flags.areaPageFrames) =
      flags &&& Flags.areaIo ||| flags &&& Flags.areaPageFrames := by
    apply UInt64.toBitVec_inj.1
    simp only [UInt64.toBitVec_and, UInt64.toBitVec_or, BitVec.and_or_distrib_left]
  unfold Flags.isPhysical Physical
  rw [split, bne_iff_ne, ne_eq, UInt64.or_eq_zero_iff, Decidable.not_and_iff_or_not]

theorem follows_areaAt (t : Target) (power : layout.pageSize.toNat.isPowerOfTwo)
    (record : UInt64) :
    Follows t (areaAt layout record) (areaTrail t layout record)
      (pure (areaOf t layout record)) := by
  have asked : Flags.isPhysical (wordAt t (record + layout.areaFlags) CType.pointerSize) = true ↔
      Physical (flagsOf t layout record) := isPhysical_iff _
  unfold areaAt areaTrail areaOf
  refine Follows.unsigned t _ _ <| Follows.unsigned t _ _ <| Follows.unsigned t _ _ ?_
  by_cases physical : Physical (flagsOf t layout record)
  · rw [if_pos (asked.2 physical), if_pos physical, if_pos physical]
    refine Follows.unsigned t _ _ ?_
    rw [pageAddress_eq power]
    exact (Follows.refl t _).andThen (.refl t _)
  · rw [if_neg (mt asked.1 physical), if_neg physical, if_neg physical]
    exact .refl t _

end Record

/-! ## The chain of records -/

section Chain

variable (t : Target) (layout : KernelLayout)

/-- The record that many links behind the first. -/
def recordFrom (first : UInt64) : Nat → UInt64
  | 0 => first
  | i + 1 => pointerAt t (recordFrom first i + layout.areaNext)

theorem recordFrom_zero (first : UInt64) : recordFrom t layout first 0 = first := rfl

theorem recordFrom_succ (first : UInt64) (i : Nat) :
    recordFrom t layout first (i + 1) =
      recordFrom t layout (pointerAt t (first + layout.areaNext)) i := by
  induction i with
  | zero => rfl
  | succ i ih => rw [recordFrom, ih, recordFrom]

/-- A walk along these records takes so many steps: as many as there are before the first null, but
no more than the limit. -/
structure Extent (record : Nat → UInt64) (limit n : Nat) : Prop where
  le : n ≤ limit
  linked : ∀ i < n, record i ≠ 0
  ended : n = limit ∨ record n = 0

theorem Extent.cons {record rest : Nat → UInt64} {limit n : Nat} (first : record 0 ≠ 0)
    (later : ∀ i, record (i + 1) = rest i) (h : Extent rest limit n) :
    Extent record (limit + 1) (n + 1) where
  le := Nat.succ_le_succ h.le
  linked := by
    intro i hi
    cases i with
    | zero => exact first
    | succ i =>
      rw [later]
      exact h.linked i (Nat.lt_of_succ_lt_succ hi)
  ended := by
    rw [later]
    exact h.ended.imp_left (congrArg (· + 1))

variable {layout}

/-- The walk along a chain of records lists their areas behind those it has seen. -/
theorem follows_chainFrom (power : layout.pageSize.toNat.isPowerOfTwo) (limit : Nat)
    (seen : List Area) (first : UInt64) :
    ∃ n, Extent (recordFrom t layout first) limit n ∧
      Follows t (chainFrom layout seen first limit)
        ((List.range n).flatMap fun i => recordTrail t layout (recordFrom t layout first i))
        (pure (seen.reverse ++
          (List.range n).map fun i => areaOf t layout (recordFrom t layout first i))) := by
  induction limit generalizing seen first with
  | zero =>
    refine ⟨0, ⟨Nat.le_refl 0, fun i hi => absurd hi (Nat.not_lt_zero i), .inl rfl⟩, ?_⟩
    rw [List.range_zero, List.map_nil, List.append_nil]
    exact .refl t _
  | succ limit ih =>
    unfold chainFrom
    by_cases null : first = 0
    · refine ⟨0, ⟨Nat.zero_le _, fun i hi => absurd hi (Nat.not_lt_zero i), .inr null⟩, ?_⟩
      rw [if_pos null, List.range_zero, List.map_nil, List.append_nil]
      exact .refl t _
    · obtain ⟨n, extent, follows⟩ :=
        ih (areaOf t layout first :: seen) (pointerAt t (first + layout.areaNext))
      refine ⟨n + 1, extent.cons null (recordFrom_succ t layout first), ?_⟩
      -- the first record is walked through by itself, the others as a chain of their own
      have areas : seen.reverse ++
          (List.range (n + 1)).map (fun i => areaOf t layout (recordFrom t layout first i)) =
          (areaOf t layout first :: seen).reverse ++ (List.range n).map fun i =>
            areaOf t layout (recordFrom t layout (pointerAt t (first + layout.areaNext)) i) := by
        simp only [List.range_succ_eq_map, List.map_cons, List.map_map, Function.comp_def,
          recordFrom_zero, recordFrom_succ, List.reverse_cons, List.append_assoc,
          List.singleton_append]
      have trail : (List.range (n + 1)).flatMap
            (fun i => recordTrail t layout (recordFrom t layout first i)) =
          areaTrail t layout first ++
            .any (first + layout.areaNext) CType.pointerSize :: (List.range n).flatMap fun i =>
              recordTrail t layout
                (recordFrom t layout (pointerAt t (first + layout.areaNext)) i) := by
        simp only [List.range_succ_eq_map, List.flatMap_cons, List.flatMap_map, recordFrom_zero,
          recordFrom_succ, recordTrail, List.append_assoc, List.singleton_append]
      rw [if_neg null, areas, trail]
      exact (follows_areaAt t power first).andThen (Follows.unsigned t _ _ follows)

end Chain

/-! ## Walks that are broken off -/

theorem BreaksOff.not_all_passed {t : Target} {trail : List Waypoint} {asked : List Question}
    {stop : Stop} (h : BreaksOff t trail asked stop) : ¬ ∀ p ∈ trail, p.Passed t := by
  induction h with
  | unreadable read =>
    intro all
    obtain ⟨word, passed, -⟩ := all _ List.mem_cons_self
    cases read.symm.trans passed
  | refused read refused =>
    intro all
    obtain ⟨word, passed, accepted⟩ := all _ List.mem_cons_self
    cases read.symm.trans passed
    exact refused accepted
  | later _ _ ih => exact fun all => ih fun p hp => all p (List.mem_cons_of_mem _ hp)

theorem BreaksOff.length_asked_le {t : Target} {trail : List Waypoint} {asked : List Question}
    {stop : Stop} (h : BreaksOff t trail asked stop) : asked.length ≤ trail.length := by
  induction h with
  | unreadable _ => simp
  | refused _ _ => simp
  | later _ _ ih => exact Nat.succ_le_succ ih

/-! ## The areas of a task -/

section Areas

variable (t : Target) (layout : KernelLayout) (task : UInt64)

/-- The first record of a task is a member of its memory. -/
def firstRecord : UInt64 :=
  pointerAt t (pointerAt t (task + layout.taskMemory) + layout.memoryAreas)

/-- The records of a task by number. -/
def recordOf : Nat → UInt64 :=
  recordFrom t layout (firstRecord t layout task)

/-- The way from a task through this many records. -/
def areasTrail (n : Nat) : List Waypoint :=
  [.link (task + layout.taskMemory) "task has no mm (kernel thread)",
   .any (pointerAt t (task + layout.taskMemory) + layout.memoryAreas) CType.pointerSize] ++
    (List.range n).flatMap fun i => recordTrail t layout (recordOf t layout task i)

theorem length_areasTrail_le (n : Nat) : (areasTrail t layout task n).length ≤ 2 + 5 * n := by
  have records : ((List.range n).flatMap fun i =>
      recordTrail t layout (recordOf t layout task i)).length ≤ 5 * n := by
    induction n with
    | zero => simp
    | succ n ih =>
      have last := length_recordTrail_le t layout (recordOf t layout task n)
      rw [List.range_succ, List.flatMap_append, List.length_append, List.flatMap_singleton]
      omega
  unfold areasTrail
  rw [List.length_append]
  exact Nat.add_le_add_left records 2

variable {layout}

theorem follows_areasOf (power : layout.pageSize.toNat.isPowerOfTwo) :
    ∃ n, Extent (recordOf t layout task) maxAreas n ∧
      Follows t (areasOf layout task) (areasTrail t layout task n)
        (pure ((List.range n).map fun i => areaOf t layout (recordOf t layout task i))) := by
  obtain ⟨n, extent, follows⟩ :=
    follows_chainFrom t power maxAreas [] (firstRecord t layout task)
  refine ⟨n, extent, ?_⟩
  refine Follows.word (fun memory null => if_pos (Decidable.not_not.1 null)) fun linked => ?_
  rw [if_neg linked]
  exact Follows.unsigned t _ _ follows

variable (layout)

/-- A task without memory has no areas to list. Any other has one for each record of its chain, up to
the first null link and to no more than the limit, in order, if every word on the way can be read;
nothing else is asked for. Otherwise the walk ends with the first word that cannot be. -/
theorem areas_walk (power : layout.pageSize.toNat.isPowerOfTwo) :
    (t.readPointer .kernel (task + layout.taskMemory) = .ok 0 →
      areas t layout task =
        .error (.failure (.unresolved "task has no mm (kernel thread)"))) ∧
    ((areasOf layout task).asked t.world).length ≤ 2 + 5 * maxAreas ∧
    ∃ n, Extent (recordOf t layout task) maxAreas n ∧
      ((∀ p ∈ areasTrail t layout task n, p.Passed t) →
        areas t layout task =
          .ok ((List.range n).map fun i => areaOf t layout (recordOf t layout task i)) ∧
        (areasOf layout task).asked t.world =
          (areasTrail t layout task n).map Waypoint.question) ∧
      ((¬ ∀ p ∈ areasTrail t layout task n, p.Passed t) →
        ∃ stop, areas t layout task = .error stop ∧
          BreaksOff t (areasTrail t layout task n) ((areasOf layout task).asked t.world) stop) := by
  obtain ⟨n, extent, follows⟩ := follows_areasOf t task power
  have bound : (areasTrail t layout task n).length ≤ 2 + 5 * maxAreas :=
    Nat.le_trans (length_areasTrail_le t layout task n)
      (Nat.add_le_add_left (Nat.mul_le_mul_left 5 extent.le) 2)
  refine ⟨fun null => ?_, ?_, n, extent, ?_⟩
  · exact Course.on_bind_ok _ null _
  · cases follows with
    | broken off _ asked =>
      rw [asked]
      exact Nat.le_trans off.length_asked_le bound
    | through _ _ asked =>
      rw [asked, Course.asked_pure, List.append_nil, List.length_map]
      exact bound
  · cases follows with
    | broken off on asked =>
      refine ⟨fun all => absurd all off.not_all_passed, fun _ => ⟨_, on, ?_⟩⟩
      rw [asked]
      exact off
    | through all on asked =>
      refine ⟨fun _ => ⟨on, ?_⟩, fun some => absurd all some⟩
      rw [asked, Course.asked_pure, List.append_nil]

/-! ## A chain without an end -/

/-- A machine that holds the letter A everywhere. -/
def letters : Target :=
  .catalogued fun _ => .ok 65

theorem readPointer_letters (space : AddressSpace) (address : UInt64) :
    letters.readPointer space address = .ok 0x4141414141414141 := by
  have word : (WordBuffer.zero.write (List.replicate 8 65)).word = 0x4141414141414141 := by decide
  exact congrArg Except.ok word

theorem recordOf_letters (task : UInt64) (i : Nat) :
    recordOf letters layout task i = 0x4141414141414141 := by
  have held (address : UInt64) : pointerAt letters address = 0x4141414141414141 :=
    congrArg (fun read => read.toOption.getD 0) (readPointer_letters .kernel address)
  cases i with
  | zero => exact held (pointerAt letters (task + layout.taskMemory) + layout.memoryAreas)
  | succ i => exact held (recordOf letters layout task i + layout.areaNext)

theorem passed_areasTrail_letters (task : UInt64) (n : Nat) :
    ∀ p ∈ areasTrail letters layout task n, p.Passed letters := by
  have any (address : UInt64) : (Waypoint.any address CType.pointerSize).Passed letters :=
    ⟨_, rfl, trivial⟩
  have link (address : UInt64) (null : String) : (Waypoint.link address null).Passed letters :=
    ⟨0x4141414141414141, readPointer_letters _ _, (by decide : (0x4141414141414141 : UInt64) ≠ 0)⟩
  intro p hp
  unfold areasTrail recordTrail areaTrail at hp
  simp only [List.mem_append, List.mem_cons, List.not_mem_nil, or_false, List.mem_flatMap] at hp
  obtain (rfl | rfl) | ⟨i, -, ((rfl | rfl | rfl) | page) | rfl⟩ := hp
  · exact link _ _
  · exact any _
  · exact any _
  · exact any _
  · exact any _
  · split at page
    · rw [List.mem_singleton.1 page]
      exact any _
    · cases page
  · exact any _

/-- There every record leads to itself, and as many areas are listed as the limit allows. -/
theorem walk_endless :
    ∃ list, areas letters .linux2632 0x1000 = .ok list ∧ list.length = 65536 := by
  have power : KernelLayout.linux2632.pageSize.toNat.isPowerOfTwo := ⟨12, rfl⟩
  obtain ⟨-, -, n, extent, through, -⟩ := areas_walk letters .linux2632 0x1000 power
  have unlimited : n = maxAreas := by
    refine extent.ended.resolve_right fun null => ?_
    rw [recordOf_letters] at null
    cases null
  obtain ⟨found, -⟩ := through (passed_areasTrail_letters _ _ _)
  refine ⟨_, found, ?_⟩
  rw [List.length_map, List.length_range, unlimited]
  rfl

end Areas

end SyscallDecode.Kernel
