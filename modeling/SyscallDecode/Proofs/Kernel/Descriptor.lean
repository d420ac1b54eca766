/-
From a descriptor to the object behind it. The walk leads from the task over its open files, the
descriptor table and the array of that table to the file, and from there to a socket or to a
directory entry. It ends with the first word that cannot be read or is refused, reads nothing behind
a null link, and no slot that the table does not have.
-/
import SyscallDecode.Kernel.Task
import SyscallDecode.Proofs.Inquiry.Strings
import SyscallDecode.Proofs.Kernel.Trail

namespace SyscallDecode.Kernel

open SyscallDecode.Text

/-! ## The chain -/

/-- The links between a task and the object behind a descriptor. -/
structure Chain where
  /-- The open files of the task. -/
  files : UInt64
  /-- Their descriptor table. -/
  table : UInt64
  /-- The array of the table. -/
  slots : UInt64
  file : UInt64
  /-- The operations of the file. -/
  ops : UInt64
  /-- What the file keeps for itself; for a socket the socket. -/
  socket : UInt64
  /-- The directory entry of the file. -/
  entry : UInt64

variable (t : Target) (layout : KernelLayout) (task : UInt64)

/-- The chain that kernel memory holds; every link is zero that cannot be read. -/
def chainOf (fd : Nat) : Chain :=
  let files := pointerAt t (task + layout.taskFiles)
  let table := pointerAt t (files + layout.filesTable)
  let slots := pointerAt t (table + layout.tableSlots)
  let file := pointerAt t (slots + UInt64.ofNat (fd * layout.pointerSize.toNat))
  { files, table, slots, file
    ops := pointerAt t (file + layout.fileOps)
    socket := pointerAt t (file + layout.filePrivate)
    entry := pointerAt t (file + layout.fileDentry) }

namespace Chain

variable (c : Chain) (fd : Nat)

/-- The way to the open file. Its slot is only looked at below the size of the table. -/
def toFile : List Waypoint :=
  [.link (task + layout.taskFiles) "task has no open-file table",
   .link (c.files + layout.filesTable) "open-file table has no fdtable",
   ⟨c.table + layout.tableMaxFds, 4, fun maxFds => fd < maxFds.toNat, fun maxFds =>
      "descriptor " ++ toString fd ++ " is past max_fds " ++ toString maxFds.toNat⟩,
   .link (c.table + layout.tableSlots) "fdtable has no descriptor array",
   .link (c.slots + UInt64.ofNat (fd * layout.pointerSize.toNat))
      ("descriptor " ++ toString fd ++ " is not open")]

/-- The way to the operations of the open file. -/
def toOps : List Waypoint :=
  c.toFile layout task fd ++ [.any (c.file + layout.fileOps) CType.pointerSize]

/-- The way from the file to the numbers of a socket. -/
def toSocket : List Waypoint :=
  [.link (c.file + layout.filePrivate) "socket file without a socket",
   .any (c.socket + layout.socketType) 2,
   .any (c.socket + layout.socketState) layout.pointerSize.toNat]

/-- The way from the file to its directory entry. -/
def toEntry : List Waypoint :=
  [.any (c.file + layout.fileDentry) CType.pointerSize]

end Chain

/-! ## Along the chain -/

section Follows

variable {t layout task}

/-- The number of a slot fits a word. -/
theorem slotAddress_of_fits {slots : UInt64} {fd : Nat}
    (fits : fd * layout.pointerSize.toNat < UInt64.size) :
    slotAddress layout slots fd =
      pure (slots + UInt64.ofNat (fd * layout.pointerSize.toNat)) := by
  unfold slotAddress
  exact if_pos fits

theorem follows_openFile {fd : Nat} (fits : fd * layout.pointerSize.toNat < UInt64.size) :
    Follows t (openFile layout task fd) ((chainOf t layout task fd).toFile layout task fd)
      (pure (chainOf t layout task fd).file) := by
  refine (Follows.link t _ _).andThen <| (Follows.link t _ _).andThen <|
    Follows.word (fun maxFds past => if_pos (Nat.le_of_not_lt past)) fun inside => ?_
  rw [if_neg (Nat.not_le_of_lt inside)]
  refine (Follows.link t _ _).andThen ?_
  rw [slotAddress_of_fits fits]
  exact (Follows.refl t _).andThen (Follows.link t _ _)

/-- What is left of the walk behind the operations of the file. -/
def behindOps (layout : KernelLayout) (fd : Int32) (c : Chain) : Reading FileView := do
  let socket ← Reading.ofTelling (isSocket layout c.ops)
  if socket then socketView layout c.file fd else fileView layout c.file fd

theorem follows_fileOf (t : Target) (task : UInt64) {fd : Int32} (nonneg : ¬ fd < 0)
    (fits : fd.toInt.toNat * layout.pointerSize.toNat < UInt64.size) :
    Follows t (fileOf layout task fd)
      ((chainOf t layout task fd.toInt.toNat).toOps layout task fd.toInt.toNat)
      (behindOps layout fd (chainOf t layout task fd.toInt.toNat)) := by
  unfold fileOf
  rw [if_neg nonneg]
  exact (follows_openFile fits).andThen (Follows.unsigned t _ _ (.refl t _))

variable {fd : Int32} {c : Chain}

theorem follows_socketView (fd : Int32)
    (socket : c.socket = pointerAt t (c.file + layout.filePrivate)) :
    Follows t (socketView layout c.file fd) (c.toSocket layout)
      (pure (.socket fd (some (wordAt t (c.socket + layout.socketType) 2))
        (some (wordAt t (c.socket + layout.socketState) layout.pointerSize.toNat)))) := by
  unfold socketView Chain.toSocket
  rw [socket]
  exact (Follows.link t _ _).andThen <| Follows.unsigned t _ _ <| Follows.unsigned t _ _ <|
    .refl t _

/-- What is left behind a directory entry. -/
def behindEntry (layout : KernelLayout) (fd : Int32) (c : Chain) : Reading FileView :=
  if c.entry = 0 then return .regular fd none
  else do
    let name ← Reading.string .kernel (c.entry + layout.dentryName) layout.dentryNameLength
    return .regular fd (some (decodeLossy name))

theorem follows_fileView (fd : Int32)
    (entry : c.entry = pointerAt t (c.file + layout.fileDentry)) :
    Follows t (fileView layout c.file fd) (c.toEntry layout) (behindEntry layout fd c) := by
  unfold fileView Chain.toEntry behindEntry
  rw [entry]
  exact Follows.unsigned t _ _ (.refl t _)

end Follows

/-! ## The ends of the walk -/

/-- The ends behind the operations of the file: what is asked from there on, and what comes of it.
The file is a socket if its operations are those of the symbol. -/
inductive Ends (fd : Int32) (c : Chain) : List Question → Attempt FileView → Prop
  /-- Looking up the symbol ends everything; a symbol that is only unknown does not. -/
  | aborted {a : Abort} : t.symbol layout.socketOpsSymbol = .error (.abort a) →
      Ends fd c [] (.error (.abort a))
  | socketLost {asked : List Question} {stop : Stop} :
      t.symbol layout.socketOpsSymbol = .ok c.ops → BreaksOff t (c.toSocket layout) asked stop →
      Ends fd c asked (.error stop)
  | socket : t.symbol layout.socketOpsSymbol = .ok c.ops →
      (∀ p ∈ c.toSocket layout, p.Passed t) →
      Ends fd c ((c.toSocket layout).map Waypoint.question)
        (.ok (.socket fd (some (wordAt t (c.socket + layout.socketType) 2))
          (some (wordAt t (c.socket + layout.socketState) layout.pointerSize.toNat))))
  | entryLost {asked : List Question} {stop : Stop} :
      t.symbol layout.socketOpsSymbol ≠ .ok c.ops → BreaksOff t (c.toEntry layout) asked stop →
      Ends fd c asked (.error stop)
  /-- A file without a directory entry has no name. -/
  | unnamed : t.symbol layout.socketOpsSymbol ≠ .ok c.ops →
      (∀ p ∈ c.toEntry layout, p.Passed t) → c.entry = 0 →
      Ends fd c ((c.toEntry layout).map Waypoint.question) (.ok (.regular fd none))
  | nameLost {before : List UInt8} {stop : Stop} :
      t.symbol layout.socketOpsSymbol ≠ .ok c.ops →
      (∀ p ∈ c.toEntry layout, p.Passed t) → c.entry ≠ 0 →
      t.StringLost .kernel (c.entry + layout.dentryName) layout.dentryNameLength before stop →
      Ends fd c ((c.toEntry layout).map Waypoint.question ++
        byteReads .kernel (c.entry + layout.dentryName) (before.length + 1)) (.error stop)
  /-- The name stands before the first zero of the field in the directory entry. -/
  | named {bytes : List UInt8} :
      t.symbol layout.socketOpsSymbol ≠ .ok c.ops →
      (∀ p ∈ c.toEntry layout, p.Passed t) → c.entry ≠ 0 →
      t.StringAt .kernel (c.entry + layout.dentryName) layout.dentryNameLength bytes →
      Ends fd c ((c.toEntry layout).map Waypoint.question ++
        byteReads .kernel (c.entry + layout.dentryName)
          (min (bytes.length + 1) layout.dentryNameLength))
        (.ok (.regular fd (some (decodeLossy bytes))))

/-- A walk from a task to the object behind a descriptor: what it asks, and what comes of it. -/
inductive Walk (fd : Int32) (c : Chain) : List Question → Attempt FileView → Prop
  /-- The walk does not come to the operations of a file. -/
  | lost {asked : List Question} {stop : Stop} :
      BreaksOff t (c.toOps layout task fd.toInt.toNat) asked stop → Walk fd c asked (.error stop)
  | found {asked : List Question} {result : Attempt FileView} :
      (∀ p ∈ c.toOps layout task fd.toInt.toNat, p.Passed t) → Ends t layout fd c asked result →
      Walk fd c ((c.toOps layout task fd.toInt.toNat).map Waypoint.question ++
        .symbol layout.socketOpsSymbol :: asked) result

section Ends

variable {t layout task} {fd : Int32} {c : Chain}

theorem ends_socketView (symbol : t.symbol layout.socketOpsSymbol = .ok c.ops)
    (socket : c.socket = pointerAt t (c.file + layout.filePrivate)) :
    Ends t layout fd c ((socketView layout c.file fd).asked t.world)
      ((socketView layout c.file fd).on t.world) := by
  cases follows_socketView fd socket with
  | broken off on asked =>
    rw [on, asked]
    exact .socketLost symbol off
  | through all on asked =>
    rw [on, asked, Course.asked_pure, List.append_nil]
    exact .socket symbol all

theorem ends_fileView (symbol : t.symbol layout.socketOpsSymbol ≠ .ok c.ops)
    (entry : c.entry = pointerAt t (c.file + layout.fileDentry)) :
    Ends t layout fd c ((fileView layout c.file fd).asked t.world)
      ((fileView layout c.file fd).on t.world) := by
  cases follows_fileView fd entry with
  | broken off on asked =>
    rw [on, asked]
    exact .entryLost symbol off
  | through all on asked =>
    rw [on, asked]
    unfold behindEntry
    split
    · next null =>
      rw [Course.asked_pure, List.append_nil]
      exact .unnamed symbol all null
    · next entry =>
      rcases Reading.string_spec t.world .kernel (c.entry + layout.dentryName)
        layout.dentryNameLength with ⟨bytes, held, on, asked⟩ | ⟨before, stop, lost, on, asked⟩
      · rw [Course.on_bind_ok _ on, Course.asked_bind_ok _ on, asked, Course.asked_pure,
          List.append_nil]
        exact .named symbol all entry held
      · rw [Course.on_bind_error _ on, Course.asked_bind_error _ on, asked]
        exact .nameLost symbol all entry lost

/-- Whether a file is a socket depends on the symbol alone. -/
theorem on_isSocket (ops : UInt64) :
    (Reading.ofTelling (isSocket layout ops)).on t.world =
      match t.symbol layout.socketOpsSymbol with
      | .ok address => .ok (address == ops)
      | .error (.failure _) => .ok false
      | .error (.abort a) => .error (.abort a) := by
  have answer : (Reading.symbol layout.socketOpsSymbol).on t.world =
      t.symbol layout.socketOpsSymbol := rfl
  rw [Reading.on_ofTelling]
  unfold isSocket
  rcases symbol : t.symbol layout.socketOpsSymbol with (f | a) | address
  · rw [Course.on_bind_ok _ (Reading.on_settle_failure _ (answer.trans symbol))]
    rfl
  · rw [Course.on_bind_error _ (Reading.on_settle_abort _ (answer.trans symbol))]
    rfl
  · rw [Course.on_bind_ok _ (Reading.on_settle_ok _ (answer.trans symbol))]
    rfl

theorem asked_isSocket (ops : UInt64) :
    (Reading.ofTelling (isSocket layout ops)).asked t.world =
      [.symbol layout.socketOpsSymbol] := by
  rw [Reading.asked_ofTelling]
  unfold isSocket
  rw [Course.asked_bind, Reading.asked_settle]
  rcases ((Reading.symbol layout.socketOpsSymbol).settle).on t.world with a | (f | address) <;> rfl

theorem ends_behindOps (layout : KernelLayout) (fd : Int32)
    (socket : c.socket = pointerAt t (c.file + layout.filePrivate))
    (entry : c.entry = pointerAt t (c.file + layout.fileDentry)) :
    ∃ asked, (behindOps layout fd c).asked t.world = .symbol layout.socketOpsSymbol :: asked ∧
      Ends t layout fd c asked ((behindOps layout fd c).on t.world) := by
  have on := @on_isSocket t layout c.ops
  unfold behindOps
  rcases symbol : t.symbol layout.socketOpsSymbol with (f | a) | address
  · rw [symbol] at on
    rw [Course.on_bind_ok _ on, Course.asked_bind_ok _ on, asked_isSocket]
    exact ⟨_, rfl, ends_fileView (by rw [symbol]; rintro ⟨⟩) entry⟩
  · rw [symbol] at on
    rw [Course.on_bind_error _ on, Course.asked_bind_error _ on, asked_isSocket]
    exact ⟨_, rfl, .aborted symbol⟩
  · rw [symbol] at on
    rw [Course.on_bind_ok _ on, Course.asked_bind_ok _ on, asked_isSocket]
    refine ⟨_, rfl, ?_⟩
    by_cases same : address = c.ops
    · subst same
      rw [if_pos (beq_self_eq_true _)]
      exact ends_socketView symbol socket
    · rw [if_neg (by simpa using same)]
      exact ends_fileView (by rw [symbol]; rintro ⟨⟩; exact same rfl) entry

theorem walk_fileOf (t : Target) (task : UInt64) (nonneg : ¬ fd < 0)
    (fits : fd.toInt.toNat * layout.pointerSize.toNat < UInt64.size) :
    Walk t layout task fd (chainOf t layout task fd.toInt.toNat)
      ((fileOf layout task fd).asked t.world) (resolve t layout task fd) := by
  unfold resolve
  cases follows_fileOf t task nonneg fits with
  | broken off on asked =>
    rw [on, asked]
    exact .lost off
  | through all on asked =>
    obtain ⟨rest, asked', ends⟩ := ends_behindOps (t := t) layout fd
      (c := chainOf t layout task fd.toInt.toNat) rfl rfl
    rw [on, asked, asked']
    exact .found all ends

/-! ## The object that is found -/

/-- What a walk finds: a socket with its two numbers if the operations of the file are those of the
symbol, and else a file with the name of its directory entry, if it has one. -/
theorem Ends.view {asked : List Question} {view : FileView}
    (h : Ends t layout fd c asked (.ok view)) :
    view.descriptor = fd ∧
    (t.symbol layout.socketOpsSymbol = .ok c.ops →
      view.kind = .socket ∧ view.path = none ∧
      view.socketType = some (wordAt t (c.socket + layout.socketType) 2) ∧
      view.socketState =
        some (wordAt t (c.socket + layout.socketState) layout.pointerSize.toNat)) ∧
    (t.symbol layout.socketOpsSymbol ≠ .ok c.ops →
      view.kind = .regular ∧ view.socketType = none ∧ view.socketState = none ∧
      (view.path = none ↔ c.entry = 0) ∧
      ∀ path, view.path = some path → ∃ bytes, path = decodeLossy bytes ∧
        t.StringAt .kernel (c.entry + layout.dentryName) layout.dentryNameLength bytes) := by
  cases h with
  | socket symbol _ =>
    exact ⟨rfl, fun _ => ⟨rfl, rfl, rfl, rfl⟩, fun other => absurd symbol other⟩
  | unnamed other _ null =>
    refine ⟨rfl, fun symbol => absurd symbol other, fun _ => ⟨rfl, rfl, rfl, ?_, ?_⟩⟩
    · exact iff_of_true rfl null
    · intro path h
      cases h
  | named other _ entry held =>
    refine ⟨rfl, fun symbol => absurd symbol other, fun _ => ⟨rfl, rfl, rfl, ?_, ?_⟩⟩
    · exact iff_of_false (Option.some_ne_none _) entry
    · intro path h
      cases h
      exact ⟨_, rfl, held⟩

end Ends

/-- The object behind a descriptor of a task. A negative descriptor fails and asks for nothing. For
any other of which the slot has an address, the walk along the chain ends with the first word that
cannot be read, with its stop, or that is refused, or else it finds the object. -/
theorem resolve_walk (t : Target) (layout : KernelLayout) (task : UInt64) (fd : Int32) :
    (fd < 0 →
      resolve t layout task fd =
        .error (.failure (.unresolved ("invalid descriptor " ++ toString fd.toInt))) ∧
      (fileOf layout task fd).asked t.world = []) ∧
    (¬ fd < 0 → fd.toInt.toNat * layout.pointerSize.toNat < UInt64.size →
      ∃ c, c = chainOf t layout task fd.toInt.toNat ∧
        Walk t layout task fd c ((fileOf layout task fd).asked t.world)
          (resolve t layout task fd) ∧
        ∀ view, resolve t layout task fd = .ok view →
          view.descriptor = fd ∧
          (t.symbol layout.socketOpsSymbol = .ok c.ops →
            view.kind = .socket ∧ view.path = none ∧
            view.socketType = some (wordAt t (c.socket + layout.socketType) 2) ∧
            view.socketState =
              some (wordAt t (c.socket + layout.socketState) layout.pointerSize.toNat)) ∧
          (t.symbol layout.socketOpsSymbol ≠ .ok c.ops →
            view.kind = .regular ∧ view.socketType = none ∧ view.socketState = none ∧
            (view.path = none ↔ c.entry = 0) ∧
            ∀ path, view.path = some path → ∃ bytes, path = decodeLossy bytes ∧
              t.StringAt .kernel (c.entry + layout.dentryName) layout.dentryNameLength
                bytes)) := by
  constructor
  · intro negative
    unfold resolve fileOf
    rw [if_pos negative]
    exact ⟨rfl, rfl⟩
  · intro nonneg fits
    refine ⟨_, rfl, walk_fileOf t task nonneg fits, fun view found => ?_⟩
    have walk := walk_fileOf t task nonneg fits
    rw [found] at walk
    generalize (fileOf layout task fd).asked t.world = asked at walk
    cases walk with
    | found _ ends => exact ends.view

/-- On a machine that holds the letter A everywhere, descriptor 3 is a file of that name, and
descriptor -1 is none. -/
theorem walk_letters :
    (∃ view, resolve (.catalogued fun _ => .ok 65) .linux2632 0x1000 3 = .ok view ∧
      view.kind = .regular ∧ view.path ≠ none) ∧
    (fileOf .linux2632 0x1000 (-1)).asked (Target.catalogued fun _ => .ok 65).world = [] := by
  obtain ⟨-, found⟩ := resolve_walk (.catalogued fun _ => .ok 65) .linux2632 0x1000 3
  obtain ⟨invalid, -⟩ := resolve_walk (.catalogued fun _ => .ok 65) .linux2632 0x1000 (-1)
  obtain ⟨c, rfl, -, view⟩ := found (by decide) (by decide)
  obtain ⟨v, hv⟩ : ∃ v, resolve (.catalogued fun _ => .ok 65) .linux2632 0x1000 3 = .ok v :=
    ⟨_, rfl⟩
  obtain ⟨-, -, file⟩ := view v hv
  obtain ⟨kind, -, -, path, -⟩ := file (by rintro ⟨⟩)
  have entry : (chainOf (.catalogued fun _ => .ok 65) .linux2632 0x1000
      (Int32.toInt 3).toNat).entry ≠ 0 := by decide +kernel
  exact ⟨⟨v, hv, kind, fun none => entry (path.1 none)⟩, (invalid (by decide)).2⟩

end SyscallDecode.Kernel
