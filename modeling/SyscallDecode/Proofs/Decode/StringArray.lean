/-
Arrays of strings among the arguments of a call. Where every slot up to the first null pointer can
be read, or as many as may be shown, there is one entry for each pointer, and an entry depends on
nothing but its own string. A slot that cannot be read takes all entries with it, also those of the
slots before it.
-/
import SyscallDecode.Proofs.Decode.SocketAddress
import SyscallDecode.Proofs.Inquiry.Pointers

namespace SyscallDecode

open SyscallDecode.Text

/-! ## Questions -/

/-- A sequence asks no more than both of its parts. -/
theorem Course.length_asked_bind_le {ε α β : Type} {w : World} {c : Course ε β}
    {k : β → Course ε α} {m n : Nat} (first : (c.asked w).length ≤ m)
    (second : ∀ b, c.on w = .ok b → ((k b).asked w).length ≤ n) :
    ((c >>= k).asked w).length ≤ m + n := by
  cases h : c.on w with
  | error e =>
    rw [Course.asked_bind_error w h]
    exact Nat.le_add_right_of_le first
  | ok b =>
    rw [Course.asked_bind_ok w h, List.length_append]
    exact Nat.add_le_add first (second b h)

/-! ## What is told of an array -/

/-- What is told of the string behind a pointer: its bytes, or why one of them cannot be read. -/
inductive Target.TellsString (t : Target) (space : AddressSpace) (limit : Nat) (pointer : UInt64) :
    Noted String → Prop
  | shown (bytes : List UInt8) : t.StringAt space pointer limit bytes →
      TellsString t space limit pointer ⟨quote (decodeLossy bytes), false⟩
  | lost (before : List UInt8) (f : Failure) :
      t.StringLost space pointer limit before (.failure f) →
      TellsString t space limit pointer ⟨"cannot dereference: " ++ f.message, true⟩

namespace Overlay

variable {w : World} {t : Target} {space : AddressSpace} {name told : String} {limit : Nat}
  {pointers : List UInt64} {entries : List (Noted String)}

/-- The text of an entry, given what is told of its string. -/
def entryText (name : String) (index : Nat) (pointer : UInt64) (told : String) : String :=
  "\n" ++ name ++ "[" ++ toString index ++ "] @ " ++ hexMarked pointer.toNat ++ " -> " ++ told

/-- The entries for these pointers, one for each in order, numbered from `index` on. -/
structure Lists (t : Target) (space : AddressSpace) (name : String) (limit index : Nat)
    (pointers : List UInt64) (entries : List (Noted String)) : Prop where
  length_eq : entries.length = pointers.length
  entry : ∀ (k : Nat) (p : UInt64), pointers[k]? = some p →
    ∃ told, t.TellsString space limit p told ∧
      entries[k]? = some (told.map (entryText name (index + k) p))

theorem lists_nil (index : Nat) : Lists t space name limit index [] [] :=
  ⟨rfl, fun _ _ h => by cases h⟩

theorem Lists.cons {index : Nat} {pointer : UInt64} {told : Noted String}
    (first : t.TellsString space limit pointer told)
    (rest : Lists t space name limit (index + 1) pointers entries) :
    Lists t space name limit index (pointer :: pointers)
      (told.map (entryText name index pointer) :: entries) := by
  refine ⟨congrArg (· + 1) rest.length_eq, fun k p hp => ?_⟩
  cases k with
  | zero =>
    cases hp
    exact ⟨told, first, rfl⟩
  | succ k =>
    have number : index + (k + 1) = index + 1 + k := by omega
    rw [number]
    exact rest.entry k p hp

/-- What stands behind the entries of `limit` slots: a word on it when all of them are shown. -/
def closing (limit : Nat) (pointers : List UInt64) : List (Noted String) :=
  if pointers.length = limit then
    [⟨"\n... stopped after " ++ toString maxStrings ++ " entries", false⟩]
  else []

/-- An array of these pointers in words. -/
def arrayText (pointers : List UInt64) (entries : List (Noted String)) : Noted String :=
  (Noted.all (entries ++ closing maxStrings pointers)).map String.join

/-! ## One entry -/

theorem on_stringEntry (calm : w.target.Calm) (space : AddressSpace) (name : String)
    (limit index : Nat) (pointer : UInt64) :
    ∃ told, w.target.TellsString space limit pointer told ∧
      (stringEntry space name limit index pointer).on w =
        .ok (told.map (entryText name index pointer)) := by
  unfold stringEntry
  obtain ⟨bytes, held, read, -⟩ | ⟨before, stop, lost, read, -⟩ :=
    Reading.string_spec w space pointer limit
  · refine ⟨_, .shown bytes held, ?_⟩
    rw [Course.on_bind_ok w (Reading.on_settle_ok w read)]
    rfl
  · cases stop with
    | failure f =>
      refine ⟨_, .lost before f lost, ?_⟩
      rw [Course.on_bind_ok w (Reading.on_settle_failure w read)]
      simp only [Course.on_pure, Noted.map, entryText, String.append_assoc]
    | abort a => exact absurd lost.lost (calm _ _ _ _)

theorem length_asked_stringEntry (w : World) (space : AddressSpace) (name : String)
    (limit index : Nat) (pointer : UInt64) :
    ((stringEntry space name limit index pointer).asked w).length ≤ limit := by
  refine Course.length_asked_bind_le (n := 0) ?_ fun ending _ => ?_
  · rw [Reading.asked_settle]
    exact Reading.length_asked_string w space pointer limit
  · cases ending <;> exact Nat.le_refl 0

/-! ## All entries -/

/-- An array of which every slot can be read has its entries, and a word behind them if it may be
longer. -/
theorem on_stringEntries (calm : w.target.Calm) (name : String) (limit : Nat) {remaining : Nat}
    {slot : UInt64} (array : w.target.ArrayAt space slot remaining pointers) (index : Nat) :
    ∃ entries, Lists w.target space name limit index pointers entries ∧
      (stringEntries space name limit stringPointer index remaining slot).on w =
        .ok (entries ++ closing remaining pointers) := by
  induction remaining generalizing slot index pointers with
  | zero =>
    obtain rfl := List.eq_nil_of_length_eq_zero (Nat.le_zero.1 array.length_le)
    exact ⟨[], lists_nil index, rfl⟩
  | succ remaining ih =>
    unfold stringEntries
    cases pointers with
    | nil =>
      have null := array.ended (Nat.succ_pos remaining)
      rw [List.length_nil, slotAt_zero] at null
      rw [Course.on_bind_ok w (Cursor.on_slot null)]
      exact ⟨[], lists_nil index, rfl⟩
    | cons pointer pointers =>
      obtain ⟨nonnull, held, rest⟩ := Target.arrayAt_cons.1 array
      obtain ⟨told, first, shown⟩ := on_stringEntry calm space name limit index pointer
      obtain ⟨entries, later, read⟩ := ih rest (index + 1)
      refine ⟨_, later.cons first, ?_⟩
      have entry : (Reading.ofTelling (stringEntry space name limit index pointer)).on w = .ok _ :=
        congrArg Attempt.ofRun shown
      -- the next slot is that of an array of its own
      have next : (stringEntries space name limit stringPointer (index + 1) remaining
          (slot + UInt64.ofNat stringPointer.size)).on w = _ := read
      have ends : closing (remaining + 1) (pointer :: pointers) = closing remaining pointers := by
        simp only [closing, List.length_cons, Nat.add_right_cancel_iff]
      rw [Course.on_bind_ok w (Cursor.on_slot held), if_neg nonnull, Course.on_bind_ok w entry,
        Course.on_bind_ok w next, ends]
      rfl

/-- A slot that cannot be read leaves nothing of the entries before it. -/
theorem on_stringEntries_lost (calm : w.target.Calm) (name : String) (limit : Nat)
    {remaining : Nat} {slot : UInt64} {stop : Stop}
    (array : w.target.ArrayLost space slot remaining pointers stop) (index : Nat) :
    (stringEntries space name limit stringPointer index remaining slot).on w = .error stop := by
  induction remaining generalizing slot index pointers with
  | zero => exact absurd array.length_lt (Nat.not_lt_zero _)
  | succ remaining ih =>
    unfold stringEntries
    cases pointers with
    | nil =>
      have lost := array.lost
      rw [List.length_nil, slotAt_zero] at lost
      exact Course.on_bind_error w (Cursor.on_slot_lost lost) _
    | cons pointer pointers =>
      obtain ⟨nonnull, held, rest⟩ := Target.arrayLost_cons.1 array
      obtain ⟨told, -, shown⟩ := on_stringEntry calm space name limit index pointer
      have entry : (Reading.ofTelling (stringEntry space name limit index pointer)).on w = .ok _ :=
        congrArg Attempt.ofRun shown
      have next : (stringEntries space name limit stringPointer (index + 1) remaining
          (slot + UInt64.ofNat stringPointer.size)).on w = _ := ih rest (index + 1)
      rw [Course.on_bind_ok w (Cursor.on_slot held), if_neg nonnull, Course.on_bind_ok w entry,
        Course.on_bind_error w next]

/-- Every slot is read once, and its string at most byte by byte up to the limit. -/
theorem length_asked_stringEntries (w : World) (space : AddressSpace) (name : String) (limit : Nat)
    (type : CType) (index remaining : Nat) (slot : UInt64) :
    ((stringEntries space name limit type index remaining slot).asked w).length ≤
      remaining * (1 + limit) := by
  induction remaining generalizing index slot with
  | zero => exact Nat.zero_le _
  | succ remaining ih =>
    unfold stringEntries
    rw [Nat.succ_mul, Nat.add_comm (remaining * _), Nat.add_assoc]
    refine Course.length_asked_bind_le (Cursor.length_asked_value w space slot type) fun p _ => ?_
    split
    · exact Nat.zero_le _
    · refine Course.length_asked_bind_le ?_ fun entry _ => ?_
      · rw [Reading.asked_ofTelling]
        exact length_asked_stringEntry w space name limit index p
      · exact Course.length_asked_bind_le (n := 0) (ih _ _) fun _ _ => Nat.le_refl 0

/-! ## The array -/

theorem on_stringArray (calm : w.target.Calm)
    (known : w.target.typeNamed "char __user *" = .ok stringPointer) (name : String) (limit : Nat)
    {address : UInt64} (array : w.target.ArrayAt space address maxStrings pointers) :
    ∃ entries, Lists w.target space name limit 0 pointers entries ∧
      (stringArray space name limit address).on w = .ok (arrayText pointers entries) := by
  obtain ⟨entries, lists, read⟩ := on_stringEntries calm name limit array 0
  have typed : (Reading.typeNamed "char __user *").on w = .ok stringPointer := known
  refine ⟨entries, lists, ?_⟩
  unfold stringArray
  rw [Course.on_bind_ok w typed, Course.on_bind_ok w read]
  rfl

theorem on_stringArray_lost (calm : w.target.Calm)
    (known : w.target.typeNamed "char __user *" = .ok stringPointer) (name : String) (limit : Nat)
    {address : UInt64} {stop : Stop}
    (array : w.target.ArrayLost space address maxStrings pointers stop) :
    (stringArray space name limit address).on w = .error stop := by
  have typed : (Reading.typeNamed "char __user *").on w = .ok stringPointer := known
  unfold stringArray
  rw [Course.on_bind_ok w typed,
    Course.on_bind_error w (on_stringEntries_lost calm name limit array 0)]

/-- An array asks for no more than its cap allows, whatever memory holds. -/
theorem length_asked_stringArray (w : World) (space : AddressSpace) (name : String) (limit : Nat)
    (address : UInt64) :
    ((stringArray space name limit address).asked w).length ≤ 1 + maxStrings * (1 + limit) := by
  refine Course.length_asked_bind_le (Nat.le_refl 1) fun type _ => ?_
  exact Course.length_asked_bind_le (n := 0)
    (length_asked_stringEntries w space name limit type 0 maxStrings address)
    fun _ _ => Nat.le_refl 0

theorem ofRole_stringArray {arg : Argument} (role : arg.role = .stringArray) (space : AddressSpace)
    (config : Config) (call : Invocation) (address : UInt64) :
    ofRole space config call arg address =
      stringArray space arg.displayName config.stringLimit address := by
  unfold ofRole
  rw [role]

end Overlay

/-! ## The first pointer -/

theorem CType.render_stringPointer (bytes : List UInt8) :
    stringPointer.render bytes = Socket.pointerShown (scalarValue bytes) := by
  unfold stringPointer CType.render CType.renderValue CType.renderScalar Socket.pointerShown
  simp only [scalarValue_take]

theorem Reading.on_rendered_slot {w : World} {space : AddressSpace} {address pointer : UInt64}
    (h : w.target.HoldsPointer space address pointer) :
    (Reading.rendered space stringPointer address).on w = .ok (Socket.pointerShown pointer) := by
  obtain ⟨bytes, read, rfl⟩ := h.word
  have asked : (Reading.bytes space address stringPointer.size).on w = .ok bytes := read
  unfold Reading.rendered
  rw [Course.on_bind_ok w asked, CType.render_stringPointer]
  rfl

namespace Decode

open Socket (pointerShown)
open Overlay (Lists arrayText maxStrings stringArray)

variable {t : Target} {cell : AddressSpace → UInt64 → Option UInt8} {process : ProcessView}
  {ctx : Context} {w : World} {arg : Argument} {value : UInt64}

/-! ## The line of an array -/

/-- An overlay that fails leaves word of it. -/
theorem on_overlayText_failure {f : Failure}
    (failing : (Overlay.ofRole ctx.space ctx.config ctx.call arg value).on w =
      .error (.failure f)) :
    (overlayText ctx arg value).on w = .ok ⟨"\nexception: " ++ f.message, true⟩ := by
  unfold overlayText
  rw [Course.on_bind_ok _ (Reading.on_settle_failure _ failing)]
  rfl

/-- Memory in which every slot can be read that is not behind a null holds an array. -/
theorem exists_arrayAt (memory : t.ByteAddressed cell) {space : AddressSpace} {limit : Nat}
    (readable : ∀ k < limit, t.NonNull space value k →
      Target.Resident cell space (slotAt value k) 8) :
    ∃ pointers, t.ArrayAt space value limit pointers := by
  obtain array | ⟨before, stop, array⟩ := t.arrayAt_or_lost space value limit
  · exact array
  · obtain ⟨bytes, read⟩ :=
      memory.resident_iff.1 (readable _ array.length_lt array.held.nonNull)
    cases array.lost.symm.trans read

variable {config : Config} {call : Invocation} {s : Signature} {i : Nat}

/-- The line of an array has its first pointer, and behind it what the overlay says. -/
theorem tells_of_first
    (types : ∀ name type, CType.builtin? name = some type → t.typeNamed name = .ok type)
    (known : Signature.find? call.number = some s) (declared : s.arguments[i]? = some arg)
    (role : arg.role = .stringArray) (held : call.register i = .ok value) (nonnull : value ≠ 0)
    {first : UInt64} (slot : t.HoldsPointer (.user call.root) value first) {overlay : Noted String}
    (overlaid : (overlayText ⟨config, call⟩ arg value).on ⟨t, process⟩ = .ok overlay) :
    (decode t process config call).Tells i ⟨arg.displayName, arg.pointerType ++ ": " ++
      hexMarked value.toNat ++ " ->\n" ++ pointerShown first ++ overlay.value, 1⟩ := by
  obtain ⟨pointer, type⟩ :=
    Signature.pointer_of_stringArray known (List.mem_of_getElem? declared) role
  have typed : (Reading.typeNamed arg.type).on ⟨t, process⟩ = .ok stringPointer := by
    rw [type]
    exact types _ _ builtin?_stringPointer
  have shown := @Reading.on_rendered_slot ⟨t, process⟩ _ _ _ slot
  have told : (pointerText ⟨config, call⟩ arg value).on ⟨t, process⟩ = .ok _ :=
    on_pointerText_of_overlayText nonnull typed shown overlaid
  exact tells_of_pointer known declared pointer held told

/-- The line of an array has its first pointer and its entries. -/
theorem tells_of_arrayAt (memory : t.ByteAddressed cell)
    (types : ∀ name type, CType.builtin? name = some type → t.typeNamed name = .ok type)
    (known : Signature.find? call.number = some s) (declared : s.arguments[i]? = some arg)
    (role : arg.role = .stringArray) (held : call.register i = .ok value) (nonnull : value ≠ 0)
    {pointers : List UInt64} (array : t.ArrayAt (.user call.root) value maxStrings pointers) :
    ∃ entries,
      Lists t (.user call.root) arg.displayName config.stringLimit 0 pointers entries ∧
      (stringArray (.user call.root) arg.displayName config.stringLimit value).on ⟨t, process⟩ =
        .ok (arrayText pointers entries) ∧
      (decode t process config call).Tells i ⟨arg.displayName, arg.pointerType ++ ": " ++
        hexMarked value.toNat ++ " ->\n" ++ pointerShown (pointers.headD 0) ++
        (arrayText pointers entries).value, 1⟩ := by
  obtain ⟨entries, lists, read⟩ := @Overlay.on_stringArray ⟨t, process⟩ _ _ memory.calm
    (types _ _ builtin?_stringPointer) arg.displayName config.stringLimit _ array
  refine ⟨entries, lists, read, ?_⟩
  have overlaid : (overlayText ⟨config, call⟩ arg value).on ⟨t, process⟩ =
      .ok (arrayText pointers entries) := by
    refine on_overlayText ?_
    rw [Overlay.ofRole_stringArray role]
    exact read
  exact tells_of_first types known declared role held nonnull array.first overlaid

/-- Where memory is made of single bytes, an array of strings of which every slot up to the first
null can be read, or as many as may be shown, has one entry for each pointer in order: its string, or
why that cannot be read. Whatever memory holds, the walk asks no more than its cap allows. -/
theorem decode_stringArray (memory : t.ByteAddressed cell)
    (types : ∀ name type, CType.builtin? name = some type → t.typeNamed name = .ok type)
    (process : ProcessView) (config : Config) {call : Invocation} {s : Signature}
    (known : Signature.find? call.number = some s) {i : Nat} {arg : Argument}
    (declared : s.arguments[i]? = some arg) (role : arg.role = .stringArray) {value : UInt64}
    (held : call.register i = .ok value) (nonnull : value ≠ 0)
    (readable : ∀ k < maxStrings, t.NonNull (.user call.root) value k →
      Target.Resident cell (.user call.root) (slotAt value k) 8) :
    (∃ pointers entries,
      t.ArrayAt (.user call.root) value maxStrings pointers ∧
      Lists t (.user call.root) arg.displayName config.stringLimit 0 pointers entries ∧
      (stringArray (.user call.root) arg.displayName config.stringLimit value).on ⟨t, process⟩ =
        .ok (arrayText pointers entries) ∧
      (decode t process config call).Tells i ⟨arg.displayName, arg.pointerType ++ ": " ++
        hexMarked value.toNat ++ " ->\n" ++ pointerShown (pointers.headD 0) ++
        (arrayText pointers entries).value, 1⟩) ∧
    ∀ w : World,
      ((stringArray (.user call.root) arg.displayName config.stringLimit value).asked w).length ≤
        1 + maxStrings * (1 + config.stringLimit) := by
  obtain ⟨pointers, array⟩ := exists_arrayAt memory readable
  obtain ⟨entries, lists, read, line⟩ := @tells_of_arrayAt _ _ process _ _ config _ _ _ memory
    types known declared role held nonnull _ array
  exact ⟨⟨pointers, entries, array, lists, read, line⟩,
    fun w => Overlay.length_asked_stringArray w _ _ _ _⟩

/-- A target that holds a string, and at the end of a page an array of one pointer to it, a null and
the pointer once more. The page behind it is missing. -/
def arrays : Target :=
  Cells.target
    (fun _ a =>
      match [((0x4000 : UInt64), (0x6c : UInt8)), (0x4001, 0x73), (0x4002, 0), (0x6fe9, 0x40),
          (0x6ff9, 0x40)].lookup a with
      | some byte => .ok byte
      | none =>
        if 0x6fe8 ≤ a ∧ a < 0x7000 then .ok 0 else .fail (.unreadable a "page not present"))
    catalogueTypes fun name => .fail (.unknownSymbol name)

theorem byteAddressed_arrays : ∃ cell, arrays.ByteAddressed cell := by
  refine ⟨_, Cells.byteAddressed_target _ _ fun space address a => ?_⟩
  split
  · exact nofun
  · split <;> exact nofun

theorem typeNamed_arrays (name : String) (type : CType) (h : CType.builtin? name = some type) :
    arrays.typeNamed name = .ok type :=
  Cells.typeNamed_catalogueTypes _ _ h

/-- `execve(0, argv, 0)`. -/
def execveCall (argv : String) : Invocation :=
  ⟨59, .ofList [some "0", some argv, some "0"], 0x1000⟩

/-- The arguments of a program to execute. -/
def argvArgument : Argument :=
  ⟨1, "argv", "char __user *", true, .read, .stringArray⟩

theorem find?_execve :
    ∃ s, Signature.find? 59 = some s ∧ s.arguments[1]? = some argvArgument := by
  have argument : (Signature.find? 59).bind (·.arguments[1]?) = some argvArgument := by
    decide +kernel
  exact Option.bind_eq_some_iff.1 argument

theorem length_lines_execve (argv : String) (h : argv = "0x6fe8" ∨ argv = "0x6ff8") :
    (decode arrays .absent { memoryMap := false } (execveCall argv)).lines.length = 3 := by
  rcases h with rfl | rfl <;> decide +kernel

/-- Two slots of the array can be read, and the second is null. -/
theorem stringArray_execve :
    (∃ entries,
      arrays.ArrayAt (.user 0x1000) 0x6fe8 maxStrings [0x4000] ∧
      Lists arrays (.user 0x1000) "argv" 256 0 [0x4000] entries ∧
      (arrayText [0x4000] entries).value = "\nargv[0] @ 0x4000 -> \"ls\"") ∧
    (decode arrays .absent { memoryMap := false } (execveCall "0x6fe8")).lines[1]? =
      some ⟨"argv", "char __user * __user *: 0x6fe8 ->\n0x4000\nargv[0] @ 0x4000 -> \"ls\"", 1⟩ := by
  obtain ⟨cell, memory⟩ := byteAddressed_arrays
  obtain ⟨s, known, argument⟩ := find?_execve
  have held : (execveCall "0x6fe8").register 1 = .ok 0x6fe8 := rfl
  have null : arrays.HoldsPointer (.user 0x1000) (slotAt 0x6fe8 1) 0 := ⟨_, rfl, rfl⟩
  have only : arrays.ArrayAt (.user 0x1000) 0x6fe8 maxStrings [0x4000] := by
    exact Target.arrayAt_cons.2 ⟨by decide, ⟨_, rfl, rfl⟩, Nat.zero_le _,
      Target.holdsPointers_nil, fun _ => ⟨_, rfl, rfl⟩⟩
  have readable : ∀ k < maxStrings, arrays.NonNull (.user 0x1000) 0x6fe8 k →
      Target.Resident cell (.user 0x1000) (slotAt 0x6fe8 k) 8 := by
    intro k _ before
    match k with
    | 0 => exact memory.resident_iff.2 ⟨_, rfl⟩
    | 1 => exact memory.resident_iff.2 ⟨_, rfl⟩
    | k + 2 =>
      -- the array ends before the third slot
      obtain ⟨p, nonnull, second⟩ := before 1 (by omega)
      exact absurd (second.unique null) nonnull
  obtain ⟨⟨pointers, entries, array, lists, -, told⟩, -⟩ := decode_stringArray memory
    typeNamed_arrays .absent { memoryMap := false } known argument rfl held (by decide) readable
  cases array.unique only
  have line : (decode arrays .absent { memoryMap := false } (execveCall "0x6fe8")).lines[1]? =
      some ⟨"argv", "char __user * __user *: 0x6fe8 ->\n0x4000\nargv[0] @ 0x4000 -> \"ls\"", 1⟩ := by
    decide +kernel
  refine ⟨⟨entries, array, lists, ?_⟩, line⟩
  have shown := told.resolve_right fun aborted => by
    have short := aborted.1
    rw [length_lines_execve _ (.inl rfl)] at short
    omega
  have front : argvArgument.pointerType ++ ": " ++ hexMarked (0x6fe8 : UInt64).toNat ++ " ->\n" ++
      pointerShown ([0x4000].headD 0) = "char __user * __user *: 0x6fe8 ->\n0x4000" := by decide
  rw [line, front] at shown
  have whole := congrArg Line.text (Option.some.inj shown)
  exact (String.append_right_inj _).1 whole.symm

/-- Where memory is made of single bytes, a slot behind the first that cannot be read takes all
entries with it: the line has the first pointer and the failure only, also where every string before
that slot could be shown. If the slot is null instead, all of them are shown. -/
theorem decode_lostSlot (memory : t.ByteAddressed cell)
    (types : ∀ name type, CType.builtin? name = some type → t.typeNamed name = .ok type)
    (process : ProcessView) (config : Config) {call : Invocation} {s : Signature}
    (known : Signature.find? call.number = some s) {i : Nat} {arg : Argument}
    (declared : s.arguments[i]? = some arg) (role : arg.role = .stringArray) {value : UInt64}
    (held : call.register i = .ok value) (nonnull : value ≠ 0) {first : UInt64}
    {rest : List UInt64} (before : t.HoldsPointers (.user call.root) value (first :: rest))
    (short : (first :: rest).length < maxStrings) :
    (¬ Target.Resident cell (.user call.root) (slotAt value (first :: rest).length) 8 →
      ∃ f, t.read (.user call.root) (slotAt value (first :: rest).length) 8 =
          .error (.failure f) ∧
        (decode t process config call).Tells i ⟨arg.displayName, arg.pointerType ++ ": " ++
          hexMarked value.toNat ++ " ->\n" ++ hexMarked first.toNat ++ "\nexception: " ++
          f.message, 1⟩) ∧
    (t.HoldsPointer (.user call.root) (slotAt value (first :: rest).length) 0 →
      ∃ entries,
        Lists t (.user call.root) arg.displayName config.stringLimit 0 (first :: rest) entries ∧
        (decode t process config call).Tells i ⟨arg.displayName, arg.pointerType ++ ": " ++
          hexMarked value.toNat ++ " ->\n" ++ hexMarked first.toNat ++
          String.join (entries.map Noted.value), 1⟩) := by
  obtain ⟨firstNonnull, slot, -⟩ := Target.holdsPointers_cons.1 before
  have shown : pointerShown first = hexMarked first.toNat := if_neg firstNonnull
  constructor
  · intro missing
    rcases lost : t.read (.user call.root) (slotAt value (first :: rest).length) 8 with
      (f | a) | bytes
    · have array : t.ArrayLost (.user call.root) value maxStrings (first :: rest) (.failure f) :=
        ⟨short, before, lost⟩
      have failing : (Overlay.ofRole (.user call.root) config call arg value).on ⟨t, process⟩ =
          .error (.failure f) := by
        rw [Overlay.ofRole_stringArray role]
        exact @Overlay.on_stringArray_lost ⟨t, process⟩ _ _ memory.calm
          (types _ _ builtin?_stringPointer) arg.displayName config.stringLimit _ _ array
      refine ⟨f, rfl, ?_⟩
      have overlaid := @on_overlayText_failure ⟨config, call⟩ _ _ _ _ failing
      have line := tells_of_first types known declared role held nonnull slot overlaid
      rw [shown, ← String.append_assoc] at line
      exact line
    · exact absurd lost (memory.calm _ _ _ _)
    · exact absurd (memory.resident_iff.2 ⟨bytes, lost⟩) missing
  · intro null
    have array : t.ArrayAt (.user call.root) value maxStrings (first :: rest) :=
      ⟨Nat.le_of_lt short, before, fun _ => null⟩
    obtain ⟨entries, lists, -, line⟩ := @tells_of_arrayAt _ _ process _ _ config _ _ _ memory
      types known declared role held nonnull _ array
    refine ⟨entries, lists, ?_⟩
    have open' : Overlay.closing maxStrings (first :: rest) = [] := if_neg (Nat.ne_of_lt short)
    have text : (arrayText (first :: rest) entries).value = String.join (entries.map Noted.value) := by
      unfold arrayText
      rw [open', List.append_nil]
      rfl
    rw [text, List.headD_cons, shown] at line
    exact line

theorem holdsPointers_arrays : arrays.HoldsPointers (.user 0x1000) 0x6ff8 [0x4000] :=
  Target.holdsPointers_cons.2 ⟨by decide, ⟨_, rfl, rfl⟩, Target.holdsPointers_nil⟩

/-- The last pointer of the page is an array of its own, of which the second slot is missing. -/
theorem lostSlot_execve :
    ∃ f, arrays.read (.user 0x1000) (slotAt 0x6ff8 1) 8 = .error (.failure f) ∧
      (decode arrays .absent { memoryMap := false } (execveCall "0x6ff8")).lines[1]? =
        some ⟨"argv", "char __user * __user *: " ++ hexMarked 0x6ff8 ++ " ->\n" ++
          hexMarked 0x4000 ++ "\nexception: " ++ f.message, 1⟩ := by
  obtain ⟨cell, memory⟩ := byteAddressed_arrays
  obtain ⟨s, known, argument⟩ := find?_execve
  have held : (execveCall "0x6ff8").register 1 = .ok 0x6ff8 := rfl
  have lost : arrays.read (.user 0x1000) (slotAt 0x6ff8 1) 8 =
      .error (.failure (.unreadable 0x7000 "page not present")) := rfl
  obtain ⟨f, read, told⟩ := (decode_lostSlot memory typeNamed_arrays .absent
    { memoryMap := false } known argument rfl held (by decide) holdsPointers_arrays
    (by decide)).1 fun resident => by
      obtain ⟨bytes, read⟩ := memory.resident_iff.1 resident
      cases lost.symm.trans read
  have head : argvArgument.pointerType ++ ": " = "char __user * __user *: " := by decide
  rw [head] at told
  refine ⟨f, read, told.resolve_right fun aborted => ?_⟩
  have short := aborted.1
  rw [length_lines_execve _ (.inr rfl)] at short
  omega

/-- The string behind that pointer could be shown, but its entry is not in the line. -/
theorem dropped_execve :
    (∃ cell, arrays.ByteAddressed cell ∧
      ¬ Target.Resident cell (.user 0x1000) (slotAt 0x6ff8 1) 8) ∧
    (∀ name type, CType.builtin? name = some type → arrays.typeNamed name = .ok type) ∧
    (∃ s, Signature.find? (execveCall "0x6ff8").number = some s ∧
      s.arguments[1]? = some argvArgument) ∧
    (execveCall "0x6ff8").register 1 = .ok 0x6ff8 ∧
    arrays.HoldsPointers (.user 0x1000) 0x6ff8 [0x4000] ∧
    arrays.readString (.user 0x1000) 0x4000 256 = .ok [0x6c, 0x73] ∧
    ∃ line,
      (decode arrays .absent { memoryMap := false } (execveCall "0x6ff8")).lines[1]? = some line ∧
      line.text = "char __user * __user *: 0x6ff8 ->\n0x4000\nexception: " ++
        "cannot read 0x7000: page not present" ∧
      ¬ (Overlay.entryText "argv" 0 0x4000 "\"ls\"").toList <:+: line.text.toList := by
  obtain ⟨cell, memory⟩ := byteAddressed_arrays
  refine ⟨⟨cell, memory, fun resident => ?_⟩, typeNamed_arrays, find?_execve, rfl,
    holdsPointers_arrays, rfl, ?_⟩
  · obtain ⟨bytes, read⟩ := memory.resident_iff.1 resident
    cases read
  · exact ⟨⟨"argv", "char __user * __user *: 0x6ff8 ->\n0x4000\nexception: " ++
      "cannot read 0x7000: page not present", 1⟩, by decide +kernel, rfl, by decide +kernel⟩

end Decode

end SyscallDecode
