/-
The cap of an array of strings. A word on the cap stands behind the entries as soon as all of them are
shown that may be, also where a null ends the array right there. No other line of the text can be
taken for it.
-/
import SyscallDecode.Proofs.Decode.StringArray
import SyscallDecode.Proofs.Report.FailureWords
import SyscallDecode.Proofs.Target.Bytewise
import SyscallDecode.Proofs.Text.Lines

namespace SyscallDecode

/-! ## Beginnings of lines -/

namespace Text

variable {a b : String}

/-- No line of the text but the first begins with a dot. -/
def Undotted (text : String) : Prop :=
  text.toList.IsChain fun c d => c = '\n' → d ≠ '.'

theorem undotted_of_single (h : '\n' ∉ a.toList) : Undotted a := by
  refine (List.pairwise_of_forall_mem_list fun c hc d _ feed => ?_).isChain
  exact absurd (feed ▸ hc) h

theorem undotted_append (first : Undotted a) (second : Undotted b)
    (begins : b.toList.head? ≠ some '.') : Undotted (a ++ b) := by
  unfold Undotted
  rw [String.toList_append]
  refine List.isChain_append.2 ⟨first, second, fun c _ d hd _ dot => begins ?_⟩
  rw [← dot]
  exact hd

end Text

/-! ## Arrays behind the cap -/

/-- The first slots of an array are an array. -/
theorem Target.ArrayAt.take {t : Target} {space : AddressSpace} {address : UInt64}
    {limit less : Nat} {pointers : List UInt64} (array : t.ArrayAt space address limit pointers)
    (short : less ≤ limit) : t.ArrayAt space address less (pointers.take less) := by
  refine ⟨?_, fun i p hp => array.held i p ?_, fun inside => ?_⟩
  · rw [List.length_take]
    exact Nat.min_le_left _ _
  · rw [List.getElem?_take] at hp
    exact (Option.ite_none_right_eq_some.1 hp).2
  · rw [List.length_take] at inside
    have whole : pointers.length ≤ less := by omega
    rw [List.take_of_length_le whole]
    exact array.ended (by omega)

namespace Overlay

open Text

variable {t : Target} {space : AddressSpace} {name : String} {limit index : Nat}
  {pointers : List UInt64} {entries : List (Noted String)}

/-- The word on the cap. -/
def capNotice : String :=
  "\n... stopped after " ++ toString maxStrings ++ " entries"

/-- It begins a line with a dot. -/
theorem capNotice_infix {text : String} (h : capNotice.toList <:+: text.toList) :
    ¬ Undotted text := by
  intro undotted
  have dotted : capNotice.toList = '\n' :: '.' :: ".. stopped after 1024 entries".toList := by
    decide
  have within := List.IsChain.infix undotted h
  rw [dotted] at within
  exact (List.isChain_cons_cons.1 within).1 rfl rfl

/-- Behind the entries of as many slots as are shown stands the word on the cap, if all of them hold
pointers. -/
theorem value_arrayText_take (pointers : List UInt64) (entries : List (Noted String)) :
    (arrayText (pointers.take maxStrings) entries).value =
      String.join (entries.map Noted.value) ++
        if maxStrings ≤ pointers.length then capNotice else "" := by
  have full : (pointers.take maxStrings).length = maxStrings ↔ maxStrings ≤ pointers.length := by
    rw [List.length_take]
    omega
  unfold arrayText closing Noted.all Noted.map
  by_cases h : maxStrings ≤ pointers.length
  · rw [if_pos h, if_pos (full.2 h), List.map_append, String.join_append]
    show _ ++ ("" ++ capNotice) = _
    rw [String.empty_append]
  · rw [if_neg h, if_neg (mt full.1 h), List.append_nil, String.append_empty]

/-- What is told of a string stands in one line, if the failures of memory do. -/
theorem newline_notMem_of_tells {pointer : UInt64} {told : Noted String}
    (single : ∀ address f, t.read space address 1 = .error (.failure f) →
      '\n' ∉ f.message.toList)
    (h : t.TellsString space limit pointer told) : '\n' ∉ told.value.toList := by
  cases h with
  | shown bytes _ => exact newline_notMem_quote _
  | lost before f lost =>
    have head : '\n' ∉ "cannot dereference: ".toList := by decide
    rw [String.toList_append, List.mem_append, not_or]
    exact ⟨head, single _ f lost.lost⟩

/-- An entry is a new line that begins with a name. -/
theorem undotted_entryText {told : String} (named : name = "argv" ∨ name = "envp") (index : Nat)
    (pointer : UInt64) (single : '\n' ∉ told.toList) :
    Undotted (entryText name index pointer told) ∧
      (entryText name index pointer told).toList.head? = some '\n' := by
  have line : entryText name index pointer told = "\n" ++ (name ++ ("[" ++ (toString index ++
      ("] @ " ++ (hexMarked pointer.toNat ++ (" -> " ++ told)))))) := by
    unfold entryText
    simp only [String.append_assoc]
  have letters : '\n' ∉ name.toList ∧ name.toList.head? ≠ some '.' ∧ name.toList ≠ [] := by
    rcases named with rfl | rfl <;> decide
  rw [line]
  refine ⟨undotted_append (.singleton _) (undotted_of_single ?_) ?_, ?_⟩
  · simp only [String.toList_append, List.mem_append, not_or]
    exact ⟨letters.1, by decide, notMem_toString (by decide) _, by decide, notMem_hexMarked (by decide) _,
      by decide, single⟩
  · rw [String.toList_append, List.head?_append_of_ne_nil _ letters.2.2]
    exact letters.2.1
  · rw [String.toList_append, List.head?_append]
    rfl

theorem undotted_join {lines : List String}
    (h : ∀ line ∈ lines, Undotted line ∧ line.toList.head? = some '\n') :
    Undotted (String.join lines) ∧ (String.join lines).toList.head? ≠ some '.' := by
  induction lines with
  | nil => exact ⟨.nil, nofun⟩
  | cons line rest ih =>
    obtain ⟨⟨first, begins⟩, later⟩ := List.forall_mem_cons.1 h
    obtain ⟨undotted, next⟩ := ih later
    rw [String.join_cons]
    refine ⟨undotted_append first undotted next, ?_⟩
    rw [String.toList_append, List.head?_append, begins, Option.some_or]
    decide

theorem undotted_entries (named : name = "argv" ∨ name = "envp")
    (single : ∀ address f, t.read space address 1 = .error (.failure f) →
      '\n' ∉ f.message.toList)
    (lists : Lists t space name limit index pointers entries) :
    Undotted (String.join (entries.map Noted.value)) ∧
      (String.join (entries.map Noted.value)).toList.head? ≠ some '.' := by
  refine undotted_join fun line member => ?_
  obtain ⟨entry, listed, rfl⟩ := List.mem_map.1 member
  obtain ⟨k, inside, rfl⟩ := List.mem_iff_getElem.1 listed
  obtain ⟨told, tells, found⟩ := lists.entry k _
    (List.getElem?_eq_getElem (lists.length_eq ▸ inside))
  rw [List.getElem?_eq_getElem inside, Option.some.injEq] at found
  rw [found]
  exact undotted_entryText named _ _ (newline_notMem_of_tells single tells)

end Overlay

/-! ## The line of an array -/

namespace Decode

open Text Overlay
open Socket (pointerShown)

variable {t : Target} {cell : AddressSpace → UInt64 → Option UInt8} {arg : Argument}
  {config : Config} {call : Invocation} {s : Signature} {i : Nat} {value : UInt64}

theorem newline_notMem_pointerType (h : '\n' ∉ arg.type.toList) :
    '\n' ∉ arg.pointerType.toList := by
  have annotated : ∀ direction : Direction, '\n' ∉ direction.annotation.toList := by
    rintro (_ | _ | _) <;> decide
  unfold Argument.pointerType
  split <;> simp only [String.toList_append, List.mem_append, not_or]
  · exact ⟨h, by decide⟩
  · exact ⟨⟨⟨h, by decide⟩, annotated _⟩, by decide⟩

theorem pointerShown_begins (pointer : UInt64) :
    '\n' ∉ (pointerShown pointer).toList ∧ (pointerShown pointer).toList.head? ≠ some '.' := by
  unfold pointerShown
  split
  · exact ⟨by decide, by decide⟩
  · refine ⟨notMem_hexMarked (by decide) _, ?_⟩
    have mark : "0x".toList.head? = some '0' := rfl
    rw [hexMarked, String.toList_append, List.head?_append, mark, Option.some_or]
    decide

/-- The line of an array up to its entries. -/
def arrayHead (arg : Argument) (value first : UInt64) : String :=
  arg.pointerType ++ ": " ++ hexMarked value.toNat ++ " ->\n" ++ pointerShown first

theorem undotted_arrayHead (h : '\n' ∉ arg.type.toList) (value first : UInt64) :
    Undotted (arrayHead arg value first) := by
  have arrow : Undotted " ->\n" := by
    unfold Undotted
    decide
  have typed : '\n' ∉ (arg.pointerType ++ ": " ++ hexMarked value.toNat).toList := by
    simp only [String.toList_append, List.mem_append, not_or]
    exact ⟨⟨newline_notMem_pointerType h, by decide⟩, notMem_hexMarked (by decide) _⟩
  obtain ⟨single, begins⟩ := pointerShown_begins first
  exact undotted_append (undotted_append (undotted_of_single typed) arrow (by decide))
    (undotted_of_single single) begins

/-- Where memory is made of single bytes, an array of strings of which every slot up to the first null
can be read, or one more than may be shown, has an entry for each of its first pointers. The word on
the cap stands behind them, and nowhere else, if and only if there are as many pointers as may be shown
or more: also an array of which none is left out has it. -/
theorem decode_arrayCap (memory : t.ByteAddressed cell)
    (types : ∀ name type, CType.builtin? name = some type → t.typeNamed name = .ok type)
    (process : ProcessView) (config : Config) (known : Signature.find? call.number = some s)
    (declared : s.arguments[i]? = some arg) (role : arg.role = .stringArray)
    (held : call.register i = .ok value) (nonnull : value ≠ 0)
    (readable : ∀ k ≤ maxStrings, t.NonNull (.user call.root) value k →
      Target.Resident cell (.user call.root) (slotAt value k) 8) :
    ∃ pointers entries text,
      t.ArrayAt (.user call.root) value (maxStrings + 1) pointers ∧
      Lists t (.user call.root) arg.displayName config.stringLimit 0 (pointers.take maxStrings)
        entries ∧
      (decode t process config call).Tells i ⟨arg.displayName, text, 1⟩ ∧
      text = arrayHead arg value (pointers.headD 0) ++ (String.join (entries.map Noted.value) ++
        if maxStrings ≤ pointers.length then capNotice else "") ∧
      ((∀ address f, t.read (.user call.root) address 1 = .error (.failure f) →
          '\n' ∉ f.message.toList) →
        (capNotice.toList <:+: text.toList ↔ maxStrings ≤ pointers.length)) := by
  obtain ⟨pointers, array⟩ := exists_arrayAt memory fun k inside =>
    readable k (Nat.le_of_lt_succ inside)
  obtain ⟨entries, lists, -, told⟩ := @tells_of_arrayAt _ _ process _ _ config _ _ _ memory
    types known declared role held nonnull _ (array.take (Nat.le_succ maxStrings))
  have first : (pointers.take maxStrings).headD 0 = pointers.headD 0 := by
    cases pointers <;> rfl
  rw [value_arrayText_take, first] at told
  refine ⟨pointers, entries, _, array, lists, told, rfl, fun single => ?_⟩
  have member := List.mem_of_getElem? declared
  have type : '\n' ∉ arg.type.toList := by
    rw [(Signature.pointer_of_stringArray known member role).2]
    decide
  have named : arg.displayName = "argv" ∨ arg.displayName = "envp" := by
    unfold Argument.displayName
    rcases Signature.name_of_stringArray known member role with name | name <;> rw [name] <;> decide
  obtain ⟨undotted, begins⟩ := undotted_entries named single lists
  by_cases full : maxStrings ≤ pointers.length
  · refine iff_of_true ?_ full
    rw [if_pos full, ← String.append_assoc, String.toList_append]
    exact (List.suffix_append _ _).isInfix
  · refine iff_of_false (fun within => capNotice_infix within ?_) full
    rw [if_neg full, String.append_empty]
    exact undotted_append (undotted_arrayHead type _ _) undotted begins

theorem newline_notMem_message {reason : String} (single : '\n' ∉ reason.toList)
    (address : UInt64) : '\n' ∉ (Failure.unreadable address reason).message.toList := by
  have words : (Failure.unreadable address reason).message =
      "cannot read " ++ hexMarked address.toNat ++ ": " ++ reason := rfl
  rw [words]
  simp only [String.toList_append, List.mem_append, not_or]
  exact ⟨⟨⟨by decide, notMem_hexMarked (by decide) _⟩, by decide⟩, single⟩

/-- A target that holds as many pointers to the empty string as may be shown, and a null behind
them. -/
def fullArray : Target :=
  Cells.target
    (fun _ a =>
      if 0x10000 ≤ a ∧ a < 0x12000 then .ok 1
      else if (0x12000 ≤ a ∧ a < 0x12008) ∨ a = 0x101010101010101 then .ok 0
      else .fail (.unreadable a "page not present"))
    catalogueTypes fun name => .fail (.unknownSymbol name)

theorem bytewise_fullArray : fullArray.Bytewise fun _ a =>
    if 0x10000 ≤ a ∧ a < 0x12000 then .ok 1
    else if (0x12000 ≤ a ∧ a < 0x12008) ∨ a = 0x101010101010101 then .ok 0
    else .fail (.unreadable a "page not present") := by
  refine Cells.bytewise_target _ _ fun space address stop missing => ?_
  split at missing
  · cases missing
  · split at missing <;> cases missing
    exact ⟨_, rfl⟩

theorem typeNamed_fullArray (name : String) (type : CType)
    (h : CType.builtin? name = some type) : fullArray.typeNamed name = .ok type :=
  Cells.typeNamed_catalogueTypes _ _ h

theorem diagnostics_fullArray {config : Config} {call : Invocation} :
    (decode fullArray .absent config call).diagnostics = [] := by
  have quiet : World.Quiet ⟨fullArray, .absent⟩ :=
    Cells.quiet_target bytewise_fullArray.calm nofun
  exact (diagnostics_decode _ _ _ _).2 fun q _ => quiet q

/-- Its failures stand in one line. -/
theorem silent_fullArray (address : UInt64) (f : Failure)
    (failed : fullArray.read (.user 0x1000) address 1 = .error (.failure f)) :
    '\n' ∉ f.message.toList := by
  have missing := bytewise_fullArray.read_one_lost.1 failed
  split at missing
  · cases missing
  · split at missing <;> cases missing
    exact newline_notMem_message (by decide) _

/-- Its last pointer is an array of its own, which says nothing of the cap. -/
theorem unnoticed_execve :
    ∃ line, (decode fullArray .absent { memoryMap := false } (execveCall "0x11ff8")).lines[1]? =
        some line ∧ ¬ capNotice.toList <:+: line.text.toList := by
  obtain ⟨cell, memory⟩ : ∃ cell, fullArray.ByteAddressed cell :=
    ⟨_, bytewise_fullArray.byteAddressed⟩
  obtain ⟨s, known, argument⟩ := find?_execve
  have held : (execveCall "0x11ff8").register 1 = .ok 0x11ff8 := rfl
  have null : fullArray.HoldsPointer (.user 0x1000) (slotAt 0x11ff8 1) 0 := ⟨_, rfl, rfl⟩
  have short {k : Nat} (before : fullArray.NonNull (.user 0x1000) 0x11ff8 k) : k ≤ 1 := by
    refine Nat.le_of_not_lt fun second => ?_
    obtain ⟨p, nonnull, slot⟩ := before 1 second
    exact nonnull (slot.unique null)
  have readable : ∀ k ≤ maxStrings, fullArray.NonNull (.user 0x1000) 0x11ff8 k →
      Target.Resident cell (.user 0x1000) (slotAt 0x11ff8 k) 8 := by
    intro k _ before
    match k, short before with
    | 0, _ => exact memory.resident_iff.2 ⟨_, rfl⟩
    | 1, _ => exact memory.resident_iff.2 ⟨_, rfl⟩
  obtain ⟨pointers, entries, text, array, -, told, -, noticed⟩ := decode_arrayCap memory
    typeNamed_fullArray .absent { memoryMap := false } known argument rfl held (by decide) readable
  have few : ¬ maxStrings ≤ pointers.length := fun many =>
    absurd (Nat.le_trans many (short array.held.nonNull)) (by decide)
  refine ⟨_, told.resolve_right fun aborted => aborted.2 diagnostics_fullArray, ?_⟩
  exact mt (noticed silent_fullArray).1 few

theorem arrayAt_fullArray : fullArray.ArrayAt (.user 0x1000) 0x10000 (maxStrings + 1)
    (List.replicate maxStrings 0x101010101010101) := by
  refine ⟨?_, fun k p hp => ?_, fun _ => ?_⟩
  · rw [List.length_replicate]
    exact Nat.le_succ _
  · obtain ⟨inside, rfl⟩ : k < maxStrings ∧ 0x101010101010101 = p := by
      rw [List.getElem?_replicate] at hp
      exact (Option.ite_none_right_eq_some.1 hp).imp_right Option.some.inj
    refine ⟨by decide, List.replicate 8 1, bytewise_fullArray.read_eq_ok_iff.2 ⟨rfl, ?_⟩, rfl⟩
    intro j b hb
    rw [List.getElem?_replicate] at hb
    obtain ⟨small, one⟩ := Option.ite_none_right_eq_some.1 hb
    cases one
    refine if_pos ?_
    unfold maxStrings at inside
    have offset : (slotAt 0x10000 k + UInt64.ofNat j).toNat = 0x10000 + (8 * k + j) := by
      unfold slotAt
      rw [UInt64.add_assoc, ← UInt64.ofNat_add]
      refine Cells.toNat_offset (Nat.lt_trans (m := 0x12000) ?_ (by decide))
      simp only [UInt64.reduceToNat]
      omega
    simp only [UInt64.le_iff_toNat_le, UInt64.lt_iff_toNat_lt, offset, UInt64.reduceToNat]
    omega
  · rw [List.length_replicate]
    exact ⟨_, rfl, rfl⟩

/-- All pointers of that array are shown, and yet it has the word on the cap. -/
theorem noticed_execve :
    (∃ cell, fullArray.ByteAddressed cell ∧ ∀ k ≤ maxStrings,
      Target.Resident cell (.user 0x1000) (slotAt 0x10000 k) 8) ∧
    (∀ name type, CType.builtin? name = some type → fullArray.typeNamed name = .ok type) ∧
    (∃ s, Signature.find? (execveCall "0x10000").number = some s ∧
      s.arguments[1]? = some argvArgument) ∧
    (execveCall "0x10000").register 1 = .ok 0x10000 ∧
    fullArray.ArrayAt (.user 0x1000) 0x10000 (maxStrings + 1)
      (List.replicate maxStrings 0x101010101010101) ∧
    ∃ line, (decode fullArray .absent { memoryMap := false } (execveCall "0x10000")).lines[1]? =
        some line ∧ capNotice.toList <:+: line.text.toList := by
  obtain ⟨cell, memory⟩ : ∃ cell, fullArray.ByteAddressed cell :=
    ⟨_, bytewise_fullArray.byteAddressed⟩
  obtain ⟨s, known, argument⟩ := find?_execve
  have held : (execveCall "0x10000").register 1 = .ok 0x10000 := rfl
  refine ⟨⟨cell, memory, fun k inside => ?_⟩, typeNamed_fullArray, ⟨s, known, argument⟩, held,
    arrayAt_fullArray, ?_⟩
  · rcases Nat.lt_or_eq_of_le inside with inside | rfl
    · have slot := arrayAt_fullArray.held k _ (List.getElem?_replicate_of_lt inside)
      obtain ⟨bytes, read, -⟩ := slot.2
      exact memory.resident_iff.2 ⟨bytes, read⟩
    · exact memory.resident_iff.2 ⟨_, rfl⟩
  · obtain ⟨entries, -, -, told⟩ := @tells_of_arrayAt _ _ .absent _ _ { memoryMap := false } _ _ _
      memory typeNamed_fullArray known argument rfl held (by decide) _
      (arrayAt_fullArray.take (Nat.le_succ maxStrings))
    have full : maxStrings ≤ (List.replicate maxStrings (0x101010101010101 : UInt64)).length :=
      Nat.le_of_eq List.length_replicate.symm
    rw [value_arrayText_take, if_pos full] at told
    refine ⟨_, told.resolve_right fun aborted => aborted.2 diagnostics_fullArray, ?_⟩
    rw [← String.append_assoc, String.toList_append]
    exact (List.suffix_append _ _).isInfix

end Decode

end SyscallDecode
