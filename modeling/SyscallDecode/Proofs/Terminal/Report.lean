/-
No report on a safe target can steer a terminal. Every text of a report is put together from safe
words, from what is read of memory, which comes in as numbers, dumps and quotes, and from reasons
that are safe; so whatever memory, registers and kernel records hold, no control character comes
through but the ends of lines and the tabulator.
-/
import SyscallDecode.Proofs.Decode.Report
import SyscallDecode.Proofs.Terminal.Catalogue
import SyscallDecode.Proofs.Terminal.Kernel
import SyscallDecode.Proofs.Terminal.Readings

namespace SyscallDecode

open SyscallDecode.Text

/-- A report of which every text is safe. -/
structure Report.Safe (r : Report) : Prop where
  header : Text.Safe r.header
  notices : ∀ notice ∈ r.notices, Text.Safe notice
  names : ∀ line ∈ r.lines, Text.Safe line.name
  texts : ∀ line ∈ r.lines, Text.Safe line.text
  memoryMap : ∀ map, r.memoryMap = some map → Text.Safe map
  diagnostics : ∀ diagnostic ∈ r.diagnostics, Text.Safe diagnostic

namespace Decode

variable {w : World} {call : Invocation} {arg : Argument}

/-! ## Values -/

theorem safe_fileText (h : w.Safe) (value : UInt64) : (fileText value).Yields w Text.Safe := by
  refine .bind (h.files _).settle fun ending safe => ?_
  cases ending with
  | ok view => exact .pure safe
  | error f => exact .pure (safe_behind rfl safe)

theorem safe_fileNote (h : w.Safe) (value : UInt64) : (fileNote value).Yields w Text.Safe :=
  .bind (safe_fileText h value) fun _ safe => .pure (safe_behind rfl safe)

theorem safe_choiceText (choice : SocketChoice) (value : UInt64) :
    Text.Safe (choiceText choice value) := by
  unfold choiceText
  cases choice <;> simp

theorem safe_valueNote (h : w.Safe) (anonymous : Bool) (arg : Argument) (value : UInt64) :
    (valueNote anonymous arg value).Yields w Text.Safe := by
  have inBrackets : ∀ {text : String}, Text.Safe text → Text.Safe (" (" ++ text ++ ")") :=
    fun safe => by simp (disch := decide) [safe_of_bytes, safe]
  unfold valueNote
  split
  · exact .pure (inBrackets (Flags.safe_mapFlags value))
  · exact .pure (inBrackets (Flags.safe_protection value))
  · exact .pure (inBrackets (Flags.safe_messageFlags value))
  · exact .pure (inBrackets (safe_choiceText _ value))
  · split
    · exact .pure (safe_of_bytes rfl)
    split
    · exact safe_fileNote h value
    · exact .pure (safe_of_bytes rfl)
  · exact safe_fileNote h value
  · exact .pure (safe_of_bytes rfl)

theorem safe_valueText (h : w.Safe) (s : State) (named : arg.Safe) (value : UInt64) :
    (valueText s arg value).Yields w fun result => Text.Safe result.1 := by
  refine .bind (h.types _ named.type).settle fun ending safe => ?_
  cases ending with
  | ok type =>
    refine .bind (safe_valueNote h _ _ _) fun note hn => .pure ?_
    simp (disch := decide) [safe_of_bytes, named.type, hn]
  | error f =>
    exact .pure (by
      simp (disch := decide) [safe_of_bytes, show Text.Safe f.message from safe])

/-! ## Pointers -/

theorem safe_overlayText (h : w.Safe) (ctx : Context) (named : arg.Safe) (value : UInt64) :
    (overlayText ctx arg value).Yields w Noted.Safe := by
  refine .bind (Overlay.safe_ofRole h _ _ named value).settle fun ending safe => ?_
  cases ending with
  | ok overlay => exact .pure safe
  | error f => exact .pure (safe_behind rfl safe)

theorem safe_rendered (h : w.Safe) (space : AddressSpace) {type : CType}
    (types : ∀ n ∈ type.names, Text.Safe n) (address : UInt64) :
    (Reading.rendered space type address).Yields w Text.Safe :=
  .bind (h.reads _ _ _) fun bytes _ => .pure (CType.safe_renderValue type types bytes 0)

theorem safe_pointeeText (h : w.Safe) (ctx : Context) (named : arg.Safe) (value : UInt64) :
    (pointeeText ctx arg value).Yields w Noted.Safe := by
  have refused : ∀ {f : Failure}, Text.Safe f.message →
      Text.Safe (" cannot dereference: " ++ f.message) :=
    fun safe => safe_behind rfl safe
  refine .bind (h.types _ named.type).settle fun ending types => ?_
  cases ending with
  | error f => exact .pure (refused types)
  | ok type =>
    refine .bind (safe_rendered h ctx.space types value).settle fun ending safe => ?_
    cases ending with
    | error f => exact .pure (refused safe)
    | ok text =>
      refine .bind (safe_overlayText h ctx named value) fun overlay behind => .pure ?_
      exact behind.map fun _ ho => by
        simp (disch := decide) [safe_of_bytes, show Text.Safe text from safe, ho]

theorem safe_pointerText (h : w.Safe) (ctx : Context) (named : arg.Safe) (value : UInt64) :
    (pointerText ctx arg value).Yields w Noted.Safe := by
  have head : Text.Safe (arg.pointerType ++ ": " ++ hexMarked value.toNat) := by
    simp (disch := decide) [safe_of_bytes, named.pointerType]
  unfold pointerText
  dsimp only
  split
  · exact .pure (safe_append.2 ⟨head, safe_of_bytes rfl⟩)
  · exact .bind (safe_pointeeText h ctx named value) fun pointee behind =>
      .pure (behind.map fun text ht => safe_append.2 ⟨head, ht⟩)

/-! ## Arguments -/

/-- The text of an argument is safe, whatever its register says or fails to say. -/
theorem safe_argumentText (h : w.Safe) (ctx : Context) (s : State) (named : arg.Safe)
    (call : Invocation) (index : Nat) :
    (argumentText ctx s arg (call.register index)).Yields w fun result => Text.Safe result.1 := by
  cases register : call.register index with
  | error f => exact .pure (safe_behind rfl (Invocation.safe_register register))
  | ok value =>
    unfold argumentText
    dsimp only
    split
    · exact .bind (safe_pointerText h ctx named value) fun text safe => .pure safe
    · exact safe_valueText h s named value

/-- How far a decoding came, all of it safe. -/
structure Progress.Safe (p : Progress) : Prop where
  names : ∀ line ∈ p.lines, Text.Safe line.name
  texts : ∀ line ∈ p.lines, Text.Safe line.text
  abort : ∀ a, p.abort = some a → Text.Safe a.message

/-- Arguments with safe texts come to safe lines, one after the other, and to a safe reason if one
of them aborts. -/
theorem safe_arguments (h : w.Safe) (ctx : Context)
    {bound : List (Argument × Except Failure UInt64)}
    (named : ∀ pair ∈ bound, pair.1.Safe ∧ ∃ index, pair.2 = call.register index) (s : State) :
    ((arguments ctx s bound).run w).Safe := by
  -- on the arguments still to come; each leaves a state to the rest, of which nothing is asked
  induction bound generalizing s with
  | nil => exact ⟨by rintro _ ⟨⟩, by rintro _ ⟨⟩, by rintro _ ⟨⟩⟩
  | cons pair rest ih =>
    obtain ⟨⟨argNamed, index, register⟩, restNamed⟩ := List.forall_mem_cons.1 named
    obtain ⟨arg, _⟩ := pair
    subst register
    have first := safe_argumentText h ctx s argNamed call index
    cases ht : (argumentText ctx s arg (call.register index)).on w with
    | error a =>
      rw [run_arguments_cons_error ht]
      exact ⟨by rintro _ ⟨⟩, by rintro _ ⟨⟩, by rintro _ ⟨⟩; exact first.of_error ht⟩
    | ok result =>
      obtain ⟨text, s'⟩ := result
      rw [run_arguments_cons_ok ht]
      have later := ih restNamed s'
      exact ⟨List.forall_mem_cons.2 ⟨argNamed.displayName, later.names⟩,
        List.forall_mem_cons.2 ⟨first.of_ok ht, later.texts⟩, later.abort⟩

/-! ## Calls without a signature -/

theorem safe_registerLine (call : Invocation) (index : Nat) :
    Text.Safe (registerLine call index).name ∧ Text.Safe (registerLine call index).text := by
  refine ⟨safe_behind rfl (safe_repr index), ?_⟩
  unfold registerLine
  dsimp only
  cases register : call.register index with
  | ok value => exact safe_hexMarked _
  | error f => exact Invocation.safe_register register

theorem safe_bareReport (call : Invocation) : (bareReport call).Safe := by
  have lines : ∀ line ∈ (bareReport call).lines, Text.Safe line.name ∧ Text.Safe line.text := by
    intro line hl
    obtain ⟨index, -, rfl⟩ := List.mem_map.1 hl
    exact safe_registerLine call index
  refine ⟨?_, ?_, fun line hl => (lines line hl).1, fun line hl => (lines line hl).2,
    by rintro _ ⟨⟩, by rintro _ ⟨⟩⟩
  · unfold bareReport
    simp (disch := decide) [safe_of_bytes, safe_bareCallName]
  · exact List.forall_mem_singleton.2 (safe_of_bytes rfl)

/-! ## Calls with a signature -/

theorem safe_memoryMap (h : w.Safe) (config : Config) (due : Bool) :
    (memoryMap config due).Yields w fun map? => ∀ map, map? = some map → Text.Safe map := by
  unfold memoryMap
  split
  · refine .bind h.areas.settle fun ending safe => .pure ?_
    rintro _ ⟨⟩
    refine MemoryMap.safe_block ?_ ?_ _
    · rintro list rfl
      exact safe
    · rintro f rfl
      exact safe
  · exact .pure (by rintro _ ⟨⟩)

theorem safe_conclusion (h : w.Safe) (config : Config) (sig : Signature) {progress : Progress}
    (done : progress.Safe) :
    (conclusion config sig progress).Yields w fun map? =>
      ∀ map, map? = some map → Text.Safe map := by
  unfold conclusion
  cases aborted : progress.abort with
  | some a => exact done.abort a aborted
  | none => exact safe_memoryMap h config _

theorem safe_signedReport (h : w.Safe) (config : Config) (call : Invocation) {p : Prototype}
    (hp : p ∈ Prototype.all) : ((signedReport config call p.signature).run w).Safe := by
  have bound : ∀ pair ∈ call.bind p.signature,
      pair.1.Safe ∧ ∃ index, pair.2 = call.register index := by
    intro pair hpair
    obtain ⟨arg, harg, rfl⟩ := List.mem_map.1 hpair
    exact ⟨Prototype.safe_arguments hp arg (List.mem_of_mem_take harg), arg.index, rfl⟩
  have done := safe_arguments h ⟨config, call⟩ bound {}
  have ending := safe_conclusion h config p.signature done
  rw [run_signedReport]
  unfold allArguments
  have header := Prototype.safe_header hp
  cases he : (conclusion config p.signature
      ((arguments ⟨config, call⟩ {} (call.bind p.signature)).run w)).on w with
  | ok map =>
    exact ⟨header, by rintro _ ⟨⟩, done.names, done.texts, ending.of_ok he, by rintro _ ⟨⟩⟩
  | error a =>
    exact ⟨header, by rintro _ ⟨⟩, done.names, done.texts, by rintro _ ⟨⟩,
      List.forall_mem_singleton.2 (safe_behind rfl (ending.of_error he))⟩

theorem safe_report (h : w.Safe) (config : Config) (call : Invocation) :
    ((report config call).run w).Safe := by
  cases known : Signature.find? call.number with
  | some sig =>
    obtain ⟨p, hp, -, rfl⟩ := Signature.find?_eq_some known
    rw [report_of_find? known]
    exact safe_signedReport h config call hp
  | none =>
    rw [report_of_not_find? known]
    exact safe_bareReport call

/-- The report of a call of a task on a safe target is safe: nothing that memory, kernel records or
registers hold can bring a control character into it, except for the ends of lines and the
tabulator. -/
theorem decode_safe {t : Target} (h : t.Safe) (layout : KernelLayout) (task : UInt64)
    (config : Config) (call : Invocation) :
    (decode t (Kernel.taskView t layout task) config call).Safe :=
  safe_report (Kernel.safe_taskView layout h task) config call

/-- `write` of five bytes, with a sequence that clears the screen in place of the descriptor. -/
def clearingCall : Invocation :=
  ⟨1, .ofList [some "\x1b[2J", some "0x7000", some "5"], 0x1000⟩

/-- Memory full of escape characters is shown safely. -/
theorem safe_escapes :
    (Target.catalogued fun _ => .ok 0x1B).Safe ∧
      (decode (.catalogued fun _ => .ok 0x1B)
        (Kernel.taskView (.catalogued fun _ => .ok 0x1B) .linux2632 0x8800) {} clearingCall).Safe :=
  have safe := Target.safe_catalogued (by rintro _ _ ⟨⟩)
  ⟨safe, decode_safe safe .linux2632 0x8800 {} clearingCall⟩

end Decode

end SyscallDecode
