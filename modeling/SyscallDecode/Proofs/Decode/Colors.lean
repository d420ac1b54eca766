/-
The color of failures. A line gets it when a word for a failure stands in its text. Where every
question is answered with a value, decoding writes none of these words by itself, so that they come
from what was read: a report has the color because of a string, a name or a value in which somebody
put such a word.
-/
import SyscallDecode.Proofs.Decode.Missed
import SyscallDecode.Proofs.Decode.Repeats

namespace SyscallDecode

open SyscallDecode.Text

namespace Decode

variable {config : Config} {call : Invocation} {w : World} {ctx : Context} {anonymous : Bool}
  {arg : Argument} {value : UInt64}

/-! ## What an argument repeats -/

/-- A text that an argument repeats from what was answered: the name of the object behind a
descriptor, the value behind a pointer, or what the overlay of the pointer repeats. -/
inductive Repeats (w : World) (ctx : Context) (anonymous : Bool) (arg : Argument)
    (value : UInt64) : String → Prop
  | name {view : FileView} {text : String} : arg.isPointer = false → arg.AsksFile anonymous →
      w.process.file value.toUInt32.toInt32 = .ok view → view.Names text →
      Repeats w ctx anonymous arg value text
  | pointee {text : String} : arg.isPointer = true → Shows w ctx arg value text →
      Repeats w ctx anonymous arg value text
  | overlay {text : String} : arg.isPointer = true → value ≠ 0 →
      Overlay.Repeats w ctx.space ctx.config ctx.call arg value text →
      Repeats w ctx anonymous arg value text

theorem repeats_of_value (byValue : arg.isPointer = false) {text : String} :
    Repeats w ctx anonymous arg value text ↔ arg.AsksFile anonymous ∧
      ∃ view, w.process.file value.toUInt32.toInt32 = .ok view ∧ view.Names text := by
  constructor
  · intro repeats
    cases repeats with
    | name _ asks found names => exact ⟨asks, _, found, names⟩
    | pointee pointer _ => rw [byValue] at pointer; cases pointer
    | overlay pointer _ _ => rw [byValue] at pointer; cases pointer
  · rintro ⟨asks, view, found, names⟩
    exact .name byValue asks found names

theorem repeats_of_pointer (pointer : arg.isPointer = true) {text : String} :
    Repeats w ctx anonymous arg value text ↔ Shows w ctx arg value text ∨
      value ≠ 0 ∧ Overlay.Repeats w ctx.space ctx.config ctx.call arg value text := by
  constructor
  · intro repeats
    cases repeats with
    | name byValue _ _ _ => rw [pointer] at byValue; cases byValue
    | pointee _ shown => exact .inl shown
    | overlay _ nonnull repeats => exact .inr ⟨nonnull, repeats⟩
  · rintro (shown | ⟨nonnull, repeats⟩)
    · exact .pointee pointer shown
    · exact .overlay pointer nonnull repeats

/-! ## Values -/

/-- A note that asks nobody is empty or stands in brackets. -/
theorem valueNote_silent (h : ¬ arg.AsksFile anonymous) (value : UInt64) :
    ∃ note, valueNote anonymous arg value = pure note ∧
      (note = "" ∨ ∃ words, note = " (" ++ words ∧ ¬ Speaks words) := by
  have bracketed {words : String} (h : ¬ Speaks words) :
      ∃ note, (pure (" (" ++ words ++ ")") : Telling String) = pure note ∧
        (note = "" ∨ ∃ words, note = " (" ++ words ∧ ¬ Speaks words) :=
    ⟨_, rfl, .inr ⟨words ++ ")", String.append_assoc, not_speaks_bracketed h⟩⟩
  have flags {empty : String} {names : Flags.BitNames} (none : 't' ∉ empty.toList)
      (h : ∀ entry ∈ names, 't' ∉ entry.2.toList) : ¬ Speaks (Flags.bitText empty names value) :=
    not_speaks_of_notMem (by decide) (Flags.notMem_bitText none h value)
  unfold valueNote
  split
  · exact bracketed (flags (by decide) (by decide))
  · exact bracketed (flags (by decide) (by decide))
  · exact bracketed (flags (by decide) (by decide))
  · exact bracketed (not_speaks_choiceText _ value)
  · next role =>
    split
    · exact ⟨_, rfl, .inr ⟨"ignored due to MAP_ANONYMOUS)", rfl, by decide⟩⟩
    · next backed =>
      refine ⟨"", if_neg fun name => h (.inr ⟨role, ?_, name⟩), .inl rfl⟩
      simpa using backed
  · next role => exact absurd (.inl role) h
  · exact ⟨"", rfl, .inl rfl⟩

theorem closed_type (arg : Argument) : Closed (arg.shownType ++ ": ") :=
  closed_append (by decide) (by decide)

/-- A value has the words of the names of its object. -/
theorem speaks_valueText (silent : arg.Silent) (byValue : arg.isPointer = false) (s : State)
    (answered : (valueText s arg value).Answered w) :
    ∃ text s', (valueText s arg value).on w = .ok (text, s') ∧
      (Speaks text ↔ ∃ name, Repeats w ctx s.anonymous arg value name ∧ Speaks name) := by
  have shown : valueHead arg value = arg.shownType ++ ": " ++ hexMarked value.toNat := by
    unfold valueHead Argument.shownType
    simp [byValue]
  obtain ⟨type, known⟩ := answered.first.of_settle.value
  have note := (answered.second (Reading.on_settle_ok w known)).first
  rw [on_valueText known, shown]
  by_cases asks : arg.AsksFile s.anonymous
  · rw [valueNote_of_asksFile asks] at note ⊢
    obtain ⟨view, found⟩ := note.first.first.of_settle.value
    rw [on_fileNote_of_tells (.found view found)]
    refine ⟨_, _, rfl, ?_⟩
    rw [speaks_behind_number silent.type (closed_type arg) (by decide) (by decide) (by decide),
      view.speaks_text]
    have answer : w.process.file value.toUInt32.toInt32 = .ok view := found
    simp [repeats_of_value byValue, asks, answer]
  · obtain ⟨note, same, words⟩ := valueNote_silent asks value
    rw [same]
    refine ⟨_, _, rfl, iff_of_false ?_ ?_⟩
    · obtain rfl | ⟨words, rfl, wordless⟩ := words
      · rw [String.append_empty]
        exact not_speaks_number silent.type (closed_type arg) _
      · rwa [speaks_behind_number silent.type (closed_type arg) (by decide) (by decide) (by decide)]
    · simp [repeats_of_value byValue, asks]

/-! ## Pointers -/

/-- Behind a pointer that is not null the value is shown, and an overlay is reached. -/
theorem shows_of_answered (nonnull : value ≠ 0)
    (answered : (pointerText ctx arg value).Answered w) :
    ∃ generic, Shows w ctx arg value generic ∧
      (Overlay.ofRole ctx.space ctx.config ctx.call arg value).Answered w := by
  unfold pointerText at answered
  dsimp only at answered
  rw [if_neg nonnull] at answered
  have pointee := answered.first
  unfold pointeeText at pointee
  obtain ⟨type, known⟩ := pointee.first.of_settle.value
  have behind := pointee.second (Reading.on_settle_ok w known)
  dsimp only at behind
  obtain ⟨generic, rendered⟩ := behind.first.of_settle.on_eq_ok
    (Reading.rendered_within (T := { asks := fun _ => True }) (fun _ _ => trivial) _ _) fun _ h => h
  have overlaid := (behind.second (Reading.on_settle_ok w rendered)).first
  unfold Course.Answered at overlaid
  rw [asked_overlayText] at overlaid
  exact ⟨generic, ⟨nonnull, type, known, rendered⟩, overlaid⟩

theorem Shows.unique {generic generic' : String} (h : Shows w ctx arg value generic)
    (h' : Shows w ctx arg value generic') : generic = generic' := by
  obtain ⟨-, type, known, rendered⟩ := h
  obtain ⟨-, type', known', rendered'⟩ := h'
  cases known.symm.trans known'
  exact Except.ok.inj (rendered.symm.trans rendered')

/-- The text of a pointer has the words of its value and of its overlay. -/
theorem speaks_pointer (silent : arg.Silent) (pointer : arg.isPointer = true) {overlay : String}
    (fresh : Fresh overlay) (generic : String) :
    Speaks (arg.pointerType ++ ": " ++ hexMarked value.toNat ++ " ->\n" ++ generic ++ overlay) ↔
      Speaks generic ∨ Speaks overlay := by
  have head : arg.pointerType = arg.shownType := (if_pos pointer).symm
  rw [speaks_append_of_fresh fresh, head, String.append_assoc,
    speaks_behind_number silent.type (closed_type arg) (by decide) (by decide) (by decide)]

/-- A pointer has the words of what it repeats, or that of the failure of its overlay. -/
theorem speaks_pointerText (silent : arg.Silent) (pointer : arg.isPointer = true)
    (answered : (pointerText ctx arg value).Answered w) :
    ∃ text, (pointerText ctx arg value).on w = .ok text ∧
      (Speaks text.value ↔ (∃ part, Repeats w ctx anonymous arg value part ∧ Speaks part) ∨
        ∃ f, OverlayFails w ctx arg value f) := by
  simp only [repeats_of_pointer pointer]
  by_cases null : value = 0
  · subst null
    rw [pointerText_zero]
    refine ⟨_, rfl, iff_of_false ?_ ?_⟩
    · have mark : ¬ Speaks "0x0 (NULL)" := by decide
      have head : arg.pointerType ++ ": 0x0 (NULL)" = arg.shownType ++ ": " ++ "0x0 (NULL)" := by
        rw [String.append_assoc, Argument.shownType, if_pos pointer]
        rfl
      rw [head, speaks_append_of_closed (closed_type arg), or_iff_right silent.type]
      exact mark
    · rintro (⟨part, shown | ⟨nonnull, -⟩, -⟩ | ⟨f, fails⟩)
      · exact shown.1 rfl
      · exact nonnull rfl
      · exact fails.shown.1 rfl
  obtain ⟨generic, shown, overlaid⟩ := shows_of_answered null answered
  have pointee (part : String) : Shows w ctx arg value part ↔ part = generic :=
    ⟨fun shown' => shown'.unique shown, fun same => same ▸ shown⟩
  rw [on_pointerText_of_shows shown]
  rcases laid : (Overlay.ofRole ctx.space ctx.config ctx.call arg value).on w with (f | a) | overlay
  · have reads : ¬ ∃ q ∈ (Overlay.ofRole ctx.space ctx.config ctx.call arg value).asked w,
        w.Misses q := by
      rintro ⟨q, hq, miss⟩
      obtain ⟨stop, lost⟩ := miss.answer
      obtain ⟨given, found⟩ := overlaid q hq
      cases lost.symm.trans found
    obtain ⟨nonnull, type, known, rendered⟩ := shown
    have fails : OverlayFails w ctx arg value f :=
      ⟨⟨nonnull, type, known, generic, rendered⟩, laid, reads⟩
    have word : Speaks "\nexception: " := by decide
    rw [on_overlayText_failure laid]
    refine ⟨_, rfl, iff_of_true ?_ (.inr ⟨f, fails⟩)⟩
    exact speaks_append_right _ (speaks_append_left word _)
  · -- an overlay is aborted by an answer only, and all are values
    have stops := overlaid.stops (Overlay.ofRole_within trivial (terms_reads ctx.call.root)
      (fun _ => trivial) (terms_failsByCall _) _ _ _ _) (Reading.stop?_eq_some.2 laid)
    exact absurd stops (terms_not_abort a)
  · obtain ⟨fresh, speaks⟩ := Overlay.speaks_ofRole silent overlaid laid
    have none : ¬ ∃ f, OverlayFails w ctx arg value f := by
      rintro ⟨f, fails⟩
      cases laid.symm.trans fails.fails
    rw [on_overlayText laid]
    refine ⟨_, rfl, (speaks_pointer silent pointer fresh generic).trans ?_⟩
    rw [speaks]
    simp [pointee, none, null, or_and_right, exists_or]

/-! ## Arguments -/

theorem speaks_argumentText (silent : arg.Silent) {s : State}
    (answered : (argumentText ctx s arg (.ok value)).Answered w) :
    ∃ text s', (argumentText ctx s arg (.ok value)).on w = .ok (text, s') ∧
      (Speaks text ↔ (∃ part, Repeats w ctx s.anonymous arg value part ∧ Speaks part) ∨
        arg.isPointer = true ∧ ∃ f, OverlayFails w ctx arg value f) := by
  cases pointer : arg.isPointer with
  | false =>
    rw [argumentText_of_value ctx pointer] at answered ⊢
    obtain ⟨text, s', told, speaks⟩ := @speaks_valueText w ctx arg value silent pointer s answered
    exact ⟨text, s', told, by simp [speaks]⟩
  | true =>
    have pointed : (pointerText ctx arg value).Answered w := by
      unfold argumentText at answered
      simp only [pointer, if_true] at answered
      exact answered.first
    obtain ⟨text, told, speaks⟩ := @speaks_pointerText w ctx s.anonymous arg value silent pointer
      pointed
    rw [on_argumentText_of_pointer pointer, told]
    exact ⟨_, _, rfl, by simp [speaks]⟩

/-- A text that a report repeats: from what was answered for an argument, or the text of a register
that is no numeral. -/
inductive Repeated (w : World) (config : Config) (call : Invocation) : String → Prop
  | argument {s : Signature} {i : Nat} {arg : Argument} {value : UInt64} {text : String} :
      Signature.find? call.number = some s → s.arguments[i]? = some arg →
      call.register i = .ok value →
      Repeats w ⟨config, call⟩ ((firstArguments config call s i).run w).state.anonymous arg value
        text →
      Repeated w config call text
  | register {i : Nat} {text : String} : Signature.find? call.number = none →
      i < argumentRegisters → call.register i = .error (.malformedRegister i text) →
      Repeated w config call text

/-- The overlay of one of the arguments fails though its reads do not. -/
def SomeOverlayFails (w : World) (config : Config) (call : Invocation) : Prop :=
  ∃ s i arg value f, Signature.find? call.number = some s ∧ s.arguments[i]? = some arg ∧
    call.register i = .ok value ∧ arg.isPointer = true ∧
    OverlayFails w ⟨config, call⟩ arg value f

variable {s : Signature}

/-- The line of an argument, where the registers can be read and all that is asked is answered. -/
theorem speaks_line (known : Signature.find? call.number = some s)
    (answered : ∀ q ∈ (allArguments config call s).asked w, ∃ value, w.answer q = .ok value)
    {i : Nat} (declared : s.arguments[i]? = some arg) (held : call.register i = .ok value) :
    ∃ line, ((allArguments config call s).run w).lines[i]? = some line ∧
      (Speaks line.text ↔
        (∃ part, Repeats w ⟨config, call⟩ ((firstArguments config call s i).run w).state.anonymous
          arg value part ∧ Speaks part) ∨
        arg.isPointer = true ∧ ∃ f, OverlayFails w ⟨config, call⟩ arg value f) := by
  have sound := Signature.sound_of_find? known
  have done : ((firstArguments config call s i).run w).abort = none := by
    rw [Option.eq_none_iff_forall_ne_some]
    intro a aborted
    have all := aborted
    rw [← run_allArguments_of_aborted aborted, abort_allArguments_iff] at all
    obtain ⟨q, hq, ha⟩ := all
    obtain ⟨given, found⟩ := answered q hq
    cases found.symm.trans ha
  have asked : (argumentText ⟨config, call⟩ ((firstArguments config call s i).run w).state arg
      (.ok value)).Answered w := by
    refine fun q hq => answered q ?_
    unfold allArguments
    rw [call.bind_eq_append sound declared, asked_arguments_append done, held]
    exact List.mem_append_right _ (mem_asked_arguments_cons hq _)
  obtain ⟨text, s', told, speaks⟩ := speaks_argumentText
    (Signature.silent known (List.mem_of_getElem? declared)) asked
  refine ⟨argumentLine arg text, ?_, speaks⟩
  rw [getElem?_lines_allArguments sound declared done, held, told]
  rfl

/-- The lines of a known call. -/
theorem speaks_signedLines (known : Signature.find? call.number = some s)
    (registers : ∀ i < s.arguments.length, ∃ value, call.register i = .ok value)
    (answered : ∀ q ∈ (allArguments config call s).asked w, ∃ value, w.answer q = .ok value) :
    (∃ line ∈ ((allArguments config call s).run w).lines, Speaks line.text) ↔
      (∃ text, Repeated w config call text ∧ Speaks text) ∨ SomeOverlayFails w config call := by
  have sound := Signature.sound_of_find? known
  constructor
  · rintro ⟨line, hl, told⟩
    obtain ⟨i, hi⟩ := List.mem_iff_getElem?.1 hl
    have inside : i < s.arguments.length :=
      Nat.lt_of_lt_of_le (List.getElem?_eq_some_iff.1 hi).1 (length_lines_allArguments_le sound)
    obtain ⟨value, held⟩ := registers i inside
    have declared : s.arguments[i]? = some s.arguments[i] := List.getElem?_eq_getElem inside
    obtain ⟨line', hl', speaks⟩ := speaks_line known answered declared held
    cases hi.symm.trans hl'
    rcases speaks.1 told with ⟨part, repeats, word⟩ | ⟨pointer, f, fails⟩
    · exact .inl ⟨part, .argument known declared held repeats, word⟩
    · exact .inr ⟨s, i, _, value, f, known, declared, held, pointer, fails⟩
  · have line {i : Nat} {arg : Argument} {value : UInt64} (declared : s.arguments[i]? = some arg)
        (held : call.register i = .ok value)
        (word : (∃ part, Repeats w ⟨config, call⟩
          ((firstArguments config call s i).run w).state.anonymous arg value part ∧ Speaks part) ∨
          arg.isPointer = true ∧ ∃ f, OverlayFails w ⟨config, call⟩ arg value f) :
        ∃ line ∈ ((allArguments config call s).run w).lines, Speaks line.text := by
      obtain ⟨line, hl, speaks⟩ := speaks_line known answered declared held
      exact ⟨line, List.mem_of_getElem? hl, speaks.2 word⟩
    rintro (⟨text, repeated, word⟩ | ⟨s', i, arg, value, f, known', declared, held, pointer, fails⟩)
    · cases repeated with
      | argument known' declared held repeats =>
        cases known.symm.trans known'
        exact line declared held (.inl ⟨text, repeats, word⟩)
      | register unknown _ _ => cases known.symm.trans unknown
    · cases known.symm.trans known'
      exact line declared held (.inr ⟨pointer, f, fails⟩)

/-! ## Calls without a signature -/

theorem speaks_registerLine {i : Nat} (inside : i < argumentRegisters) :
    Speaks (registerLine call i).text ↔
      ∃ text, call.register i = .error (.malformedRegister i text) ∧ Speaks text := by
  have missing : ∀ i < argumentRegisters,
      ¬ Speaks (Failure.missingRegister i).message := by decide
  have malformed : ∀ i < argumentRegisters,
      ¬ Speaks ("register for argument " ++ toString i ++ " is not a hex value: ") := by decide
  have mark : ∀ i < argumentRegisters,
      Closed ("register for argument " ++ toString i ++ " is not a hex value: ") := by decide
  unfold registerLine Invocation.register readRegister
  cases call.registers.at? i with
  | none => exact iff_of_false (missing i inside) (by simp)
  | some text =>
    dsimp only
    cases readHexWord (trim text.toList) with
    | ok value =>
      have plain := notMem_hexMarked (c := 'o') (by decide) value.toNat
      exact iff_of_false (not_speaks_of_notMem (by decide) plain) (by simp)
    | error fault =>
      have told : Speaks (Failure.malformedRegister i text).message ↔ Speaks text := by
        unfold Failure.message
        rw [speaks_append_of_closed (mark i inside), or_iff_right (malformed i inside), speaks_quote]
      simp [told]

theorem speaks_bareLines (unknown : Signature.find? call.number = none) :
    (∃ line ∈ (bareReport call).lines, Speaks line.text) ↔
      (∃ text, Repeated w config call text ∧ Speaks text) ∨ SomeOverlayFails w config call := by
  constructor
  · rintro ⟨line, hl, told⟩
    obtain ⟨i, hi, rfl⟩ := List.mem_map.1 hl
    have inside := List.mem_range.1 hi
    obtain ⟨text, malformed, word⟩ := (speaks_registerLine inside).1 told
    exact .inl ⟨text, .register unknown inside malformed, word⟩
  · rintro (⟨text, repeated, word⟩ | ⟨s, i, arg, value, f, known, -⟩)
    · cases repeated with
      | argument known _ _ _ => cases unknown.symm.trans known
      | @register i _ _ inside malformed =>
        exact ⟨_, List.mem_map_of_mem (List.mem_range.2 inside),
          (speaks_registerLine inside).2 ⟨text, malformed, word⟩⟩
    · cases unknown.symm.trans known

/-! ## The report -/

/-- Where the registers of all declared arguments can be read, and all types, memory and descriptors
that are asked for are known, a report has the color of failures exactly where it repeats a text with
a word for one, an overlay fails by itself, or the areas end the decoding. -/
theorem decode_exceptionColor (t : Target) (process : ProcessView) (config : Config)
    (call : Invocation)
    (registers : ∀ s, Signature.find? call.number = some s → ∀ i < s.arguments.length,
      ∃ value, call.register i = .ok value)
    (answered : ∀ q ∈ (report config call).asked ⟨t, process⟩, q ≠ .areas →
      ∃ value, World.answer ⟨t, process⟩ q = .ok value) :
    (∃ p ∈ (decode t process config call).pieces, p.color = some exceptionColor) ↔
      (∃ text, Repeated ⟨t, process⟩ config call text ∧ Speaks text) ∨
      SomeOverlayFails ⟨t, process⟩ config call ∨
      .areas ∈ (report config call).asked ⟨t, process⟩ ∧
        ∃ a, process.areas = .error (.abort a) := by
  have diagnosed : (decode t process config call).diagnostics ≠ [] ↔
      .areas ∈ (report config call).asked ⟨t, process⟩ ∧
        ∃ a, process.areas = .error (.abort a) := by
    rw [ne_eq, diagnostics_decode]
    simp only [ne_eq, not_forall, not_not]
    constructor
    · rintro ⟨q, hq, a, ha⟩
      by_cases areas : q = .areas
      · subst areas
        exact ⟨hq, a, ha⟩
      · obtain ⟨value, found⟩ := answered q hq areas
        cases found.symm.trans ha
    · rintro ⟨hq, a, ha⟩
      exact ⟨.areas, hq, a, ha⟩
  rw [Report.exceptionColor_iff, diagnosed, ← or_assoc]
  refine or_congr_left ?_
  cases known : Signature.find? call.number with
  | none =>
    unfold decode
    rw [report_of_not_find? known]
    exact speaks_bareLines known
  | some s =>
    rw [lines_of_find? known]
    refine speaks_signedLines known (registers s known) fun q hq => answered q ?_ ?_
    · rw [report_of_find? known, asked_signedReport]
      exact List.mem_append_left _ hq
    · rintro rfl
      exact arguments_asks _ _ hq

/-- A target with the path of a directory that is named for an exception. -/
def exceptionPath : Target :=
  Cells.target
    (fun _ a =>
      match ("/tmp/exception".toList.map fun c => UInt8.ofNat c.toNat)[(a - 0x4000).toNat]? with
      | some byte => .ok byte
      | none => .ok 0)
    catalogueTypes fun name => .fail (.unknownSymbol name)

/-- `chdir(0x4000)`. -/
def chdirCall : Invocation :=
  ⟨80, .ofList [some "0x4000"], 0x1000⟩

theorem find?_chdir : ∃ s, Signature.find? chdirCall.number = some s ∧
    s.arguments = [⟨0, "filename", "const char", true, .read, .path⟩] := by
  have arguments : (Signature.find? chdirCall.number).map Signature.arguments =
      some [⟨0, "filename", "const char", true, .read, .path⟩] := by decide +kernel
  exact Option.map_eq_some_iff.1 arguments

theorem registers_chdir (s : Signature) (known : Signature.find? chdirCall.number = some s) :
    ∀ i < s.arguments.length, ∃ value, chdirCall.register i = .ok value := by
  obtain ⟨s', known', arguments⟩ := find?_chdir
  cases known.symm.trans known'
  rw [arguments]
  intro i inside
  obtain rfl : i = 0 := Nat.lt_one_iff.1 inside
  exact ⟨0x4000, rfl⟩

theorem answered_chdir : ∀ q ∈ (report {} chdirCall).asked ⟨exceptionPath, .absent⟩,
    ∃ value, World.answer ⟨exceptionPath, .absent⟩ q = .ok value := by
  have all : ((report {} chdirCall).asked ⟨exceptionPath, .absent⟩).all
      (fun q => (World.answer ⟨exceptionPath, .absent⟩ q).isOk) = true := by decide +kernel
  intro q hq
  have one := List.all_eq_true.1 all q hq
  cases answer : World.answer ⟨exceptionPath, .absent⟩ q with
  | ok value => exact ⟨value, rfl⟩
  | error stop => rw [answer] at one; cases one

/-- The path is repeated, and colors the report. -/
theorem exceptionColor_chdir :
    Repeated ⟨exceptionPath, .absent⟩ {} chdirCall "/tmp/exception" ∧
      ∃ p ∈ (decode exceptionPath .absent {} chdirCall).pieces, p.color = some exceptionColor := by
  obtain ⟨s, known, arguments⟩ := find?_chdir
  have path : Repeated ⟨exceptionPath, .absent⟩ {} chdirCall "/tmp/exception" := by
    have declared : s.arguments[0]? = some ⟨0, "filename", "const char", true, .read, .path⟩ := by
      rw [arguments]
      rfl
    have held : chdirCall.register 0 = .ok 0x4000 := rfl
    exact .argument known declared held (.overlay rfl (by decide) ⟨_, rfl, by decide +kernel⟩)
  refine ⟨path, (decode_exceptionColor _ _ _ _ registers_chdir fun q hq _ => answered_chdir q hq).2
    (.inl ⟨_, path, by decide⟩)⟩

/-- All that is asked is answered, and no failure is told of, but the path has the color of one. -/
theorem colored_chdir :
    (∀ s, Signature.find? chdirCall.number = some s → ∀ i < s.arguments.length,
      ∃ value, chdirCall.register i = .ok value) ∧
    (∀ q ∈ (report {} chdirCall).asked ⟨exceptionPath, .absent⟩,
      ∃ value, World.answer ⟨exceptionPath, .absent⟩ q = .ok value) ∧
    ∃ p ∈ (decode exceptionPath .absent {} chdirCall).pieces, p.color = some exceptionColor :=
  ⟨registers_chdir, answered_chdir, by decide +kernel⟩

end Decode

end SyscallDecode
