/-
The file behind a mapping. The flags of `mmap` come before its descriptor and its offset, and tell
whether there is a file at all: with the bit of a mapping without one both are shown as ignored and
the process is not asked; in every other case, also when the flags are missing, the descriptor is
looked up.
-/
import SyscallDecode.Proofs.Decode.Isolation
import SyscallDecode.Proofs.Decode.Values

namespace SyscallDecode.Decode

open SyscallDecode.Text

/-! ## The signature -/

/-- An argument of `mmap`; all of them are values of one type. -/
def mapArgument (index : Nat) (name : String) (role : Role) : Argument :=
  ⟨index, name, "unsigned long", false, .unspecified, role⟩

/-- The descriptor of `mmap`. -/
def mapDescriptor : Argument := mapArgument 4 "fd" .mapBacking

/-- The offset of `mmap`. -/
def mapOffset : Argument := mapArgument 5 "pgoff" .mapBacking

/-- The signature of `mmap`. -/
def mapSignature : Signature where
  number := 9
  name := "mmap"
  returns := "long"
  arguments :=
    [mapArgument 0 "addr" .plain, mapArgument 1 "len" .plain, mapArgument 2 "prot" .protection,
     mapArgument 3 "flags" .mapFlags, mapDescriptor, mapOffset]

theorem find?_mmap : Signature.find? 9 = some mapSignature := by decide +kernel

theorem bind_mmap (call : Invocation) :
    call.bind mapSignature =
      [(mapArgument 0 "addr" .plain, call.register 0),
       (mapArgument 1 "len" .plain, call.register 1),
       (mapArgument 2 "prot" .protection, call.register 2),
       (mapArgument 3 "flags" .mapFlags, call.register 3), (mapDescriptor, call.register 4),
       (mapOffset, call.register 5)] := rfl

variable {config : Config} {call : Invocation} {w : World} {type : CType} {f p : UInt64}

/-! ## Up to the flags -/

theorem mapArgument_within {ctx : Context} {s : State} {role : Role} (index : Nat) (name : String)
    (descriptor : role ≠ .descriptor) (backing : role ≠ .mapBacking)
    (register : Except Failure UInt64) :
    (argumentText ctx s (mapArgument index name role) register).Within
      { asks := (· = .typeNamed "unsigned long") } := by
  cases register with
  | error f => exact .pure _
  | ok value =>
    refine .bind (.settle trivial (.ask _ rfl)) fun ending => ?_
    cases ending with
    | error f => exact .pure _
    | ok type =>
      have silent : ¬ (mapArgument index name role).AsksFile s.anonymous := by
        rintro (h | ⟨h, -⟩)
        · exact descriptor h
        · exact backing h
      obtain ⟨note, hn⟩ := valueNote_of_not_asksFile silent value
      dsimp only
      rw [hn]
      exact .bind (.pure _) fun _ => .pure _

/-- The arguments up to the flags ask for their type only. -/
theorem asked_firstArguments_mmap (config : Config) (call : Invocation) (w : World) :
    ∀ q ∈ (firstArguments config call mapSignature 4).asked w, q = .typeNamed "unsigned long" := by
  refine arguments_asks_of_within (T := { asks := (· = .typeNamed "unsigned long") }) ?_
  intro b hb s
  simp only [bind_mmap, List.take, List.mem_cons, List.not_mem_nil, or_false] at hb
  rcases hb with rfl | rfl | rfl | rfl <;>
    exact mapArgument_within _ _ (by decide) (by decide) _

theorem firstArguments_mmap_done (config : Config) (call : Invocation)
    (known : (Reading.typeNamed "unsigned long").on w = .ok type) :
    ((firstArguments config call mapSignature 4).run w).abort = none := by
  rw [firstArguments_done_iff]
  intro q hq a ha
  cases asked_firstArguments_mmap config call w q hq
  cases known.symm.trans ha

/-- Behind the flags it is known whether there is a file: there is none when the flags can be read
and have its bit. -/
theorem anonymous_mmap (config : Config) (call : Invocation)
    (known : (Reading.typeNamed "unsigned long").on w = .ok type) :
    ((firstArguments config call mapSignature 4).run w).state.anonymous = true ↔
      ∃ flags, call.register 3 = .ok flags ∧ flags &&& 0x20 ≠ 0 := by
  have done := firstArguments_mmap_done config call known
  unfold firstArguments at done ⊢
  rw [anonymous_of_leavesAll (leavesAll_arguments done)]
  have others : ∀ index name role register, role ≠ .mapFlags →
      raisesAnonymous w (mapArgument index name role) register = false :=
    fun _ _ _ register other => raisesAnonymous_of_role other register
  have flags : raisesAnonymous w (mapArgument 3 "flags" .mapFlags) (call.register 3) = true ↔
      ∃ flags, call.register 3 = .ok flags ∧ flags &&& 0x20 ≠ 0 := by
    unfold raisesAnonymous
    rw [show (mapArgument 3 "flags" .mapFlags).type = "unsigned long" from rfl, known]
    cases call.register 3 with
    | error f => simp
    | ok v => simp [mapArgument, Flags.isAnonymous, Flags.mapAnonymous]
  simp [bind_mmap, others, flags]

/-! ## The descriptor and the offset -/

theorem run_allArguments_mmap (config : Config) (call : Invocation)
    (known : (Reading.typeNamed "unsigned long").on w = .ok type) :
    (allArguments config call mapSignature).run w =
      { (arguments ⟨config, call⟩ ((firstArguments config call mapSignature 4).run w).state
          [(mapDescriptor, call.register 4), (mapOffset, call.register 5)]).run w with
        lines := ((firstArguments config call mapSignature 4).run w).lines ++
          ((arguments ⟨config, call⟩ ((firstArguments config call mapSignature 4).run w).state
            [(mapDescriptor, call.register 4), (mapOffset, call.register 5)]).run w).lines } :=
  run_arguments_append (firstArguments_mmap_done config call known) _

theorem asked_allArguments_mmap (config : Config) (call : Invocation)
    (known : (Reading.typeNamed "unsigned long").on w = .ok type) :
    (allArguments config call mapSignature).asked w =
      (firstArguments config call mapSignature 4).asked w ++
        (arguments ⟨config, call⟩ ((firstArguments config call mapSignature 4).run w).state
          [(mapDescriptor, call.register 4), (mapOffset, call.register 5)]).asked w :=
  asked_arguments_append (firstArguments_mmap_done config call known) _

/-- The lines of the descriptor and the offset, given their notes, and what is asked for them. -/
theorem run_backing (ctx : Context) {s : State} {note note' : String}
    (known : (Reading.typeNamed "unsigned long").on w = .ok type)
    (first : (valueNote s.anonymous mapDescriptor f).on w = .ok note)
    (second : (valueNote s.anonymous mapOffset p).on w = .ok note') :
    ((arguments ctx s [(mapDescriptor, .ok f), (mapOffset, .ok p)]).run w).lines =
      [⟨"fd", "unsigned long: " ++ hexMarked f.toNat ++ note, 1⟩,
       ⟨"pgoff", "unsigned long: " ++ hexMarked p.toNat ++ note', 1⟩] ∧
    (arguments ctx s [(mapDescriptor, .ok f), (mapOffset, .ok p)]).asked w =
      (.typeNamed "unsigned long" :: (valueNote s.anonymous mapDescriptor f).asked w) ++
        .typeNamed "unsigned long" :: (valueNote s.anonymous mapOffset p).asked w := by
  have fd : (argumentText ctx s mapDescriptor (.ok f)).on w =
      .ok (valueHead mapDescriptor f ++ note, s) := by
    rw [argumentText_of_value ctx rfl, on_valueText known, first, afterValue_of_role (by decide)]
    rfl
  have pgoff : (argumentText ctx s mapOffset (.ok p)).on w =
      .ok (valueHead mapOffset p ++ note', s) := by
    rw [argumentText_of_value ctx rfl, on_valueText known, second, afterValue_of_role (by decide)]
    rfl
  constructor
  · rw [run_arguments_cons_ok fd, run_arguments_cons_ok pgoff]
    rfl
  · rw [asked_arguments_cons_ok fd, asked_arguments_cons_ok pgoff, argumentText_of_value ctx rfl,
      argumentText_of_value ctx rfl, asked_valueText known, asked_valueText known]
    exact congrArg (_ ++ ·) (List.append_nil _)

/-- Where the process aborts, nothing comes behind the flags. -/
theorem run_backing_aborted {ctx : Context} {s : State} {a : Abort}
    {rest : List (Argument × Except Failure UInt64)}
    (known : (Reading.typeNamed "unsigned long").on w = .ok type)
    (first : (valueNote s.anonymous mapDescriptor f).on w = .error a) :
    (arguments ctx s ((mapDescriptor, .ok f) :: rest)).run w = { state := s, abort := some a } := by
  apply run_arguments_cons_error
  rw [argumentText_of_value ctx rfl, on_valueText known, first]
  rfl

/-! ## Mappings -/

theorem valueNote_of_anonymous {arg : Argument} (role : arg.role = .mapBacking) (value : UInt64) :
    valueNote true arg value = pure " (ignored due to MAP_ANONYMOUS)" := by
  unfold valueNote
  rw [role]
  rfl

theorem valueNote_mapOffset (value : UInt64) : valueNote false mapOffset value = pure "" := rfl

/-- Both lines of a mapping without a file say that they are ignored, and nothing is looked up. -/
theorem allArguments_of_anonymous (known : (Reading.typeNamed "unsigned long").on w = .ok type)
    (descriptor : call.register 4 = .ok f) (offset : call.register 5 = .ok p)
    (anonymous : ((firstArguments config call mapSignature 4).run w).state.anonymous = true) :
    ((allArguments config call mapSignature).run w).lines =
      ((firstArguments config call mapSignature 4).run w).lines ++
        [⟨"fd", "unsigned long: " ++ hexMarked f.toNat ++ " (ignored due to MAP_ANONYMOUS)", 1⟩,
         ⟨"pgoff", "unsigned long: " ++ hexMarked p.toNat ++ " (ignored due to MAP_ANONYMOUS)",
           1⟩] ∧
    ∀ q ∈ (allArguments config call mapSignature).asked w, q = .typeNamed "unsigned long" := by
  have before := asked_firstArguments_mmap config call w
  rw [run_allArguments_mmap config call known, asked_allArguments_mmap config call known,
    descriptor, offset]
  generalize ((firstArguments config call mapSignature 4).run w).state = s at anonymous ⊢
  have note : ∀ arg : Argument, arg.role = .mapBacking → ∀ value,
      valueNote s.anonymous arg value = pure " (ignored due to MAP_ANONYMOUS)" := by
    rw [anonymous]
    exact fun arg role value => valueNote_of_anonymous role value
  have told : ∀ arg : Argument, arg.role = .mapBacking → ∀ value,
      (valueNote s.anonymous arg value).on w = .ok " (ignored due to MAP_ANONYMOUS)" := by
    intro arg role value
    rw [note arg role]
    rfl
  obtain ⟨lines, asked⟩ := run_backing ⟨config, call⟩ known (told mapDescriptor rfl f)
    (told mapOffset rfl p)
  refine ⟨congrArg (_ ++ ·) lines, fun q hq => ?_⟩
  rw [asked, note _ rfl, note _ rfl] at hq
  rcases List.mem_append.1 hq with hq | hq
  · exact before q hq
  · simpa using hq

/-- The line of the descriptor of any other mapping tells what the process answers. -/
theorem allArguments_of_file (known : (Reading.typeNamed "unsigned long").on w = .ok type)
    (descriptor : call.register 4 = .ok f) (offset : call.register 5 = .ok p)
    (backed : ((firstArguments config call mapSignature 4).run w).state.anonymous = false)
    {text : String} (tells : w.process.Tells f text) :
    ((allArguments config call mapSignature).run w).lines =
      ((firstArguments config call mapSignature 4).run w).lines ++
        [⟨"fd", "unsigned long: " ++ hexMarked f.toNat ++ " -> " ++ text, 1⟩,
         ⟨"pgoff", "unsigned long: " ++ hexMarked p.toNat, 1⟩] := by
  rw [run_allArguments_mmap config call known, descriptor, offset]
  generalize ((firstArguments config call mapSignature 4).run w).state = s at backed ⊢
  have first : (valueNote s.anonymous mapDescriptor f).on w = .ok (" -> " ++ text) := by
    rw [valueNote_of_asksFile (.inr ⟨rfl, backed, rfl⟩)]
    exact on_fileNote_of_tells tells
  have second : (valueNote s.anonymous mapOffset p).on w = .ok "" := by
    rw [backed, valueNote_mapOffset]
    rfl
  obtain ⟨lines, -⟩ := run_backing ⟨config, call⟩ known first second
  rw [lines, String.append_empty, ← String.append_assoc]

/-! ## The report -/

theorem lines_of_mmap {t : Target} {process : ProcessView} (number : call.number = 9) :
    (decode t process config call).lines =
      ((allArguments config call mapSignature).run ⟨t, process⟩).lines :=
  lines_of_find? (number ▸ find?_mmap) t process

/-- A mapping without a file shows both as ignored and looks nothing up. -/
theorem decode_anonymous {t : Target} {process : ProcessView} (number : call.number = 9)
    (known : (Reading.typeNamed "unsigned long").on ⟨t, process⟩ = .ok type)
    (descriptor : call.register 4 = .ok f) (offset : call.register 5 = .ok p)
    (anonymous : ∃ flags, call.register 3 = .ok flags ∧ flags &&& 0x20 ≠ 0) :
    (decode t process config call).lines[4]? = some ⟨"fd",
        "unsigned long: " ++ hexMarked f.toNat ++ " (ignored due to MAP_ANONYMOUS)", 1⟩ ∧
    (decode t process config call).lines[5]? = some ⟨"pgoff",
        "unsigned long: " ++ hexMarked p.toNat ++ " (ignored due to MAP_ANONYMOUS)", 1⟩ ∧
    ∀ d, .file d ∉ (report config call).asked ⟨t, process⟩ := by
  have sound := Signature.sound_of_find? find?_mmap
  have done := firstArguments_mmap_done config call known
  have length := length_firstArguments sound (k := 4) (by decide) done
  obtain ⟨lines, asked⟩ := allArguments_of_anonymous known descriptor offset
    ((anonymous_mmap config call known).2 anonymous)
  rw [lines_of_mmap number, lines]
  refine ⟨?_, ?_, fun d hd => ?_⟩
  · rw [List.getElem?_append_right (by omega), length]
    rfl
  · rw [List.getElem?_append_right (by omega), length]
    rfl
  · rw [report_of_find? (s := mapSignature) (number ▸ find?_mmap)] at hd
    rcases asks_signedReport (T := { asks := (· = .typeNamed "unsigned long") }) asked _ hd
      with h | h <;> cases h

/-- Any other mapping shows what the process answers for the descriptor. -/
theorem decode_backed {t : Target} {process : ProcessView} (number : call.number = 9)
    (known : (Reading.typeNamed "unsigned long").on ⟨t, process⟩ = .ok type)
    (descriptor : call.register 4 = .ok f) (offset : call.register 5 = .ok p)
    (backed : ¬ ∃ flags, call.register 3 = .ok flags ∧ flags &&& 0x20 ≠ 0) {text : String}
    (tells : process.Tells f text) :
    (decode t process config call).lines[4]? =
        some ⟨"fd", "unsigned long: " ++ hexMarked f.toNat ++ " -> " ++ text, 1⟩ ∧
    (decode t process config call).lines[5]? =
        some ⟨"pgoff", "unsigned long: " ++ hexMarked p.toNat, 1⟩ := by
  have sound := Signature.sound_of_find? find?_mmap
  have done := firstArguments_mmap_done config call known
  have length := length_firstArguments sound (k := 4) (by decide) done
  have state := mt (anonymous_mmap config call known).1 backed
  rw [lines_of_mmap number,
    allArguments_of_file known descriptor offset (Bool.not_eq_true _ ▸ state) tells]
  constructor <;> rw [List.getElem?_append_right (by omega), length] <;> rfl

/-- A process that aborts ends the report behind the flags. -/
theorem decode_backed_aborted {t : Target} {process : ProcessView} (number : call.number = 9)
    (known : (Reading.typeNamed "unsigned long").on ⟨t, process⟩ = .ok type)
    (descriptor : call.register 4 = .ok f)
    (backed : ¬ ∃ flags, call.register 3 = .ok flags ∧ flags &&& 0x20 ≠ 0) {a : Abort}
    (aborted : process.file f.toUInt32.toInt32 = .error (.abort a)) :
    (decode t process config call).lines.length = 4 ∧
    (decode t process config call).diagnostics = ["Exception in decode: " ++ a.message] := by
  have sound := Signature.sound_of_find? find?_mmap
  have done := firstArguments_mmap_done config call known
  have state := Bool.not_eq_true _ ▸ mt (anonymous_mmap config call known).1 backed
  have length := length_firstArguments sound (k := 4) (by decide) done
  have all := run_allArguments_mmap config call known
  rw [descriptor, run_backing_aborted known] at all
  · have found : Signature.find? call.number = some mapSignature := number ▸ find?_mmap
    have ending : (conclusion config mapSignature
        ((allArguments config call mapSignature).run ⟨t, process⟩)).on ⟨t, process⟩ = .error a :=
      conclusion_of_aborted (congrArg Progress.abort all)
    unfold decode
    rw [report_of_find? found, run_signedReport, ending, all]
    exact ⟨by rw [concluded_lines, List.append_nil, length], rfl⟩
  · rw [state, valueNote_of_asksFile (.inr ⟨rfl, rfl, rfl⟩)]
    exact on_fileNote_of_abort aborted

/-- The descriptor and the offset of `mmap` on any target that knows their type and on any process.
With the bit of a mapping without a file both are ignored, and the process is not asked; in every
other case, also when the flags give no value, the descriptor is followed by what the process
answers for its low half, and only an abort of that leaves no line. -/
theorem decode_mmap {t : Target} (known : t.typeNamed "unsigned long" = .ok type)
    (config : Config) (number : call.number = 9) (descriptor : call.register 4 = .ok f)
    (offset : call.register 5 = .ok p) (process : ProcessView) :
    ((∃ flags, call.register 3 = .ok flags ∧ flags &&& 0x20 ≠ 0) →
      (decode t process config call).lines[4]? = some ⟨"fd",
        "unsigned long: " ++ hexMarked f.toNat ++ " (ignored due to MAP_ANONYMOUS)", 1⟩ ∧
      (decode t process config call).lines[5]? = some ⟨"pgoff",
        "unsigned long: " ++ hexMarked p.toNat ++ " (ignored due to MAP_ANONYMOUS)", 1⟩ ∧
      ∀ d, .file d ∉ (report config call).asked ⟨t, process⟩) ∧
    ((¬ ∃ flags, call.register 3 = .ok flags ∧ flags &&& 0x20 ≠ 0) →
      (∀ view, process.file f.toUInt32.toInt32 = .ok view →
        (decode t process config call).lines[4]? = some ⟨"fd",
          "unsigned long: " ++ hexMarked f.toNat ++ " -> " ++ view.text, 1⟩) ∧
      (∀ e, process.file f.toUInt32.toInt32 = .error (.failure e) →
        (decode t process config call).lines[4]? = some ⟨"fd",
          "unsigned long: " ++ hexMarked f.toNat ++ " -> " ++
            ("cannot resolve: " ++ e.message), 1⟩) ∧
      ((∀ a, process.file f.toUInt32.toInt32 ≠ .error (.abort a)) →
        (decode t process config call).lines[5]? = some ⟨"pgoff",
          "unsigned long: " ++ hexMarked p.toNat, 1⟩) ∧
      ∀ a, process.file f.toUInt32.toInt32 = .error (.abort a) →
        (decode t process config call).lines.length = 4 ∧
        (decode t process config call).diagnostics = ["Exception in decode: " ++ a.message]) := by
  refine ⟨decode_anonymous number known descriptor offset, fun backed => ?_⟩
  have told := @decode_backed config call type f p t process number known descriptor offset backed
  refine ⟨fun view found => (told (.found view found)).1,
    fun e failed => (told (.failed e failed)).1, fun quiet => ?_,
    fun a => decode_backed_aborted number known descriptor backed⟩
  rcases answer : process.file f.toUInt32.toInt32 with (e | a) | view
  · exact (told (.failed e answer)).2
  · exact absurd answer (quiet a)
  · exact (told (.found view answer)).2

/-- A process that aborts when its files are looked at. -/
def fileless : ProcessView where
  file := fun _ => Attempt.abort .unexplained
  areas := .ok []

/-- `mmap` of a descriptor and an offset, with these flags. -/
def fileCall (flags : Option String) : Invocation :=
  ⟨9, .ofList [some "0", some "1000", some "3", flags, some "ffffffff", some "2"], 0x1000⟩

/-- The process that aborts is not asked for a mapping without a file, and it ends the report of a
mapping of which the flags are missing. -/
theorem mmap_fileless :
    (decode (.catalogued fun _ => .ok 0) fileless {} (fileCall (some "22"))).lines[4]? =
        some ⟨"fd", "unsigned long: 0xffffffff (ignored due to MAP_ANONYMOUS)", 1⟩ ∧
      (decode (.catalogued fun _ => .ok 0) fileless {} (fileCall none)).lines.length = 4 ∧
      (decode (.catalogued fun _ => .ok 0) .absent {} (fileCall none)).lines[4]? =
        some ⟨"fd", "unsigned long: 0xffffffff -> cannot resolve: no process is known", 1⟩ := by
  obtain ⟨type, found⟩ : ∃ type, CType.builtin? "unsigned long" = some type :=
    Option.isSome_iff_exists.1 (by decide +kernel)
  have known : (Target.catalogued fun _ => .ok 0).typeNamed "unsigned long" = .ok type := by
    rw [Target.typeNamed_catalogued, found]
    rfl
  have backed : ¬ ∃ flags, (fileCall none).register 3 = .ok flags ∧ flags &&& 0x20 ≠ 0 := by
    rintro ⟨flags, h, -⟩
    cases h
  have number : ∀ flags, (fileCall flags).number = 9 := fun _ => rfl
  have descriptor : ∀ flags, (fileCall flags).register 4 = .ok 0xffffffff := fun _ => rfl
  have offset : ∀ flags, (fileCall flags).register 5 = .ok 2 := fun _ => rfl
  obtain ⟨ignored, -⟩ := decode_mmap known {} (number (some "22")) (descriptor _) (offset _)
    fileless
  obtain ⟨-, cut⟩ := decode_mmap known {} (number none) (descriptor _) (offset _) fileless
  obtain ⟨-, told⟩ := decode_mmap known {} (number none) (descriptor _) (offset _) .absent
  exact ⟨(ignored ⟨0x22, rfl, by decide⟩).1, ((cut backed).2.2.2 _ rfl).1,
    (told backed).2.1 _ rfl⟩

end SyscallDecode.Decode
