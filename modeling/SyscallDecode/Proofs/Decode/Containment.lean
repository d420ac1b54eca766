/-
What a process can change. Two processes that do not abort, one of which may know nothing, give two
reports that differ in nothing but the text behind a descriptor and the text of the memory map:
neither the other arguments nor whether there is a memory map depends on them. Two runs are followed
argument by argument; they leave the same state behind every one.
-/
import SyscallDecode.Proofs.Decode.MemoryMap
import SyscallDecode.Proofs.Decode.Values

namespace SyscallDecode

open SyscallDecode.Text

/-- A process that answers or fails, whatever it is asked. -/
structure ProcessView.Quiet (process : ProcessView) : Prop where
  file : ∀ fd a, process.file fd ≠ .error (.abort a)
  areas : ∀ a, process.areas ≠ .error (.abort a)

theorem ProcessView.Quiet.tells {process : ProcessView} (h : process.Quiet) (value : UInt64) :
    ∃ text, process.Tells value text := by
  rcases answer : process.file value.toUInt32.toInt32 with (f | a) | view
  · exact ⟨_, .failed f answer⟩
  · exact absurd answer (h.file _ a)
  · exact ⟨_, .found view answer⟩

theorem ProcessView.quiet_absent : ProcessView.absent.Quiet := by
  constructor
  · intro fd a h
    cases h
  · intro a h
    cases h

/-- There is a block, of the areas or of why there are none. -/
theorem ProcessView.Quiet.memoryMap {process : ProcessView} (h : process.Quiet)
    (pageSize : UInt64) : ∃ text, MemoryMap.report process pageSize = .ok text := by
  unfold MemoryMap.report
  rcases answer : process.areas with (f | a) | areas
  · exact ⟨_, rfl⟩
  · exact absurd answer (h.areas a)
  · exact ⟨_, rfl⟩

namespace Decode

variable {ctx : Context} {s : State} {t : Target} {P Q : ProcessView} {arg : Argument}
  {register : Except Failure UInt64}

/-! ## One argument on two processes -/

/-- Two texts of an argument: one and the same, or for a descriptor the same up to what each of two
processes tells of it. -/
inductive Alike (P Q : ProcessView) (arg : Argument) (register : Except Failure UInt64) :
    String → String → Prop
  | same (text : String) : Alike P Q arg register text text
  | told {value : UInt64} {x y : String} :
      arg.role = .descriptor ∨ arg.role = .mapBacking ∧ arg.name = "fd" →
      register = .ok value → P.Tells value x → Q.Tells value y →
      Alike P Q arg register (valueHead arg value ++ " -> " ++ x)
        (valueHead arg value ++ " -> " ++ y)

/-- An argument comes to the same on two processes: the same abort, or alike texts and one state. -/
inductive SameEnding (P Q : ProcessView) (arg : Argument) (register : Except Failure UInt64) :
    Except Abort (String × State) → Except Abort (String × State) → Prop
  | aborted (a : Abort) : SameEnding P Q arg register (.error a) (.error a)
  | decoded {x y : String} (s : State) : Alike P Q arg register x y →
      SameEnding P Q arg register (.ok (x, s)) (.ok (y, s))

theorem SameEnding.refl (ending : Except Abort (String × State)) :
    SameEnding P Q arg register ending ending := by
  cases ending with
  | error a => exact .aborted a
  | ok result => exact .decoded _ (.same _)

theorem descriptor_of_asksFile {anonymous : Bool} (h : arg.AsksFile anonymous) :
    arg.role = .descriptor ∨ arg.role = .mapBacking ∧ arg.name = "fd" :=
  h.imp_right fun ⟨role, _, name⟩ => ⟨role, name⟩

/-- A value is told of by its process only where it is a descriptor. -/
theorem valueText_sameEnding (quietP : P.Quiet) (quietQ : Q.Quiet) (value : UInt64) :
    SameEnding P Q arg (.ok value) ((valueText s arg value).on ⟨t, P⟩)
      ((valueText s arg value).on ⟨t, Q⟩) := by
  -- both processes run on one target, which either knows the type or does not
  have types : (Reading.typeNamed arg.type).on ⟨t, P⟩ = (Reading.typeNamed arg.type).on ⟨t, Q⟩ :=
    rfl
  rcases known : (Reading.typeNamed arg.type).on ⟨t, P⟩ with (f | a) | type
  · have unknown := types.symm.trans known
    unfold valueText
    rw [Course.on_bind_ok _ (Reading.on_settle_failure _ known),
      Course.on_bind_ok _ (Reading.on_settle_failure _ unknown)]
    exact .refl _
  · have unknown := types.symm.trans known
    unfold valueText
    rw [Course.on_bind_error _ (Reading.on_settle_abort _ known),
      Course.on_bind_error _ (Reading.on_settle_abort _ unknown)]
    exact .refl _
  · rw [on_valueText known, on_valueText (types.symm.trans known)]
    by_cases asks : arg.AsksFile s.anonymous
    · obtain ⟨x, tellsP⟩ := quietP.tells value
      obtain ⟨y, tellsQ⟩ := quietQ.tells value
      rw [valueNote_of_asksFile asks, on_fileNote_of_tells tellsP, on_fileNote_of_tells tellsQ]
      have told := Alike.told (descriptor_of_asksFile asks) rfl tellsP tellsQ
      rw [String.append_assoc, String.append_assoc] at told
      exact .decoded _ told
    · obtain ⟨note, silent⟩ := valueNote_of_not_asksFile asks value
      rw [silent]
      exact .refl _

theorem argumentText_sameEnding (quietP : P.Quiet) (quietQ : Q.Quiet) :
    SameEnding P Q arg register ((argumentText ctx s arg register).on ⟨t, P⟩)
      ((argumentText ctx s arg register).on ⟨t, Q⟩) := by
  cases register with
  | error f => exact .refl _
  | ok value =>
    cases pointer : arg.isPointer with
    | false =>
      rw [argumentText_of_value ctx pointer]
      exact valueText_sameEnding quietP quietQ value
    | true =>
      -- behind a pointer there are types and memory only, which both processes share
      have same := (congr_of_overlayTerms (pointerText_within_overlayTerms ctx arg value) t P Q).1
      unfold argumentText
      simp only [pointer, if_true, Course.on_bind, same]
      exact .refl _

/-! ## All arguments on two processes -/

/-- Arguments come to the same on two processes: one state, one ending, and alike lines. -/
structure SameProgress (P Q : ProcessView) (bound : List (Argument × Except Failure UInt64))
    (p q : Progress) : Prop where
  state : p.state = q.state
  abort : p.abort = q.abort
  length : p.lines.length = q.lines.length
  lines : ∀ (i : Nat) (l l' : Line), p.lines[i]? = some l → q.lines[i]? = some l' →
    ∃ arg register x y, bound[i]? = some (arg, register) ∧ l = argumentLine arg x ∧
      l' = argumentLine arg y ∧ Alike P Q arg register x y

theorem SameProgress.empty (bound : List (Argument × Except Failure UInt64)) (s : State)
    (abort : Option Abort) :
    SameProgress P Q bound { state := s, abort := abort } { state := s, abort := abort } :=
  ⟨rfl, rfl, rfl, fun _ _ _ h _ => by cases h⟩

theorem SameProgress.cons {bound : List (Argument × Except Failure UInt64)} {p q : Progress}
    {x y : String} (first : Alike P Q arg register x y) (h : SameProgress P Q bound p q) :
    SameProgress P Q ((arg, register) :: bound)
      { p with lines := argumentLine arg x :: p.lines }
      { q with lines := argumentLine arg y :: q.lines } := by
  refine ⟨h.state, h.abort, congrArg (· + 1) h.length, fun i l l' hl hl' => ?_⟩
  cases i with
  | zero =>
    cases hl
    cases hl'
    exact ⟨arg, register, x, y, rfl, rfl, rfl, first⟩
  | succ i => exact h.lines i l l' hl hl'

/-- Arguments come to the same on two processes, since each of them does. -/
theorem arguments_sameProgress (quietP : P.Quiet) (quietQ : Q.Quiet)
    (bound : List (Argument × Except Failure UInt64)) :
    SameProgress P Q bound ((arguments ctx s bound).run ⟨t, P⟩)
      ((arguments ctx s bound).run ⟨t, Q⟩) := by
  induction bound generalizing s with
  | nil => exact .empty _ _ _
  | cons head rest ih =>
    obtain ⟨arg, register⟩ := head
    have same := @argumentText_sameEnding ctx s t P Q arg register quietP quietQ
    generalize hp : (argumentText ctx s arg register).on ⟨t, P⟩ = endingP at same
    generalize hq : (argumentText ctx s arg register).on ⟨t, Q⟩ = endingQ at same
    cases same with
    | aborted a =>
      rw [run_arguments_cons_error hp, run_arguments_cons_error hq]
      exact .empty _ _ _
    | decoded s' alike =>
      rw [run_arguments_cons_ok hp, run_arguments_cons_ok hq]
      exact .cons alike ih

/-! ## The report on two processes -/

variable {config : Config} {call : Invocation} {sig : Signature}

/-- The memory map is there on both processes or on neither. -/
theorem memoryMap_sameEnding (t : Target) (quietP : P.Quiet) (quietQ : Q.Quiet) (config : Config)
    (due : Bool) :
    ∃ map map', (memoryMap config due).on ⟨t, P⟩ = .ok map ∧
      (memoryMap config due).on ⟨t, Q⟩ = .ok map' ∧ map.isSome = map'.isSome := by
  obtain ⟨text, hP⟩ := quietP.memoryMap config.pageSize
  obtain ⟨text', hQ⟩ := quietQ.memoryMap config.pageSize
  rw [on_memoryMap, on_memoryMap, hP, hQ]
  split
  · exact ⟨some text, some text', rfl, rfl, rfl⟩
  · exact ⟨none, none, rfl, rfl, rfl⟩

/-- What two reports share that differ in texts only. -/
structure SameFrame (r r' : Report) : Prop where
  header : r.header = r'.header
  notices : r.notices = r'.notices
  diagnostics : r.diagnostics = r'.diagnostics
  length : r.lines.length = r'.lines.length
  memoryMap : r.memoryMap.isSome = r'.memoryMap.isSome

theorem concluded_sameFrame (quietP : P.Quiet) (quietQ : Q.Quiet) {p q : Progress}
    {bound : List (Argument × Except Failure UInt64)} (same : SameProgress P Q bound p q) :
    SameFrame (concluded sig p.lines ((conclusion config sig p).on ⟨t, P⟩))
      (concluded sig q.lines ((conclusion config sig q).on ⟨t, Q⟩)) := by
  cases aborted : p.abort with
  | some a =>
    rw [conclusion_of_aborted aborted, conclusion_of_aborted (same.abort.symm.trans aborted)]
    exact ⟨rfl, rfl, rfl, same.length, rfl⟩
  | none =>
    rw [conclusion_of_done aborted, conclusion_of_done (same.abort.symm.trans aborted), same.state]
    obtain ⟨map, map', hP, hQ, isSome⟩ := memoryMap_sameEnding t quietP quietQ config
      (sig.changesMappings || q.state.missed)
    rw [hP, hQ]
    exact ⟨rfl, rfl, rfl, same.length, isSome⟩

theorem decode_sameFrame (quietP : P.Quiet) (quietQ : Q.Quiet) :
    SameFrame (decode t P config call) (decode t Q config call) := by
  unfold decode
  cases known : Signature.find? call.number with
  | none =>
    rw [report_of_not_find? known]
    exact ⟨rfl, rfl, rfl, rfl, rfl⟩
  | some sig =>
    rw [report_of_find? known, run_signedReport, run_signedReport]
    exact concluded_sameFrame quietP quietQ (arguments_sameProgress quietP quietQ _)

/-- A line is the same on both processes, or the line of a descriptor. -/
theorem lines_alike (quietP : P.Quiet) (quietQ : Q.Quiet) {i : Nat} {l l' : Line}
    (hl : (decode t P config call).lines[i]? = some l)
    (hl' : (decode t Q config call).lines[i]? = some l') :
    l = l' ∨ ∃ sig a x y, Signature.find? call.number = some sig ∧ sig.arguments[i]? = some a ∧
      l = argumentLine a x ∧ l' = argumentLine a y ∧ Alike P Q a (call.register i) x y := by
  cases known : Signature.find? call.number with
  | none =>
    unfold decode at hl hl'
    rw [report_of_not_find? known] at hl hl'
    exact .inl (Option.some_inj.1 (hl.symm.trans hl'))
  | some sig =>
    rw [lines_of_find? known] at hl hl'
    obtain ⟨a, register, x, y, hb, hx, hy, alike⟩ :=
      (arguments_sameProgress quietP quietQ _).lines i l l' hl hl'
    rw [call.getElem?_bind (Signature.sound_of_find? known)] at hb
    obtain ⟨_, ha, he⟩ := Option.map_eq_some_iff.1 hb
    cases he
    exact .inr ⟨sig, a, x, y, rfl, ha, hx, hy, alike⟩

/-- On one target, two processes that do not abort give two reports with the same header, notices,
diagnostics and number of lines, both with a memory map or both without. Every line is the same in
both, unless it is that of a descriptor or of the file behind a mapping: there both begin with the
type and the value, and differ only in what each process tells. -/
theorem decode_contained (t : Target) {P Q : ProcessView} (quietP : P.Quiet) (quietQ : Q.Quiet)
    (config : Config) (call : Invocation) :
    (decode t P config call).header = (decode t Q config call).header ∧
    (decode t P config call).notices = (decode t Q config call).notices ∧
    (decode t P config call).diagnostics = (decode t Q config call).diagnostics ∧
    (decode t P config call).lines.length = (decode t Q config call).lines.length ∧
    (decode t P config call).memoryMap.isSome = (decode t Q config call).memoryMap.isSome ∧
    ∀ i l l', (decode t P config call).lines[i]? = some l →
      (decode t Q config call).lines[i]? = some l' →
      l = l' ∨ ∃ sig a value x y,
        Signature.find? call.number = some sig ∧ sig.arguments[i]? = some a ∧
        (a.role = .descriptor ∨ sig.name = "mmap" ∧ a.name = "fd") ∧
        call.register i = .ok value ∧ P.Tells value x ∧ Q.Tells value y ∧
        l = ⟨a.displayName, a.type ++ ": " ++ hexMarked value.toNat ++ " -> " ++ x, 1⟩ ∧
        l' = ⟨a.displayName, a.type ++ ": " ++ hexMarked value.toNat ++ " -> " ++ y, 1⟩ := by
  have frame := @decode_sameFrame t P Q config call quietP quietQ
  refine ⟨frame.header, frame.notices, frame.diagnostics, frame.length, frame.memoryMap,
    fun i l l' hl hl' => ?_⟩
  rcases lines_alike quietP quietQ hl hl' with same | ⟨sig, a, x, y, known, ha, rfl, rfl, alike⟩
  · exact .inl same
  · cases alike with
    | same => exact .inl rfl
    | @told value x y role hv tellsP tellsQ =>
      right
      refine ⟨sig, a, value, x, y, known, ha, role.imp_right fun ⟨backing, name⟩ => ?_, hv,
        tellsP, tellsQ, rfl, rfl⟩
      have sound := Signature.sound_of_find? known
      exact ⟨(sound.mapBacking a (List.mem_of_getElem? ha) backing).1, name⟩

/-- A process with one open file and no areas. -/
def logging : ProcessView :=
  .listed [(1, .ok (.regular 1 (some "/var/log")))] (.ok [])

theorem quiet_logging : logging.Quiet := by
  constructor
  · intro fd a h
    unfold logging ProcessView.listed at h
    dsimp only [List.lookup] at h
    split at h <;> cases h
  · intro a h
    cases h

/-- `write(1, 0x7000, 5)` behind a log. -/
def logCall : Invocation :=
  ⟨1, .ofList [some "1", some "0x7000", some "5"], 0x1000⟩

/-- The report on an unreadable buffer is the same up to the open file, whether or not that is
known; both have a memory map, or neither has. -/
theorem contained_write :
    ProcessView.absent.Quiet ∧ logging.Quiet ∧
      (decode (.catalogued fun _ => .fail (.unreadable 0 "not mapped")) .absent {}
          logCall).memoryMap.isSome =
        (decode (.catalogued fun _ => .fail (.unreadable 0 "not mapped")) logging {}
          logCall).memoryMap.isSome := by
  obtain ⟨-, -, -, -, memoryMap, -⟩ := decode_contained
    (.catalogued fun _ => .fail (.unreadable 0 "not mapped")) ProcessView.quiet_absent
    quiet_logging {} logCall
  exact ⟨ProcessView.quiet_absent, quiet_logging, memoryMap⟩

end Decode

end SyscallDecode
