/-
The report of a call with a signature, told from what its arguments come to: the usual header, the
lines of the arguments, and behind them a memory map or the diagnostic of an abort.
-/
import SyscallDecode.Proofs.Decode.Prefix

namespace SyscallDecode

/-- The report has this line for an argument, unless an argument before it was aborted. -/
def Report.Tells (r : Report) (index : Nat) (line : Line) : Prop :=
  r.lines[index]? = some line ∨ (r.lines.length ≤ index ∧ r.diagnostics ≠ [])

namespace Decode

variable {config : Config} {call : Invocation} {s : Signature} {w : World}

/-! ## The memory map -/

theorem on_memoryMap (w : World) (config : Config) (due : Bool) :
    (memoryMap config due).on w =
      if config.memoryMap && due then (MemoryMap.report w.process config.pageSize).map some
      else .ok none := by
  unfold memoryMap MemoryMap.report
  split
  · rw [Course.on_bind, Reading.on_settle]
    have areas : Reading.areas.on w = w.process.areas := rfl
    rw [areas]
    cases w.process.areas.settle <;> rfl
  · rfl

theorem memoryMap_within (config : Config) (due : Bool) :
    (memoryMap config due).Within { asks := (· = .areas) } := by
  unfold memoryMap
  split
  · exact .bind (.settle trivial (.ask _ rfl)) fun _ => .pure _
  · exact .pure _

theorem memoryMap_abort_iff (config : Config) (due : Bool) (a : Abort) :
    (memoryMap config due).on w = .error a ↔
      ∃ q ∈ (memoryMap config due).asked w, w.answer q = .error (.abort a) := by
  rw [Telling.on_eq_error]
  exact (memoryMap_within config due).abort_iff fun _ h => h

/-! ## What follows the arguments -/

theorem conclusion_of_aborted {progress : Progress} {a : Abort} (h : progress.abort = some a) :
    (conclusion config s progress).on w = .error a := by
  unfold conclusion
  rw [h]
  rfl

theorem conclusion_of_done {progress : Progress} (h : progress.abort = none) :
    conclusion config s progress =
      memoryMap config (s.changesMappings || progress.state.missed) := by
  unfold conclusion
  rw [h]

theorem conclusion_abort_iff (progress : Progress) (a : Abort) :
    (conclusion config s progress).on w = .error a ↔
      progress.abort = some a ∨
        ∃ q ∈ (conclusion config s progress).asked w, w.answer q = .error (.abort a) := by
  cases h : progress.abort with
  | some b =>
    rw [conclusion_of_aborted h]
    have asked : (conclusion config s progress).asked w = [] := by
      unfold conclusion
      rw [h]
      rfl
    simp [asked]
  | none => simp only [conclusion_of_done h, memoryMap_abort_iff, reduceCtorEq, false_or]

section Concluded

variable (s) (lines : List Line) (ending : Except Abort (Option String))

@[simp] theorem concluded_notices : (concluded s lines ending).notices = [] := by
  cases ending <;> rfl

@[simp] theorem concluded_lines : (concluded s lines ending).lines = lines := by
  cases ending <;> rfl

theorem concluded_diagnostics_eq_nil :
    (concluded s lines ending).diagnostics = [] ↔ ∃ map, ending = .ok map := by
  cases ending <;> simp [concluded]

end Concluded

/-! ## The whole report -/

theorem report_of_find? (h : Signature.find? call.number = some s) :
    report config call = signedReport config call s := by
  unfold report
  rw [h]

theorem report_of_not_find? (h : Signature.find? call.number = none) :
    report config call = pure (bareReport call) := by
  unfold report
  rw [h]

theorem run_signedReport :
    (signedReport config call s).run w =
      concluded s ((allArguments config call s).run w).lines
        ((conclusion config s ((allArguments config call s).run w)).on w) := rfl

theorem asked_signedReport :
    (signedReport config call s).asked w = (allArguments config call s).asked w ++
      (conclusion config s ((allArguments config call s).run w)).asked w :=
  congrArg _ (List.append_nil _)

theorem lines_signedReport :
    ((signedReport config call s).run w).lines = ((allArguments config call s).run w).lines := by
  rw [run_signedReport, concluded_lines]

theorem lines_of_find? (known : Signature.find? call.number = some s) (t : Target)
    (process : ProcessView) :
    (decode t process config call).lines =
      ((allArguments config call s).run ⟨t, process⟩).lines := by
  unfold decode
  rw [report_of_find? known, lines_signedReport]

theorem memoryMap_of_find? (known : Signature.find? call.number = some s) (t : Target)
    (process : ProcessView) :
    (decode t process config call).memoryMap =
      ((signedReport config call s).run ⟨t, process⟩).memoryMap := by
  unfold decode
  rw [report_of_find? known]

/-- An abort among the first arguments ends the report with their lines, and with a diagnostic. -/
theorem decode_of_aborted (known : Signature.find? call.number = some s) {t : Target}
    {process : ProcessView} {k : Nat} {b : Abort}
    (aborted : ((firstArguments config call s k).run ⟨t, process⟩).abort = some b) :
    (decode t process config call).lines =
        ((firstArguments config call s k).run ⟨t, process⟩).lines ∧
      (decode t process config call).diagnostics ≠ [] := by
  have cut := run_allArguments_of_aborted aborted
  constructor
  · rw [lines_of_find? known, cut]
  · unfold decode
    rw [report_of_find? known, run_signedReport, cut, conclusion_of_aborted aborted]
    simp [concluded]

/-- The line of a pointer, once the arguments before it are decoded. -/
theorem line_of_pointer (known : Signature.find? call.number = some s) {i : Nat} {a : Argument}
    (ha : s.arguments[i]? = some a) (pointer : a.isPointer = true) {value : UInt64}
    (read : call.register i = .ok value) {t : Target} {process : ProcessView}
    (done : ((firstArguments config call s i).run ⟨t, process⟩).abort = none)
    {text : Noted String}
    (told : (pointerText ⟨config, call⟩ a value).on ⟨t, process⟩ = .ok text) :
    (decode t process config call).lines[i]? = some ⟨a.displayName, text.value, 1⟩ := by
  rw [lines_of_find? known,
    getElem?_lines_allArguments (Signature.sound_of_find? known) ha done, read]
  unfold argumentText
  simp only [pointer, if_true]
  rw [Course.on_bind_ok _ told]
  rfl

/-- A report has the line of a pointer, unless the abort of an argument before it came first. -/
theorem tells_of_pointer (known : Signature.find? call.number = some s) {i : Nat} {a : Argument}
    (ha : s.arguments[i]? = some a) (pointer : a.isPointer = true) {value : UInt64}
    (read : call.register i = .ok value) {t : Target} {process : ProcessView}
    {text : Noted String}
    (told : (pointerText ⟨config, call⟩ a value).on ⟨t, process⟩ = .ok text) :
    (decode t process config call).Tells i ⟨a.displayName, text.value, 1⟩ := by
  cases done : ((firstArguments config call s i).run ⟨t, process⟩).abort with
  | none => exact .inl (line_of_pointer known ha pointer read done told)
  | some b =>
    obtain ⟨lines, diagnostics⟩ := decode_of_aborted known done
    refine .inr ⟨?_, diagnostics⟩
    rw [lines]
    exact Nat.le_of_lt (length_firstArguments_lt done)

theorem ending_eq_error_iff (a : Abort) :
    (conclusion config s ((allArguments config call s).run w)).on w = .error a ↔
      ∃ q ∈ (signedReport config call s).asked w, w.answer q = .error (.abort a) := by
  rw [conclusion_abort_iff, abort_allArguments_iff, asked_signedReport]
  simp only [List.mem_append, or_and_right, exists_or]

/-- A report has a diagnostic exactly when an answer was an abort. -/
theorem diagnostics_signedReport :
    ((signedReport config call s).run w).diagnostics = [] ↔
      ∀ q ∈ (signedReport config call s).asked w, ∀ a, w.answer q ≠ .error (.abort a) := by
  rw [run_signedReport, concluded_diagnostics_eq_nil]
  constructor
  · rintro ⟨map, ending⟩ q hq a ha
    have aborted := (ending_eq_error_iff a).2 ⟨q, hq, ha⟩
    rw [ending] at aborted
    cases aborted
  · intro quiet
    cases ending : (conclusion config s ((allArguments config call s).run w)).on w with
    | ok map => exact ⟨map, rfl⟩
    | error a =>
      obtain ⟨q, hq, ha⟩ := (ending_eq_error_iff a).1 ending
      exact absurd ha (quiet q hq a)

/-- Without a diagnostic all arguments were decoded. -/
theorem abort_of_diagnostics (h : ((signedReport config call s).run w).diagnostics = []) :
    ((allArguments config call s).run w).abort = none := by
  cases aborted : ((allArguments config call s).run w).abort with
  | none => rfl
  | some a => rw [run_signedReport, conclusion_of_aborted aborted] at h; cases h

theorem diagnostics_decode (t : Target) (process : ProcessView) (config : Config)
    (call : Invocation) :
    (decode t process config call).diagnostics = [] ↔
      ∀ q ∈ (report config call).asked ⟨t, process⟩, ∀ a,
        World.answer ⟨t, process⟩ q ≠ .error (.abort a) := by
  unfold decode
  cases known : Signature.find? call.number with
  | some s => rw [report_of_find? known]; exact diagnostics_signedReport
  | none => rw [report_of_not_find? known]; simp [bareReport]

/-! ## Questions -/

/-- A report asks what its arguments ask, and perhaps for the areas. -/
theorem asks_signedReport {T : Terms}
    (h : ∀ q ∈ (allArguments config call s).asked w, T.asks q) :
    ∀ q ∈ (signedReport config call s).asked w, T.asks q ∨ q = .areas := by
  rw [asked_signedReport]
  intro q hq
  rcases List.mem_append.1 hq with hq | hq
  · exact .inl (h q hq)
  · right
    unfold conclusion at hq
    split at hq
    · cases hq
    · exact (memoryMap_within _ _).asks_of_mem q hq

theorem asks_report (config : Config) (call : Invocation) (w : World) :
    ∀ q ∈ (report config call).asked w, (terms call.root).asks q ∨ q = .areas := by
  cases known : Signature.find? call.number with
  | some s => rw [report_of_find? known]; exact asks_signedReport (arguments_asks _)
  | none => rw [report_of_not_find? known]; intro q hq; cases hq

end Decode

end SyscallDecode
