/-
Aborts. Decoding ends with a report whatever is answered. Without an abort among the answers it has
no diagnostic; with one it stops behind the last argument that was finished, and the lines of the
finished arguments are those of any other world that answers alike what was asked for them.
-/
import SyscallDecode.Proofs.Decode.Report

namespace SyscallDecode.Decode

variable {config : Config} {call : Invocation} {s : Signature} {w : World} {k : Nat}

/-! ## Cut reports -/

/-- The report ends behind the first `k` arguments, with the diagnostic of an abort. -/
structure CutAt (t : Target) (process : ProcessView) (config : Config) (call : Invocation)
    (s : Signature) (k : Nat) (a : Abort) : Prop where
  /-- The header is the usual one. -/
  header : (decode t process config call).header = s.name ++ ": " ++ s.prototype
  notices : (decode t process config call).notices = []
  /-- There is a line for each of the first arguments and for no other. -/
  length : (decode t process config call).lines.length = k
  names : (decode t process config call).lines.map Line.name =
    (s.arguments.take k).map Argument.displayName
  /-- These are the lines of every run in which the same is answered for these arguments. -/
  lines : ∀ (t' : Target) (process' : ProcessView),
    (∀ q ∈ (firstArguments config call s k).asked ⟨t, process⟩,
      World.answer ⟨t, process⟩ q = World.answer ⟨t', process'⟩ q) →
    (decode t process config call).lines = (decode t' process' config call).lines.take k
  memoryMap : (decode t process config call).memoryMap = none
  diagnostics : (decode t process config call).diagnostics =
    ["Exception in decode: " ++
      match a with
      | .because reason => reason
      | .unexplained => "unknown failure"]

theorem cutAt_of_conclusion {t : Target} {process : ProcessView} {a : Abort}
    (known : Signature.find? call.number = some s) (hk : k ≤ s.arguments.length)
    (done : ((firstArguments config call s k).run ⟨t, process⟩).abort = none)
    (lines : ((allArguments config call s).run ⟨t, process⟩).lines =
      ((firstArguments config call s k).run ⟨t, process⟩).lines)
    (ending : (conclusion config s ((allArguments config call s).run ⟨t, process⟩)).on
      ⟨t, process⟩ = .error a) :
    CutAt t process config call s k a := by
  have sound := Signature.sound_of_find? known
  have result : decode t process config call =
      concluded s ((firstArguments config call s k).run ⟨t, process⟩).lines (.error a) := by
    unfold decode
    rw [report_of_find? known, run_signedReport, lines, ending]
  constructor
  case header => rw [result]; rfl
  case notices => rw [result]; rfl
  case length => rw [result, concluded_lines, length_firstArguments sound hk done]
  case names => rw [result, concluded_lines, names_firstArguments sound done]
  case lines =>
    intro t' process' agree
    rw [result, concluded_lines]
    unfold decode
    rw [report_of_find? known, lines_signedReport, take_lines_of_agree sound hk done agree]
  case memoryMap => rw [result]; rfl
  case diagnostics => rw [result]; cases a <;> rfl

/-! ## Aborts -/

/-- There always is a report. It has a diagnostic exactly when an answer was an abort; an abort
during an argument cuts it behind the arguments before, and one of the mapped areas behind the
last. -/
theorem decode_cutAt (t : Target) (process : ProcessView) (config : Config) (call : Invocation) :
    ((decode t process config call).diagnostics = [] ↔
      ∀ q ∈ (report config call).asked ⟨t, process⟩, ∀ a,
        World.answer ⟨t, process⟩ q ≠ .error (.abort a)) ∧
    ∀ s, Signature.find? call.number = some s →
      (∀ k < s.arguments.length, ∀ a,
        (∀ q ∈ (firstArguments config call s k).asked ⟨t, process⟩, ∀ b,
          World.answer ⟨t, process⟩ q ≠ .error (.abort b)) →
        (∃ q ∈ (firstArguments config call s (k + 1)).asked ⟨t, process⟩,
          World.answer ⟨t, process⟩ q = .error (.abort a)) →
        CutAt t process config call s k a) ∧
      (∀ a, .areas ∈ (report config call).asked ⟨t, process⟩ →
        process.areas = .error (.abort a) →
        CutAt t process config call s s.arguments.length a) := by
  refine ⟨diagnostics_decode t process config call,
    fun s known => ⟨fun k hk a before during => ?_, fun a asked abort => ?_⟩⟩
  · have sound := Signature.sound_of_find? known
    have done := firstArguments_done_iff.2 before
    have aborted := (arguments_abort_iff _ a).2 during
    obtain ⟨abort, lines⟩ := run_allArguments_aborted_at sound hk done aborted
    exact cutAt_of_conclusion known (Nat.le_of_lt hk) done lines (conclusion_of_aborted abort)
  · have sound := Signature.sound_of_find? known
    rw [report_of_find? known, asked_signedReport] at asked
    -- arguments never ask for the areas, so that the question belongs to the memory map
    have mapped : .areas ∈ (conclusion config s
        ((allArguments config call s).run ⟨t, process⟩)).asked ⟨t, process⟩ :=
      (List.mem_append.1 asked).resolve_left fun h => arguments_asks _ _ h
    have done : ((allArguments config call s).run ⟨t, process⟩).abort = none := by
      cases h : ((allArguments config call s).run ⟨t, process⟩).abort with
      | none => rfl
      | some b => unfold conclusion at mapped; rw [h] at mapped; cases mapped
    rw [← firstArguments_length sound] at done
    refine cutAt_of_conclusion known (Nat.le_refl _) done (by rw [firstArguments_length sound]) ?_
    rw [firstArguments_length sound] at done
    rw [conclusion_of_done done] at mapped ⊢
    exact (memoryMap_abort_iff _ _ a).2 ⟨.areas, mapped, abort⟩

/-- A target that is gone when its memory is read. -/
def vanishing : Target :=
  .catalogued fun _ => Attempt.abort (.because "target is gone")

/-- `write(1, 0x7000, 5)`. -/
def writeCall : Invocation :=
  ⟨1, .ofList [some "0x1", some "0x7000", some "5"], 0x1000⟩

/-- `munmap(0x7000, ?)`. -/
def munmapCall : Invocation :=
  ⟨11, .ofList [some "0x7000"], 0x1000⟩

/-- The buffer of `write` cuts the report behind the descriptor, and the areas cut that of `munmap`
behind both arguments. -/
theorem cutAt_write_munmap :
    (∃ s, Signature.find? writeCall.number = some s ∧
      CutAt vanishing (.listed [] (.ok [])) {} writeCall s 1 (.because "target is gone")) ∧
    (∃ s, Signature.find? munmapCall.number = some s ∧
      CutAt vanishing (.listed [] (.error (.abort .unexplained))) {} munmapCall s 2
        .unexplained) := by
  constructor
  · have known : (Signature.find? writeCall.number).isSome := by decide
    obtain ⟨-, cut⟩ := decode_cutAt vanishing (.listed [] (.ok [])) {} writeCall
    refine ⟨_, (Option.some_get known).symm,
      (cut _ (Option.some_get known).symm).1 1 (by decide +revert) _ ?_ ?_⟩
    · have first : (firstArguments {} writeCall ((Signature.find? writeCall.number).get known)
          1).asked ⟨vanishing, .listed [] (.ok [])⟩ = [.typeNamed "unsigned int", .file 1] := rfl
      intro q hq a ha
      rw [first] at hq
      simp only [List.mem_cons, List.not_mem_nil, or_false] at hq
      rcases hq with rfl | rfl <;> cases ha
    · have second : (firstArguments {} writeCall ((Signature.find? writeCall.number).get known)
          2).asked ⟨vanishing, .listed [] (.ok [])⟩ =
            [.typeNamed "unsigned int", .file 1, .typeNamed "const char",
              .read (.user 0x1000) 0x7000 1] := rfl
      rw [second]
      exact ⟨.read (.user 0x1000) 0x7000 1, by simp, rfl⟩
  · have known : (Signature.find? munmapCall.number).isSome := by decide
    have asked : (report {} munmapCall).asked
        ⟨vanishing, .listed [] (.error (.abort .unexplained))⟩ =
          [.typeNamed "unsigned long", .areas] := rfl
    obtain ⟨-, cut⟩ := decode_cutAt vanishing (.listed [] (.error (.abort .unexplained))) {}
      munmapCall
    refine ⟨_, (Option.some_get known).symm,
      (cut _ (Option.some_get known).symm).2 .unexplained ?_ rfl⟩
    rw [asked]
    simp

end SyscallDecode.Decode
