/-
When a memory map is appended: if it is wanted, nothing was aborted, and the call either changes
mappings or has a pointer behind which something was missed. Missed is what a failing read should
have shown, and an overlay that the call itself does not allow.
-/
import SyscallDecode.Proofs.Decode.Missed
import SyscallDecode.Proofs.Decode.Report

namespace SyscallDecode.Decode

variable {ctx : Context} {w : World} {arg : Argument} {value : UInt64}

/-! ## Overlays and processes -/

/-- What an overlay may ask for: types and memory of the call. -/
def overlayTerms (space : AddressSpace) : Terms where
  asks
    | .typeNamed _ => True
    | .read s _ _ => s = space
    | _ => False
  stops := fun stop => ∃ f : Failure, f.OfCall ∧ stop = .failure f

theorem overlayTerms_reads (space : AddressSpace) : (overlayTerms space).Reads space :=
  fun _ _ => rfl

theorem overlayTerms_failsByCall (space : AddressSpace) : (overlayTerms space).FailsByCall :=
  fun f hf => ⟨f, hf, rfl⟩

theorem ofRole_within_overlayTerms (ctx : Context) (arg : Argument) (value : UInt64) :
    (Overlay.ofRole ctx.space ctx.config ctx.call arg value).Within (overlayTerms ctx.space) :=
  Overlay.ofRole_within trivial (overlayTerms_reads _) (fun _ => trivial)
    (overlayTerms_failsByCall _) _ _ _ _

theorem pointerText_within_overlayTerms (ctx : Context) (arg : Argument) (value : UInt64) :
    (pointerText ctx arg value).Within (overlayTerms ctx.space) :=
  pointerText_within trivial ctx (overlayTerms_reads _) (fun _ => trivial)
    (overlayTerms_failsByCall _) _ _

/-- An overlay that fails though no read does fails by the call: a register that gives no value, or
a type that is unknown or no scalar. -/
theorem OverlayFails.ofCall (kind : w.target.FailsInKind) {f : Failure}
    (h : OverlayFails w ctx arg value f) : f.OfCall := by
  have within := ofRole_within_overlayTerms ctx arg value
  rcases within.stop_or_answer (Reading.stop?_eq_some.2 h.fails) with ⟨f', hf, he⟩ | ⟨q, hq, answer⟩
  · cases he
    exact hf
  · have asks := within.asks_of_mem q hq
    cases q with
    | typeNamed name =>
      obtain ⟨d, hd⟩ := kind.types _ _ answer
      cases hd
      trivial
    -- a read that answers like this would be a failing one
    | read space address length => exact absurd ⟨_, hq, _, answer⟩ h.reads
    | symbol name => cases asks
    | file descriptor => cases asks
    | areas => cases asks

/-- A course that asks for types and memory only takes no notice of the process. -/
theorem congr_of_overlayTerms {ε α : Type} [Ending ε] {space : AddressSpace} {c : Course ε α}
    (h : c.Within (overlayTerms space)) (t : Target) (process process' : ProcessView) :
    c.on ⟨t, process⟩ = c.on ⟨t, process'⟩ ∧ c.asked ⟨t, process⟩ = c.asked ⟨t, process'⟩ := by
  apply Course.on_congr
  intro q hq
  have asks := h.asks_of_mem q hq
  cases q with
  | typeNamed name => rfl
  | read space address length => rfl
  | symbol name => cases asks
  | file descriptor => cases asks
  | areas => cases asks

theorem OverlayFails.of_process {t : Target} {process process' : ProcessView} {f : Failure}
    (h : OverlayFails ⟨t, process⟩ ctx arg value f) :
    OverlayFails ⟨t, process'⟩ ctx arg value f := by
  obtain ⟨⟨nonnull, type, known, text, shown⟩, fails, reads⟩ := h
  have rendered := Reading.rendered_within (overlayTerms_reads ctx.space) type value
  have overlay := ofRole_within_overlayTerms ctx arg value
  rw [(congr_of_overlayTerms rendered t process process').1] at shown
  rw [(congr_of_overlayTerms overlay t process process').1] at fails
  rw [(congr_of_overlayTerms overlay t process process').2] at reads
  exact ⟨⟨nonnull, type, known, text, shown⟩, fails, reads⟩

/-- What an argument misses is missed whatever the process is. -/
theorem misses_world {t : Target} {process : ProcessView} {register : Except Failure UInt64} :
    Misses ⟨t, process⟩ ctx arg register ↔ Misses t.world ctx arg register := by
  unfold Misses
  refine and_congr_right fun _ => exists_congr fun value => and_congr_right fun _ => ?_
  have pointer := pointerText_within_overlayTerms ctx arg value
  rw [(congr_of_overlayTerms pointer t process .absent).2]
  exact or_congr_right (exists_congr fun f => ⟨.of_process, .of_process⟩)

/-! ## The memory map -/

variable {config : Config} {call : Invocation} {sig : Signature}

/-- A report has a memory map when nothing was aborted and one is wanted and due. -/
theorem isSome_memoryMap_signedReport :
    ((signedReport config call sig).run w).memoryMap.isSome = true ↔
      ((signedReport config call sig).run w).diagnostics = [] ∧ config.memoryMap = true ∧
        (sig.changesMappings = true ∨
          ((allArguments config call sig).run w).state.missed = true) := by
  rw [run_signedReport, concluded_diagnostics_eq_nil]
  cases done : ((allArguments config call sig).run w).abort with
  | some a =>
    rw [conclusion_of_aborted done]
    simp [concluded]
  | none =>
    rw [conclusion_of_done done, on_memoryMap]
    split
    · next due =>
      rw [Bool.and_eq_true, Bool.or_eq_true] at due
      cases MemoryMap.report w.process config.pageSize <;> simp [concluded, Except.map, due]
    · next undue =>
      rw [Bool.and_eq_true, Bool.or_eq_true] at undue
      simp [concluded, undue]

/-- The memory map of a report is the block of the process. -/
theorem memoryMap_signedReport {text : String}
    (h : ((signedReport config call sig).run w).memoryMap = some text) :
    MemoryMap.report w.process config.pageSize = .ok text := by
  rw [run_signedReport] at h
  cases done : ((allArguments config call sig).run w).abort with
  | some a => rw [conclusion_of_aborted done] at h; cases h
  | none =>
    rw [conclusion_of_done done, on_memoryMap] at h
    split at h
    · cases hm : MemoryMap.report w.process config.pageSize with
      | error a => rw [hm] at h; cases h
      | ok block => rw [hm] at h; cases h; rfl
    · cases h

/-! ## When a memory map is appended -/

theorem changesMappings_iff (sig : Signature) :
    sig.changesMappings = true ↔ sig.name ∈ ["mmap", "munmap", "mremap", "remap_file_pages"] :=
  List.contains_iff_mem

/-- All reads behind a pointer are reads of user memory of the call. -/
theorem exists_misses_pointerText {t : Target} :
    (∃ q ∈ (pointerText ctx arg value).asked t.world, t.world.Misses q) ↔
      ∃ address length stop,
        .read ctx.space address length ∈ (pointerText ctx arg value).asked t.world ∧
          t.read ctx.space address length = .error stop := by
  constructor
  · rintro ⟨q, hq, miss⟩
    have asks := (pointerText_within_overlayTerms ctx arg value).asks_of_mem q hq
    cases q with
    | read space address length =>
      obtain rfl : space = ctx.space := asks
      obtain ⟨stop, failed⟩ := miss
      exact ⟨address, length, stop, hq, failed⟩
    | _ => cases miss
  · rintro ⟨address, length, stop, hq, failed⟩
    exact ⟨_, hq, stop, failed⟩

/-- After the arguments of a known call something was missed if a pointer among them did. -/
theorem missed_allArguments {t : Target} (kind : t.FailsInKind) {process : ProcessView}
    (h : sig.Sound)
    (done : ((allArguments config call sig).run ⟨t, process⟩).abort = none) :
    ((allArguments config call sig).run ⟨t, process⟩).state.missed = true ↔
      ∃ a ∈ sig.arguments, Misses t.world ⟨config, call⟩ a (call.register a.index) := by
  unfold allArguments at done ⊢
  rw [missed_of_leavesAll kind (leavesAll_arguments done)]
  constructor
  · rintro (h' | ⟨⟨a, register⟩, hb, miss⟩)
    · cases h'
    · obtain ⟨ha, rfl⟩ := (Invocation.mem_bind h).1 hb
      exact ⟨a, ha, misses_world.1 miss⟩
  · rintro ⟨a, ha, miss⟩
    exact .inr ⟨_, (Invocation.mem_bind h).2 ⟨ha, rfl⟩, misses_world.2 miss⟩

theorem diagnostics_of_kind {t : Target} (kind : t.FailsInKind) {process : ProcessView}
    (files : ∀ fd a, process.file fd ≠ .error (.abort a))
    (areas : ∀ a, process.areas ≠ .error (.abort a)) :
    (decode t process config call).diagnostics = [] := by
  rw [diagnostics_decode]
  intro q hq a ha
  rcases asks_report config call _ q hq with asks | rfl
  · cases q with
    | typeNamed name =>
      obtain ⟨d, hd⟩ := kind.types _ _ ha
      cases hd
    | read space address length =>
      obtain ⟨_, _, hd⟩ := kind.reads _ _ _ _ ha
      cases hd
    | file descriptor => exact files descriptor a ha
    | symbol name => cases asks
    | areas => cases asks
  · exact areas a ha

/-- Where nothing but types and memory fails, a report has a memory map exactly when nothing was
aborted, one is wanted, and the call changes mappings or one of its pointers misses something: a
read of user memory behind it fails, or its overlay fails by the call itself. Neither descriptors
nor anything else of the process matter. -/
theorem decode_memoryMap {t : Target} (kind : t.FailsInKind) (process : ProcessView)
    (config : Config) (call : Invocation) :
    ((∀ fd a, process.file fd ≠ .error (.abort a)) → (∀ a, process.areas ≠ .error (.abort a)) →
      (decode t process config call).diagnostics = []) ∧
    ((decode t process config call).memoryMap.isSome = true ↔
      (decode t process config call).diagnostics = [] ∧ config.memoryMap = true ∧
        ∃ s, Signature.find? call.number = some s ∧
          (s.name ∈ ["mmap", "munmap", "mremap", "remap_file_pages"] ∨
            ∃ a ∈ s.arguments, a.isPointer = true ∧ ∃ v, call.register a.index = .ok v ∧
              ((∃ address length stop,
                  .read (.user call.root) address length ∈
                    (pointerText ⟨config, call⟩ a v).asked t.world ∧
                  t.read (.user call.root) address length = .error stop) ∨
                ∃ f, OverlayFails t.world ⟨config, call⟩ a v f))) ∧
    (∀ a v f, OverlayFails t.world ⟨config, call⟩ a v f → f.OfCall) ∧
    (∀ text, (decode t process config call).memoryMap = some text →
      MemoryMap.report process config.pageSize = .ok text) := by
  refine ⟨diagnostics_of_kind kind, ?_, fun a v f h => h.ofCall kind, fun text h => ?_⟩
  · cases known : Signature.find? call.number with
    | none =>
      unfold decode
      rw [report_of_not_find? known]
      simp [bareReport]
    | some s =>
      have sound := Signature.sound_of_find? known
      unfold decode
      rw [report_of_find? known, isSome_memoryMap_signedReport]
      refine and_congr_right fun quiet => and_congr_right fun wanted => ?_
      rw [changesMappings_iff, missed_allArguments kind sound (abort_of_diagnostics quiet)]
      simp only [Option.some.injEq, exists_eq_left', Misses, exists_misses_pointerText]
      rfl
  · cases known : Signature.find? call.number with
    | none =>
      unfold decode at h
      rw [report_of_not_find? known] at h
      cases h
    | some s =>
      unfold decode at h
      rw [report_of_find? known] at h
      exact memoryMap_signedReport h

/-- `bind(3, 0x7000, ?)`, of which the length is missing. -/
def bindCall : Invocation :=
  ⟨49, .ofList [some "3", some "0x7000"], 0x1000⟩

/-- Though all memory can be read, a missing length asks for a memory map. -/
theorem isSome_memoryMap_bind :
    (Target.catalogued fun _ => .ok 0).FailsInKind ∧
      (decode (.catalogued fun _ => .ok 0) .absent {} bindCall).memoryMap.isSome = true := by
  have kind : (Target.catalogued fun _ => .ok 0).FailsInKind := by
    constructor
    · intro name stop h
      rw [Target.typeNamed_catalogued] at h
      generalize CType.builtin? name = type at h
      cases type <;> cases h
      exact ⟨name, rfl⟩
    · intro space address length stop h
      cases h
  have known : (Signature.find? bindCall.number).isSome := by decide
  have declared : (⟨1, "umyaddr", "struct sockaddr", true, .read, .socketAddress (.inRegister 2)⟩ :
      Argument) ∈ ((Signature.find? bindCall.number).get known).arguments := by
    decide +kernel +revert
  obtain ⟨type, found⟩ : ∃ type, CType.builtin? "struct sockaddr" = some type :=
    Option.isSome_iff_exists.1 (by decide +kernel)
  have named : (Reading.typeNamed "struct sockaddr").on
      (Target.catalogued fun _ => .ok 0).world = .ok type := by
    change (Target.catalogued _).typeNamed _ = _
    rw [Target.typeNamed_catalogued, found]
    rfl
  obtain ⟨quiet, isSome, -, -⟩ := decode_memoryMap kind .absent {} bindCall
  refine ⟨kind, isSome.2 ⟨quiet ?_ ?_, rfl, _, (Option.some_get known).symm, .inr ?_⟩⟩
  · intro fd a h
    cases h
  · intro a h
    cases h
  have length : bindCall.register 1 = .ok 0x7000 := rfl
  refine ⟨_, declared, rfl, 0x7000, length, .inr ⟨.missingRegister 2, ?_⟩⟩
  · constructor
    · exact ⟨by decide, type, named, _, rfl⟩
    · rfl
    · rintro ⟨q, hq, -⟩
      cases hq

end SyscallDecode.Decode
