/-
What decoding looks at. Memory is read in the space of the call's own root only, and only through
pointers that are not null: reports of two targets with the same types are equal when that memory
is, and without such a pointer whatever memory is.
-/
import SyscallDecode.Proofs.Decode.Report

namespace SyscallDecode.Decode

variable {config : Config} {call : Invocation} {s : Signature} {w : World}

/-- Two targets give the same report on a process when they answer alike what is asked. -/
theorem decode_congr {t t' : Target} {process : ProcessView}
    (h : ∀ q ∈ (report config call).asked ⟨t, process⟩,
      World.answer ⟨t, process⟩ q = World.answer ⟨t', process⟩ q) :
    decode t process config call = decode t' process config call :=
  ((report config call).run_congr h).1

/-! ## Arguments without memory -/

/-- Terms without memory. -/
def blindTerms : Terms where
  asks
    | .typeNamed _ | .file _ => True
    | _ => False

theorem argumentText_within_blindTerms (ctx : Context) (s : State) {arg : Argument}
    {register : Except Failure UInt64}
    (h : arg.isPointer → ∀ v, register = .ok v → v = 0) :
    (argumentText ctx s arg register).Within blindTerms := by
  unfold argumentText
  split
  · next value =>
    split
    · next pointer =>
      rw [h pointer value rfl, pointerText_zero]
      exact .bind (.pure _) fun _ => .pure _
    · exact valueText_within (fun _ => trivial) (fun _ => trivial) trivial _ _ _
  · exact .pure _

/-- Without a pointer to something, a report asks for no memory. -/
theorem asks_blindTerms (h : s.Sound)
    (null : ∀ a ∈ s.arguments, a.isPointer → ∀ v, call.register a.index = .ok v → v = 0) :
    ∀ q ∈ (allArguments config call s).asked w, blindTerms.asks q := by
  apply arguments_asks_of_within
  rintro ⟨a, register⟩ hb state
  obtain ⟨ha, rfl⟩ := (Invocation.mem_bind h).1 hb
  exact argumentText_within_blindTerms _ _ fun pointer v hv => null a ha pointer v hv

/-! ## Null pointers -/

/-- The line of a null pointer says so, unless an argument before it was aborted. -/
theorem line_of_null (known : Signature.find? call.number = some s) (t : Target)
    (process : ProcessView) {i : Nat} {a : Argument} (ha : s.arguments[i]? = some a)
    (pointer : a.isPointer) (null : call.register i = .ok 0) :
    (decode t process config call).lines[i]? =
        some ⟨a.displayName, a.pointerType ++ ": 0x0 (NULL)", 1⟩ ∨
      ((decode t process config call).lines.length ≤ i ∧
        (decode t process config call).diagnostics ≠ []) := by
  have told : (pointerText ⟨config, call⟩ a 0).on ⟨t, process⟩ =
      .ok ⟨a.pointerType ++ ": 0x0 (NULL)", false⟩ := by
    rw [pointerText_zero]
    rfl
  exact tells_of_pointer known ha pointer null told

/-! ## Two targets -/

/-- Decoding reads memory of its own root only and only through pointers that are not null. On one
process and with one set of types, targets that agree on that memory give one report; without a
pointer to something all of them do, and a null pointer is shown as such. -/
theorem decode_confined (t t' : Target) (process : ProcessView) (config : Config)
    (call : Invocation) (types : ∀ name, t.typeNamed name = t'.typeNamed name) :
    (∀ space address length,
      .read space address length ∈ (report config call).asked ⟨t, process⟩ →
        space = .user call.root) ∧
    ((∀ address length,
        t.read (.user call.root) address length = t'.read (.user call.root) address length) →
      decode t process config call = decode t' process config call) ∧
    ((∀ s, Signature.find? call.number = some s → ∀ a ∈ s.arguments, a.isPointer →
        ∀ v, call.register a.index = .ok v → v = 0) →
      decode t process config call = decode t' process config call) ∧
    (∀ s, Signature.find? call.number = some s → ∀ i a, s.arguments[i]? = some a → a.isPointer →
      call.register i = .ok 0 →
        (decode t process config call).lines[i]? =
            some ⟨a.displayName, a.pointerType ++ ": 0x0 (NULL)", 1⟩ ∨
          ((decode t process config call).lines.length ≤ i ∧
            (decode t process config call).diagnostics ≠ [])) := by
  refine ⟨fun space address length hq => ?_, fun reads => ?_, fun null => ?_,
    fun s known i a ha pointer hz => line_of_null known t process ha pointer hz⟩
  · rcases asks_report config call _ _ hq with h | h
    · exact h
    · cases h
  · apply decode_congr
    intro q hq
    rcases asks_report config call _ q hq with h | rfl
    · cases q with
      | typeNamed name => exact types name
      | read space address length => cases h; exact reads address length
      | file descriptor => rfl
      | symbol name => cases h
      | areas => cases h
    · rfl
  · cases known : Signature.find? call.number with
    | none => unfold decode; rw [report_of_not_find? known]; rfl
    | some s =>
      apply decode_congr
      rw [report_of_find? known]
      intro q hq
      rcases asks_signedReport (asks_blindTerms (Signature.sound_of_find? known)
        (null s known)) q hq with h | rfl
      · cases q with
        | typeNamed name => exact types name
        | file descriptor => rfl
        | read space address length => cases h
        | symbol name => cases h
        | areas => cases h
      · rfl

/-- A target that has the same byte everywhere under one root, and this one elsewhere. -/
def rooted (elsewhere : Attempt UInt8) : Target :=
  .catalogued fun space => if space = .user 0x1000 then .ok 65 else elsewhere

/-- `open(0x7000, ?, ?)`. -/
def openCall : Invocation :=
  ⟨2, .ofList [some "0x7000"], 0x1000⟩

/-- `write(1, 0, 5)`. -/
def nullWrite : Invocation :=
  ⟨1, .ofList [some "1", some "0", some "5"], 0x1000⟩

/-- `open` looks at its own root only, and `write` of a null pointer at no memory. -/
theorem confined_open_write :
    decode (rooted (.ok 0)) .absent {} openCall =
      decode (rooted (.abort .unexplained)) .absent {} openCall ∧
    decode (rooted (.ok 0)) .absent {} nullWrite =
      decode (.catalogued fun _ => .abort .unexplained) .absent {} nullWrite ∧
    ((decode (rooted (.ok 0)) .absent {} nullWrite).lines[1]? =
        some ⟨"buf", "const char __user *: 0x0 (NULL)", 1⟩ ∨
      ((decode (rooted (.ok 0)) .absent {} nullWrite).lines.length ≤ 1 ∧
        (decode (rooted (.ok 0)) .absent {} nullWrite).diagnostics ≠ [])) := by
  have known : (Signature.find? nullWrite.number).isSome := by decide
  have zero : ∀ a ∈ ((Signature.find? nullWrite.number).get known).arguments, a.isPointer →
      (nullWrite.register a.index).toOption = some 0 := by
    decide +kernel +revert
  obtain ⟨-, own, -, -⟩ := decode_confined (rooted (.ok 0)) (rooted (.abort .unexplained)) .absent
    {} openCall fun _ => rfl
  obtain ⟨-, -, blind, null⟩ := decode_confined (rooted (.ok 0))
    (.catalogued fun _ => .abort .unexplained) .absent {} nullWrite fun _ => rfl
  refine ⟨own fun address length => ?_, blind fun s hs a ha pointer v hv => ?_,
    null _ (Option.some_get known).symm 1 _ rfl rfl rfl⟩
  · simp only [rooted, Target.catalogued, openCall, if_true]
  · obtain rfl : (Signature.find? nullWrite.number).get known = s :=
      Option.some_inj.1 ((Option.some_get known).trans hs)
    have read := zero a ha pointer
    rw [hv] at read
    exact Option.some_inj.1 read

end SyscallDecode.Decode
