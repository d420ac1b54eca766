/-
The arguments of a call one after the other: what a list of them comes to is what its first part
comes to and then, unless that was aborted, what the rest does from the state left behind.
-/
import SyscallDecode.Proofs.Decode.Terms

namespace SyscallDecode.Decode

variable {ctx : Context} {s : State} {w : World}

/-! ## One argument -/

/-- What an argument leaves to the next one, in a world. -/
inductive Leaves (w : World) (ctx : Context) (s : State) (arg : Argument) :
    Except Failure UInt64 → State → Prop
  /-- A register without a value leaves nothing. -/
  | skipped (f : Failure) : Leaves w ctx s arg (.error f) s
  /-- A pointer leaves whether something was missed behind it. -/
  | pointer (value : UInt64) (text : Noted String) : arg.isPointer = true →
      (pointerText ctx arg value).on w = .ok text →
      Leaves w ctx s arg (.ok value) (s.noting text.missed)
  /-- A value without a type leaves why it has none. -/
  | untyped (value : UInt64) (f : Failure) : arg.isPointer = false →
      (Reading.typeNamed arg.type).on w = .error (.failure f) →
      Leaves w ctx s arg (.ok value) (s.noting f.isUnreadable)
  /-- A value with a type leaves what its role says. -/
  | typed (value : UInt64) (type : CType) : arg.isPointer = false →
      (Reading.typeNamed arg.type).on w = .ok type →
      Leaves w ctx s arg (.ok value) (s.afterValue arg value)

theorem leaves_of_argumentText {arg : Argument} {register : Except Failure UInt64} {text : String}
    {s' : State} (h : (argumentText ctx s arg register).on w = .ok (text, s')) :
    Leaves w ctx s arg register s' := by
  unfold argumentText at h
  cases register with
  | error f => cases h; exact .skipped f
  | ok value =>
    cases pointer : arg.isPointer with
    | true =>
      simp only [pointer, if_true] at h
      cases ht : (pointerText ctx arg value).on w with
      | error a => rw [Course.on_bind_error w ht] at h; cases h
      | ok noted =>
        rw [Course.on_bind_ok w ht] at h
        cases h
        exact .pointer value noted pointer ht
    | false =>
      simp only [pointer, Bool.false_eq_true, if_false] at h
      unfold valueText at h
      rcases ht : (Reading.typeNamed arg.type).on w with (f | a) | type
      · rw [Course.on_bind_ok w (Reading.on_settle_failure w ht)] at h
        cases h
        exact .untyped value f pointer ht
      · rw [Course.on_bind_error w (Reading.on_settle_abort w ht)] at h
        cases h
      · rw [Course.on_bind_ok w (Reading.on_settle_ok w ht)] at h
        dsimp only at h
        cases hn : (valueNote s.anonymous arg value).on w with
        | error a => rw [Course.on_bind_error w hn] at h; cases h
        | ok note =>
          rw [Course.on_bind_ok w hn] at h
          cases h
          exact .typed value type pointer ht

/-! ## One more argument -/

theorem run_arguments_cons_ok {arg : Argument} {register : Except Failure UInt64} {text : String}
    {s' : State} (h : (argumentText ctx s arg register).on w = .ok (text, s'))
    (rest : List (Argument × Except Failure UInt64)) :
    (arguments ctx s ((arg, register) :: rest)).run w =
      { (arguments ctx s' rest).run w with
        lines := argumentLine arg text :: ((arguments ctx s' rest).run w).lines } := by
  rw [arguments, Inquiry.run_bind, Course.run_ending, h]
  rfl

theorem run_arguments_cons_error {arg : Argument} {register : Except Failure UInt64} {a : Abort}
    (h : (argumentText ctx s arg register).on w = .error a)
    (rest : List (Argument × Except Failure UInt64)) :
    (arguments ctx s ((arg, register) :: rest)).run w = { state := s, abort := some a } := by
  rw [arguments, Inquiry.run_bind, Course.run_ending, h]
  rfl

theorem asked_arguments_cons_ok {arg : Argument} {register : Except Failure UInt64} {text : String}
    {s' : State} (h : (argumentText ctx s arg register).on w = .ok (text, s'))
    (rest : List (Argument × Except Failure UInt64)) :
    (arguments ctx s ((arg, register) :: rest)).asked w =
      (argumentText ctx s arg register).asked w ++ (arguments ctx s' rest).asked w := by
  rw [arguments, Inquiry.asked_bind, Course.run_ending, h]
  exact congrArg _ (List.append_nil _)

theorem asked_arguments_cons_error {arg : Argument} {register : Except Failure UInt64} {a : Abort}
    (h : (argumentText ctx s arg register).on w = .error a)
    (rest : List (Argument × Except Failure UInt64)) :
    (arguments ctx s ((arg, register) :: rest)).asked w =
      (argumentText ctx s arg register).asked w := by
  rw [arguments, Inquiry.asked_bind, Course.run_ending, h]
  exact List.append_nil _

/-- The first argument is asked for in any case. -/
theorem mem_asked_arguments_cons {arg : Argument} {register : Except Failure UInt64} {q : Question}
    (hq : q ∈ (argumentText ctx s arg register).asked w)
    (rest : List (Argument × Except Failure UInt64)) :
    q ∈ (arguments ctx s ((arg, register) :: rest)).asked w := by
  cases told : (argumentText ctx s arg register).on w with
  | error a => rwa [asked_arguments_cons_error told]
  | ok result =>
    rw [asked_arguments_cons_ok told]
    exact List.mem_append_left _ hq

/-- What arguments one after the other leave. -/
inductive LeavesAll (w : World) (ctx : Context) :
    State → List (Argument × Except Failure UInt64) → State → Prop
  | nil (s : State) : LeavesAll w ctx s [] s
  | cons {s s' s'' : State} {arg : Argument} {register : Except Failure UInt64}
      {rest : List (Argument × Except Failure UInt64)} : Leaves w ctx s arg register s' →
      LeavesAll w ctx s' rest s'' → LeavesAll w ctx s ((arg, register) :: rest) s''

/-- Arguments that are not aborted leave what each of them leaves to the next. -/
theorem leavesAll_arguments {bound : List (Argument × Except Failure UInt64)}
    (done : ((arguments ctx s bound).run w).abort = none) :
    LeavesAll w ctx s bound ((arguments ctx s bound).run w).state := by
  induction bound generalizing s with
  | nil => exact .nil s
  | cons head rest ih =>
    obtain ⟨arg, register⟩ := head
    cases ht : (argumentText ctx s arg register).on w with
    | error a => rw [run_arguments_cons_error ht] at done; cases done
    | ok result =>
      rw [run_arguments_cons_ok ht] at done ⊢
      exact .cons (leaves_of_argumentText ht) (ih done)

/-! ## What is asked -/

/-- Arguments ask nothing beyond the terms that each of them keeps to. -/
theorem arguments_asks_of_within {T : Terms} {bound : List (Argument × Except Failure UInt64)}
    (h : ∀ b ∈ bound, ∀ s, (argumentText ctx s b.1 b.2).Within T) :
    ∀ q ∈ (arguments ctx s bound).asked w, T.asks q := by
  induction bound generalizing s with
  | nil => intro q hq; cases hq
  | cons head rest ih =>
    obtain ⟨arg, register⟩ := head
    have first := (h _ List.mem_cons_self s).asks_of_mem (w := w)
    cases ht : (argumentText ctx s arg register).on w with
    | error a => rw [asked_arguments_cons_error ht]; exact first
    | ok result =>
      rw [asked_arguments_cons_ok ht]
      intro q hq
      rcases List.mem_append.1 hq with hq | hq
      · exact first q hq
      · exact ih (fun b hb => h b (List.mem_cons_of_mem _ hb)) q hq

theorem arguments_asks (bound : List (Argument × Except Failure UInt64)) :
    ∀ q ∈ (arguments ctx s bound).asked w, (terms ctx.call.root).asks q :=
  arguments_asks_of_within fun b _ s => argumentText_within ctx s b.1 b.2

/-- Arguments are aborted exactly by an abort among the answers to what they ask. -/
theorem arguments_abort_iff (bound : List (Argument × Except Failure UInt64)) (a : Abort) :
    ((arguments ctx s bound).run w).abort = some a ↔
      ∃ q ∈ (arguments ctx s bound).asked w, w.answer q = .error (.abort a) := by
  induction bound generalizing s with
  | nil =>
    constructor
    · intro h; cases h
    · rintro ⟨q, hq, -⟩; cases hq
  | cons head rest ih =>
    obtain ⟨arg, register⟩ := head
    have first := (argumentText_within ctx s arg register).abort_iff (w := w) terms_not_abort
      (a := a)
    cases h : (argumentText ctx s arg register).on w with
    | error b =>
      rw [run_arguments_cons_error h, asked_arguments_cons_error h, ← first,
        ← Telling.on_eq_error, h]
      simp
    | ok result =>
      rw [run_arguments_cons_ok h, asked_arguments_cons_ok h]
      -- the argument went through, so that no answer to it was an abort
      have none : ¬ ∃ q ∈ (argumentText ctx s arg register).asked w,
          w.answer q = .error (.abort a) := by
        rw [← first, Course.stop?_of_on_ok h]; simp
      simp only [List.mem_append, or_and_right, exists_or, none, false_or]
      exact ih

theorem abort_arguments_of_quiet (quiet : w.Quiet)
    (bound : List (Argument × Except Failure UInt64)) :
    ((arguments ctx s bound).run w).abort = none := by
  rw [Option.eq_none_iff_forall_ne_some]
  intro a ha
  obtain ⟨q, -, hq⟩ := (arguments_abort_iff bound a).1 ha
  exact quiet q a hq

/-! ## A first part and the rest -/

theorem run_arguments_append {xs : List (Argument × Except Failure UInt64)}
    (h : ((arguments ctx s xs).run w).abort = none)
    (ys : List (Argument × Except Failure UInt64)) :
    (arguments ctx s (xs ++ ys)).run w =
      { (arguments ctx ((arguments ctx s xs).run w).state ys).run w with
        lines := ((arguments ctx s xs).run w).lines ++
          ((arguments ctx ((arguments ctx s xs).run w).state ys).run w).lines } := by
  induction xs generalizing s with
  | nil => rfl
  | cons head rest ih =>
    obtain ⟨arg, register⟩ := head
    cases ht : (argumentText ctx s arg register).on w with
    | error a => rw [run_arguments_cons_error ht] at h; cases h
    | ok result =>
      rw [run_arguments_cons_ok ht] at h
      rw [List.cons_append, run_arguments_cons_ok ht, ih h, run_arguments_cons_ok ht]
      rfl

theorem asked_arguments_append {xs : List (Argument × Except Failure UInt64)}
    (h : ((arguments ctx s xs).run w).abort = none)
    (ys : List (Argument × Except Failure UInt64)) :
    (arguments ctx s (xs ++ ys)).asked w =
      (arguments ctx s xs).asked w ++
        (arguments ctx ((arguments ctx s xs).run w).state ys).asked w := by
  induction xs generalizing s with
  | nil => rfl
  | cons head rest ih =>
    obtain ⟨arg, register⟩ := head
    cases ht : (argumentText ctx s arg register).on w with
    | error a => rw [run_arguments_cons_error ht] at h; cases h
    | ok result =>
      rw [run_arguments_cons_ok ht] at h
      rw [List.cons_append, asked_arguments_cons_ok ht, ih h, asked_arguments_cons_ok ht,
        run_arguments_cons_ok ht, List.append_assoc]

theorem run_arguments_append_aborted {xs : List (Argument × Except Failure UInt64)} {a : Abort}
    (h : ((arguments ctx s xs).run w).abort = some a)
    (ys : List (Argument × Except Failure UInt64)) :
    (arguments ctx s (xs ++ ys)).run w = (arguments ctx s xs).run w := by
  induction xs generalizing s with
  | nil => cases h
  | cons head rest ih =>
    obtain ⟨arg, register⟩ := head
    cases ht : (argumentText ctx s arg register).on w with
    | error a => rw [List.cons_append, run_arguments_cons_error ht, run_arguments_cons_error ht]
    | ok result =>
      rw [run_arguments_cons_ok ht] at h
      rw [List.cons_append, run_arguments_cons_ok ht, ih h, run_arguments_cons_ok ht]

/-- An argument that is aborted leaves the lines before it, whatever arguments come after it. -/
theorem run_arguments_aborted_at {xs : List (Argument × Except Failure UInt64)}
    {x : Argument × Except Failure UInt64} {a : Abort}
    (done : ((arguments ctx s xs).run w).abort = none)
    (aborted : ((arguments ctx s (xs ++ [x])).run w).abort = some a)
    (ys : List (Argument × Except Failure UInt64)) :
    ((arguments ctx s (xs ++ x :: ys)).run w).abort = some a ∧
      ((arguments ctx s (xs ++ x :: ys)).run w).lines = ((arguments ctx s xs).run w).lines := by
  obtain ⟨arg, register⟩ := x
  rw [run_arguments_append done] at aborted
  rw [run_arguments_append done]
  cases ht : (argumentText ctx ((arguments ctx s xs).run w).state arg register).on w with
  | ok result => rw [run_arguments_cons_ok ht] at aborted; cases aborted
  | error b =>
    rw [run_arguments_cons_error ht] at aborted ⊢
    exact ⟨aborted, List.append_nil _⟩

/-! ## The lines -/

/-- Every argument has a line under its name, in order, as far as the decoding came. -/
theorem names_arguments (bound : List (Argument × Except Failure UInt64)) :
    ((arguments ctx s bound).run w).lines.map Line.name =
      (bound.map fun b => b.1.displayName).take ((arguments ctx s bound).run w).lines.length := by
  induction bound generalizing s with
  | nil => rfl
  | cons head rest ih =>
    obtain ⟨arg, register⟩ := head
    cases h : (argumentText ctx s arg register).on w with
    | error a => rw [run_arguments_cons_error h]; rfl
    | ok result =>
      rw [run_arguments_cons_ok h]
      simp [argumentLine, ih]

theorem length_arguments (bound : List (Argument × Except Failure UInt64)) :
    if ((arguments ctx s bound).run w).abort = none
    then ((arguments ctx s bound).run w).lines.length = bound.length
    else ((arguments ctx s bound).run w).lines.length < bound.length := by
  induction bound generalizing s with
  | nil => rfl
  | cons head rest ih =>
    obtain ⟨arg, register⟩ := head
    cases h : (argumentText ctx s arg register).on w with
    | error a => rw [run_arguments_cons_error h]; simp
    | ok result =>
      rw [run_arguments_cons_ok h]
      simpa using ih

theorem length_arguments_of_done {bound : List (Argument × Except Failure UInt64)}
    (h : ((arguments ctx s bound).run w).abort = none) :
    ((arguments ctx s bound).run w).lines.length = bound.length := by
  simpa [h] using @length_arguments ctx s w bound

/-- The line of the argument behind a first part is its text in the state left by that part. -/
theorem line_of_argument {xs ys : List (Argument × Except Failure UInt64)} {arg : Argument}
    {register : Except Failure UInt64} (h : ((arguments ctx s xs).run w).abort = none) :
    ((arguments ctx s (xs ++ (arg, register) :: ys)).run w).lines[xs.length]? =
      (((argumentText ctx ((arguments ctx s xs).run w).state arg register).on w).map
        Prod.fst).toOption.map (argumentLine arg) := by
  rw [run_arguments_append h, ← length_arguments_of_done h]
  cases ht : (argumentText ctx ((arguments ctx s xs).run w).state arg register).on w with
  | error a => rw [run_arguments_cons_error ht]; simp [Except.toOption, Except.map]
  | ok result => rw [run_arguments_cons_ok ht]; simp [Except.toOption, Except.map]

end SyscallDecode.Decode
