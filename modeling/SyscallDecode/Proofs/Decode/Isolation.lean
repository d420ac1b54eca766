/-
Arguments are decoded on their own. The line of an argument depends on its register, on the register
of its length, and for the file behind a mapping on the mapping flags: the only thing that one
argument leaves to a later one is whether a mapping without a file was asked for.
-/
import SyscallDecode.Proofs.Decode.Report

namespace SyscallDecode

/-! ## Two calls -/

namespace Overlay

theorem sibling_congr {call call' : Invocation} {index : Nat}
    (h : call.register index = call'.register index) :
    sibling call index = sibling call' index := by
  unfold sibling
  rw [h]

/-- What a role adds depends on no register but that of the length. -/
theorem ofRole_congr {call call' : Invocation} {arg : Argument}
    (h : ∀ l, arg.role.lengthIndex = some l → call.register l = call'.register l)
    (space : AddressSpace) (config : Config) (address : UInt64) :
    ofRole space config call arg address = ofRole space config call' arg address := by
  unfold ofRole
  cases role : arg.role with
  | buffer index =>
    have same := sibling_congr (h index (by rw [role]; rfl))
    simp only [buffer, same]
  | socketAddress length =>
    cases length with
    | inRegister index =>
      have same := sibling_congr (h index (by rw [role]; rfl))
      simp only [socketAddress, addressLength, same]
    | inMemory index =>
      have same := sibling_congr (h index (by rw [role]; rfl))
      simp only [socketAddress, addressLength, same]
    | absent => rfl
  | _ => rfl

end Overlay

namespace Decode

variable {config : Config} {call call' : Invocation} {w : World}

theorem argumentText_congr {arg : Argument} (root : call.root = call'.root)
    (h : ∀ l, arg.role.lengthIndex = some l → call.register l = call'.register l) (s : State)
    (register : Except Failure UInt64) :
    argumentText ⟨config, call⟩ s arg register = argumentText ⟨config, call'⟩ s arg register := by
  have overlays := Overlay.ofRole_congr h
  unfold argumentText pointerText pointeeText overlayText Context.space
  simp only [root, overlays]

theorem arguments_congr (root : call.root = call'.root)
    {bound : List (Argument × Except Failure UInt64)}
    (h : ∀ b ∈ bound, ∀ l, b.1.role.lengthIndex = some l → call.register l = call'.register l)
    (s : State) : arguments ⟨config, call⟩ s bound = arguments ⟨config, call'⟩ s bound := by
  induction bound generalizing s with
  | nil => rfl
  | cons head rest ih =>
    obtain ⟨arg, register⟩ := head
    have first := @argumentText_congr config _ _ arg root (h _ List.mem_cons_self) s register
    have later := ih fun b hb => h b (List.mem_cons_of_mem _ hb)
    simp only [arguments, first, later]

/-! ## What an argument leaves to the next -/

/-- Only the text of the file behind a mapping depends on the state. -/
theorem valueNote_congr {arg : Argument} {b b' : Bool} (h : arg.role = .mapBacking → b = b')
    (value : UInt64) : valueNote b arg value = valueNote b' arg value := by
  unfold valueNote
  cases role : arg.role with
  | mapBacking => rw [h role]
  | _ => rfl

theorem text_argumentText_congr {ctx : Context} {s s' : State} {arg : Argument}
    (h : arg.role = .mapBacking → s.anonymous = s'.anonymous)
    (register : Except Failure UInt64) :
    ((argumentText ctx s arg register).on w).map Prod.fst =
      ((argumentText ctx s' arg register).on w).map Prod.fst := by
  unfold argumentText
  cases register with
  | error f => rfl
  | ok value =>
    dsimp only
    split
    · simp only [Course.on_bind, Course.on_pure]
      cases (pointerText ctx arg value).on w <;> rfl
    · unfold valueText
      rw [valueNote_congr h value]
      simp only [Course.on_bind]
      cases ((Reading.typeNamed arg.type).settle).on w with
      | error a => rfl
      | ok ending =>
        cases ending with
        | error f => rfl
        | ok type =>
          simp only [Except.bind, Course.on_bind]
          cases (valueNote s'.anonymous arg value).on w <;> rfl

/-- Whether an argument asks for a mapping without a file. -/
def raisesAnonymous (w : World) (arg : Argument) (register : Except Failure UInt64) : Bool :=
  match register, (Reading.typeNamed arg.type).on w with
  | .ok value, .ok _ => !arg.isPointer && arg.role == .mapFlags && Flags.isAnonymous value
  | _, _ => false

theorem raisesAnonymous_of_role {arg : Argument} (h : arg.role ≠ .mapFlags)
    (register : Except Failure UInt64) : raisesAnonymous w arg register = false := by
  unfold raisesAnonymous
  split
  · simp [h]
  · rfl

theorem anonymous_of_leaves {ctx : Context} {s s' : State} {arg : Argument}
    {register : Except Failure UInt64} (h : Leaves w ctx s arg register s') :
    s'.anonymous = (s.anonymous || raisesAnonymous w arg register) := by
  unfold raisesAnonymous
  cases h with
  | skipped f => exact (Bool.or_false _).symm
  | pointer value text pointer _ =>
    cases (Reading.typeNamed arg.type).on w <;> simp [State.noting, pointer]
  | untyped value f pointer unknown => simp [State.noting, unknown]
  | typed value type pointer known => simp [State.afterValue, known, pointer]

/-- After arguments that were not aborted the state knows of a mapping without a file if one of
them asked for it. -/
theorem anonymous_of_leavesAll {ctx : Context} {s s' : State}
    {bound : List (Argument × Except Failure UInt64)} (h : LeavesAll w ctx s bound s') :
    s'.anonymous = (s.anonymous || bound.any fun b => raisesAnonymous w b.1 b.2) := by
  induction h with
  | nil s => exact (Bool.or_false _).symm
  | cons first _ ih => rw [ih, anonymous_of_leaves first, List.any_cons, Bool.or_assoc]

variable {s : Signature}

/-- Two calls with the same mapping flags leave the same of a mapping without a file. -/
theorem anonymous_firstArguments_congr (h : s.Sound) (quiet : w.Quiet)
    (same : ∀ b ∈ s.arguments, b.role = .mapFlags →
      call.register b.index = call'.register b.index) (i : Nat) :
    ((firstArguments config call s i).run w).state.anonymous =
      ((firstArguments config call' s i).run w).state.anonymous := by
  -- the flag is raised by the arguments of one role alone, whose registers the calls share
  have raised : ∀ c : Invocation, ((firstArguments config c s i).run w).state.anonymous =
      ((s.arguments.take i).map fun a => raisesAnonymous w a (c.register a.index)).any id := by
    intro c
    unfold firstArguments
    have done := @abort_arguments_of_quiet ⟨config, c⟩ {} w quiet ((c.bind s).take i)
    rw [anonymous_of_leavesAll (leavesAll_arguments done), c.bind_eq h, ← List.map_take,
      List.any_map, List.any_map]
    rfl
  have flags : ∀ a ∈ s.arguments.take i, raisesAnonymous w a (call.register a.index) =
      raisesAnonymous w a (call'.register a.index) := by
    intro a ha
    by_cases role : a.role = .mapFlags
    · rw [same a (List.mem_of_mem_take ha) role]
    · rw [raisesAnonymous_of_role role, raisesAnonymous_of_role role]
  rw [raised, raised, List.map_congr_left flags]

end Decode

/-! ## One line in two calls -/

/-- The registers that the line of an argument depends on: its own, that of its length, and that of
the flags for the file behind a mapping. -/
def Signature.Uses (s : Signature) (i : Nat) (a : Argument) (j : Nat) : Prop :=
  j = i ∨
  (a.role = .buffer j ∨ a.role = .socketAddress (.inRegister j) ∨
    a.role = .socketAddress (.inMemory j)) ∨
  (s.name = "mmap" ∧ (a.name = "fd" ∨ a.name = "pgoff") ∧
    ∃ b, s.arguments[j]? = some b ∧ b.name = "flags")

namespace Decode

variable {config : Config} {call call' : Invocation} {s : Signature} {w : World}

/-- The line of an argument is the same in two calls that agree on the registers it uses. -/
theorem getElem?_lines_congr (h : s.Sound) (quiet : w.Quiet) (root : call.root = call'.root)
    {i : Nat} {a : Argument} (ha : s.arguments[i]? = some a)
    (agree : ∀ j, s.Uses i a j → call.register j = call'.register j) :
    ((allArguments config call s).run w).lines[i]? =
      ((allArguments config call' s).run w).lines[i]? := by
  have mem : a ∈ s.arguments := List.mem_of_getElem? ha
  have texts := @argumentText_congr config call call' a root fun l hl =>
    agree l (.inr (.inl (Role.lengthIndex_eq_some hl)))
  have flags : a.role = .mapBacking →
      ((firstArguments config call s i).run w).state.anonymous =
        ((firstArguments config call' s i).run w).state.anonymous := by
    intro role
    apply anonymous_firstArguments_congr h quiet
    intro b hb hr
    obtain ⟨j, hj⟩ := List.mem_iff_getElem?.1 hb
    have uses : s.Uses i a j :=
      .inr (.inr ⟨(h.mapBacking a mem role).1, (h.mapBacking a mem role).2, b, hj,
        h.mapFlags b hb hr⟩)
    rw [h.index_eq j b hj]
    exact agree j uses
  rw [getElem?_lines_allArguments h ha (abort_arguments_of_quiet quiet _),
    getElem?_lines_allArguments h ha (abort_arguments_of_quiet quiet _),
    agree i (.inl rfl), texts, text_argumentText_congr flags]

/-- Registers behind the declared arguments are not looked at. -/
theorem signedReport_congr (h : s.Sound) (root : call.root = call'.root)
    (agree : ∀ j < s.arguments.length, call.register j = call'.register j) :
    signedReport config call s = signedReport config call' s := by
  have bound : call.bind s = call'.bind s := by
    rw [call.bind_eq h, call'.bind_eq h]
    apply List.map_congr_left
    intro a ha
    obtain ⟨j, hj⟩ := List.mem_iff_getElem?.1 ha
    rw [h.index_eq j a hj, agree j (List.getElem?_eq_some_iff.1 hj).1]
  have same : arguments ⟨config, call⟩ {} (call.bind s) =
      arguments ⟨config, call'⟩ {} (call'.bind s) := by
    rw [← bound]
    apply arguments_congr root
    rintro ⟨a, register⟩ hb l hl
    exact agree l (h.length_lt a ((Invocation.mem_bind h).1 hb).1 l hl)
  unfold signedReport
  rw [same]

/-! ## Isolation -/

/-- In a world without aborts a known call has one line for each declared argument, in order, and
nothing to diagnose, whatever fails. Each line depends only on the registers that the argument uses;
the whole report depends on no register behind the declared arguments. -/
theorem decode_isolated {t : Target} {process : ProcessView} (quiet : World.Quiet ⟨t, process⟩)
    (config : Config) {number : UInt64} {s : Signature}
    (known : Signature.find? number = some s) :
    (∀ call : Invocation, call.number = number →
      (decode t process config call).lines.map Line.name = s.arguments.map Argument.displayName ∧
      (decode t process config call).notices = [] ∧
      (decode t process config call).diagnostics = []) ∧
    (∀ call call' : Invocation, call.number = number → call'.number = number →
      call.root = call'.root →
      (∀ i a, s.arguments[i]? = some a →
        (∀ j, s.Uses i a j → call.register j = call'.register j) →
        (decode t process config call).lines[i]? = (decode t process config call').lines[i]?) ∧
      ((∀ j < s.arguments.length, call.register j = call'.register j) →
        decode t process config call = decode t process config call')) := by
  have sound := Signature.sound_of_find? known
  constructor
  · rintro call rfl
    refine ⟨?_, ?_, ?_⟩
    · have done := @abort_arguments_of_quiet ⟨config, call⟩ {} _ quiet (call.bind s)
      rw [lines_of_find? known]
      unfold allArguments
      rw [names_arguments, length_arguments_of_done done, ← List.length_map, List.take_length,
        call.bind_eq sound, List.map_map]
      rfl
    · unfold decode
      rw [report_of_find? known, run_signedReport, concluded_notices]
    · unfold decode
      rw [report_of_find? known, diagnostics_signedReport]
      exact fun q _ a => quiet q a
  -- the number decides the signature, so that both calls have the same one
  · rintro call call' rfl number root
    have known' : Signature.find? call'.number = some s := by rw [number, known]
    constructor
    · intro i a ha agree
      rw [lines_of_find? known, lines_of_find? known']
      exact getElem?_lines_congr sound quiet root ha agree
    · intro agree
      unfold decode
      rw [report_of_find? known, report_of_find? known', signedReport_congr sound root agree]

/-- A target without mapped memory. -/
def unmapped : Target :=
  .catalogued fun _ => Attempt.fail (.unreadable 0 "not mapped")

/-- `mmap` of descriptor 5 without a file, at an address that may be missing or malformed. -/
def mapCall (address : Option String) : Invocation :=
  ⟨9, .ofList [address, some "1000", some "3", some "22", some "5", some "0"], 0x1000⟩

/-- Whatever the address is, the line of the descriptor is the same. -/
theorem isolated_mapCall :
    World.Quiet ⟨unmapped, .absent⟩ ∧
      (decode unmapped .absent {} (mapCall none)).lines[4]? =
        (decode unmapped .absent {} (mapCall (some "zz"))).lines[4]? := by
  have quiet : World.Quiet ⟨unmapped, .absent⟩ :=
    Target.quiet_catalogued fun _ _ h => by cases h
  have known : (Signature.find? 9).isSome := by decide
  refine ⟨quiet, ((decode_isolated quiet {} (Option.some_get known).symm).2 (mapCall none)
    (mapCall (some "zz")) rfl rfl rfl).1 4 _ rfl ?_⟩
  intro j uses
  -- the two calls differ in the first register, which the descriptor does not use
  cases j with
  | succ j => rfl
  | zero =>
    rcases uses with h | (h | h | h) | ⟨-, -, b, hb, hn⟩
    · cases h
    · cases h
    · cases h
    · cases h
    · cases hb; exact absurd hn (by decide)

end Decode

end SyscallDecode
