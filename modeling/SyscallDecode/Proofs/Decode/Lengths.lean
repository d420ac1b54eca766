/-
Lengths in registers. A buffer or an address is shown with the value of another register as its
length, and the whole register counts, also where the length is declared with four bytes only. So two
calls that differ in the upper half of that register have the same lines for all other arguments, but
not for the pointer: where both show what lies behind it, its lines are never the same.
-/
import SyscallDecode.Proofs.Decode.Isolation
import SyscallDecode.Proofs.Decode.SocketAddress
import SyscallDecode.Proofs.Decode.Values
import SyscallDecode.Proofs.Socket.Length

namespace SyscallDecode

open SyscallDecode.Text

/-- Two calls that are the same up to the upper half of one register. -/
structure Invocation.SameButUpperHalf (call call' : Invocation) (l : Nat)
    (count count' : UInt64) : Prop where
  number : call'.number = call.number
  root : call'.root = call.root
  others : ∀ j, j ≠ l → call'.register j = call.register j
  held : call.register l = .ok count
  held' : call'.register l = .ok count'
  lower : count'.toUInt32 = count.toUInt32

/-- Of two numbers with the same lower half one is beyond the longest address, unless they are the
same. -/
theorem Invocation.SameButUpperHalf.beyond {call call' : Invocation} {l : Nat}
    {count count' : UInt64} (h : call.SameButUpperHalf call' l count count')
    (different : count ≠ count') :
    Socket.maxAddressLength < count.toNat ∨ Socket.maxAddressLength < count'.toNat := by
  have lower := congrArg UInt32.toNat h.lower
  rw [UInt64.toNat_toUInt32, UInt64.toNat_toUInt32] at lower
  have unequal : count.toNat ≠ count'.toNat := fun same => different (UInt64.toNat_inj.1 same)
  unfold Socket.maxAddressLength
  omega

namespace Overlay

variable {w : World} {space : AddressSpace} {config : Config} {call call' : Invocation}
  {arg : Argument} {l : Nat} {count count' address : UInt64} {overlay overlay' : Noted String}

/-! ## Overlays with a count -/

theorem on_sibling (held : call.register l = .ok count) :
    (sibling call l).on w = .ok count := by
  unfold sibling
  rw [held]
  rfl

/-- The text of a buffer up to its bytes. -/
def bufferHead (count : Nat) : String :=
  "\nbuffer content hex (of size " ++ toString count ++ "):\n"

theorem bufferText_eq (count : Nat) (bytes : List UInt8) :
    bufferText count bytes = bufferHead count ++
      (hexDump bytes ++ ("\nbuffer content string: " ++ quote (graphicText bytes))) := by
  unfold bufferText bufferHead
  rw [String.append_assoc, String.append_assoc]

theorem bufferHead_append_inj {n m : Nat} {rest rest' : String}
    (h : bufferHead n ++ rest = bufferHead m ++ rest') : n = m := by
  unfold bufferHead at h
  have letters := congrArg String.toList h
  simp only [String.toList_append, List.append_assoc, List.append_cancel_left_eq] at letters
  have bracket (rest : List Char) : "):\n".toList ++ rest = ')' :: (":\n".toList ++ rest) := rfl
  rw [bracket, bracket] at letters
  exact toString_append_inj (by decide) letters

/-- The text of a buffer begins with its whole count. -/
theorem buffer_of_on_ok (role : arg.role = .buffer l) (held : call.register l = .ok count)
    (shown : (ofRole space config call arg address).on w = .ok overlay) :
    ∃ rest, overlay.value = bufferHead count.toNat ++ rest := by
  unfold ofRole at shown
  rw [role] at shown
  obtain ⟨text, given, told⟩ := (Course.on_bind_eq_ok w).1 shown
  cases told
  unfold buffer at given
  rw [Course.on_bind_ok w (on_sibling held)] at given
  obtain ⟨bytes, -, told⟩ := (Course.on_bind_eq_ok w).1 given
  dsimp only at told
  rw [bufferText_eq] at told
  split at told
  · rw [Course.on_pure, Except.ok.injEq, String.append_assoc, String.append_assoc,
      String.append_assoc, String.append_assoc, String.append_assoc] at told
    exact ⟨_, told.symm⟩
  · rw [Course.on_pure, Except.ok.injEq] at told
    exact ⟨_, told.symm⟩

/-- The text of an address is that of the whole count. -/
theorem address_of_on_ok (role : arg.role = .socketAddress (.inRegister l))
    (held : call.register l = .ok count)
    (shown : (ofRole space config call arg address).on w = .ok overlay) :
    ∃ text, (Socket.addressAt space address count.toNat).on w = .ok text ∧
      overlay.value = "\n" ++ text := by
  unfold ofRole at shown
  rw [role] at shown
  obtain ⟨text, given, told⟩ := (Course.on_bind_eq_ok w).1 shown
  cases told
  obtain ⟨length, counted, given⟩ := (Course.on_bind_eq_ok w).1 given
  cases ((Course.on_bind_ok w (on_sibling held) _).symm.trans counted : Except.ok _ = _)
  obtain ⟨text, read, told⟩ := (Course.on_bind_eq_ok w).1 given
  cases told
  exact ⟨text, read, rfl⟩

/-- Two counts are not shown alike, if they are of a buffer or one of them is beyond the longest
address. -/
theorem value_ne_of_counts {cell : AddressSpace → UInt64 → Option UInt8}
    (memory : w.target.ByteAddressed cell) (counted : arg.role.CountedBy l)
    (held : call.register l = .ok count) (held' : call'.register l = .ok count')
    (different : count ≠ count')
    (beyond : Socket.maxAddressLength < count.toNat ∨ Socket.maxAddressLength < count'.toNat)
    (shown : (ofRole space config call arg address).on w = .ok overlay)
    (shown' : (ofRole space config call' arg address).on w = .ok overlay') :
    overlay.value ≠ overlay'.value := by
  have unequal : count.toNat ≠ count'.toNat := fun same => different (UInt64.toNat_inj.1 same)
  rcases counted with role | role
  · obtain ⟨rest, text⟩ := buffer_of_on_ok role held shown
    obtain ⟨rest', text'⟩ := buffer_of_on_ok role held' shown'
    rw [text, text']
    exact fun same => unequal (bufferHead_append_inj same)
  · obtain ⟨text, read, value⟩ := address_of_on_ok role held shown
    obtain ⟨text', read', value'⟩ := address_of_on_ok role held' shown'
    have texts : text ≠ text' := by
      by_cases within : count.toNat ≤ Socket.maxAddressLength
      · exact Socket.addressAt_ne_of_within memory within (by omega) read read'
      by_cases within' : count'.toNat ≤ Socket.maxAddressLength
      · exact (Socket.addressAt_ne_of_within memory within' (by omega) read' read).symm
      · exact Socket.addressAt_ne_of_beyond unequal (by omega) (by omega) read read'
    rw [value, value']
    exact fun same => texts ((String.append_right_inj _).1 same)

/-! ## What an overlay leaves -/

/-- What an overlay leaves in the line of its argument: its text, or word of its failure. Nothing is
left when it is aborted. -/
def left : Attempt (Noted String) → Option (Noted String)
  | .ok overlay => some overlay
  | .error (.failure f) => some ⟨"\nexception: " ++ f.message, true⟩
  | .error (.abort _) => none

end Overlay

namespace Decode

variable {config : Config} {call call' : Invocation} {s : Signature} {w : World} {i l : Nat}
  {arg length : Argument} {value count count' : UInt64} {ctx : Context}

theorem toOption_overlayText :
    ((overlayText ctx arg value).on w).toOption =
      Overlay.left ((Overlay.ofRole ctx.space ctx.config ctx.call arg value).on w) := by
  unfold overlayText
  rw [Course.on_bind, Reading.on_settle]
  rcases (Overlay.ofRole ctx.space ctx.config ctx.call arg value).on w with (f | a) | overlay <;>
    rfl

/-! ## Where an overlay is reached -/

/-- The value behind the pointer is shown, so that there is an overlay. -/
def Shows (w : World) (ctx : Context) (arg : Argument) (value : UInt64) (generic : String) : Prop :=
  value ≠ 0 ∧ ∃ type, (Reading.typeNamed arg.type).on w = .ok type ∧
    (Reading.rendered ctx.space type value).on w = .ok generic

/-- The overlay of an argument is reached: no argument before it is aborted, and the value behind
its pointer is shown. -/
structure Reaches (w : World) (config : Config) (call : Invocation) (s : Signature) (i : Nat)
    (arg : Argument) (value : UInt64) (generic : String) : Prop where
  before : ((firstArguments config call s i).run w).abort = none
  held : call.register i = .ok value
  shown : Shows w ⟨config, call⟩ arg value generic

theorem Shows.of_root {generic : String} (root : call'.root = call.root)
    (shown : Shows w ⟨config, call⟩ arg value generic) :
    Shows w ⟨config, call'⟩ arg value generic := by
  unfold Shows Context.space at shown ⊢
  rw [root]
  exact shown

/-- Where the value is shown, the text of a pointer ends in its overlay. -/
theorem on_pointerText_of_shows {generic : String} (shown : Shows w ctx arg value generic) :
    (pointerText ctx arg value).on w = ((overlayText ctx arg value).on w).map (Noted.map
      (arg.pointerType ++ ": " ++ hexMarked value.toNat ++ " ->\n" ++ generic ++ ·)) := by
  obtain ⟨nonnull, type, known, rendered⟩ := shown
  cases overlaid : (overlayText ctx arg value).on w with
  | ok overlay => exact on_pointerText_of_overlayText nonnull known rendered overlaid
  | error a =>
    have pointee : (pointeeText ctx arg value).on w = .error a := by
      unfold pointeeText
      rw [Course.on_bind_ok w (Reading.on_settle_ok w known)]
      dsimp only
      rw [Course.on_bind_ok w (Reading.on_settle_ok w rendered)]
      exact Course.on_bind_error w overlaid _
    unfold pointerText
    dsimp only
    rw [if_neg nonnull, Course.on_bind_error w pointee]
    rfl

/-- Where it is not, the call has no part in the text but by its root. -/
theorem on_pointerText_unshown_congr (root : call'.root = call.root)
    (unshown : ¬ ∃ generic, Shows w ⟨config, call⟩ arg value generic) :
    (pointerText ⟨config, call'⟩ arg value).on w = (pointerText ⟨config, call⟩ arg value).on w := by
  have space : Context.space ⟨config, call'⟩ = Context.space ⟨config, call⟩ :=
    congrArg AddressSpace.user root
  by_cases null : value = 0
  · subst null
    rw [pointerText_zero, pointerText_zero]
  have pointee : (pointeeText ⟨config, call'⟩ arg value).on w =
      (pointeeText ⟨config, call⟩ arg value).on w := by
    unfold pointeeText
    rw [space]
    rcases known : (Reading.typeNamed arg.type).on w with (f | a) | type
    · rw [Course.on_bind_ok w (Reading.on_settle_failure w known),
        Course.on_bind_ok w (Reading.on_settle_failure w known)]
    · rw [Course.on_bind_error w (Reading.on_settle_abort w known),
        Course.on_bind_error w (Reading.on_settle_abort w known)]
    · rw [Course.on_bind_ok w (Reading.on_settle_ok w known),
        Course.on_bind_ok w (Reading.on_settle_ok w known)]
      dsimp only
      rcases rendered : (Reading.rendered (Context.space ⟨config, call⟩) type value).on w with
        (f | a) | generic
      · rw [Course.on_bind_ok w (Reading.on_settle_failure w rendered),
          Course.on_bind_ok w (Reading.on_settle_failure w rendered)]
      · rw [Course.on_bind_error w (Reading.on_settle_abort w rendered),
          Course.on_bind_error w (Reading.on_settle_abort w rendered)]
      · exact absurd ⟨generic, null, type, known, rendered⟩ unshown
  unfold pointerText
  dsimp only
  rw [if_neg null, if_neg null, Course.on_bind, Course.on_bind, pointee]

/-! ## The arguments of two calls -/

/-- The first arguments are the same in two calls that agree on their registers and lengths. -/
theorem firstArguments_congr (h : s.Sound) (root : call'.root = call.root) {k : Nat}
    (registers : ∀ j < k, call'.register j = call.register j)
    (lengths : ∀ j < k, ∀ a, s.arguments[j]? = some a → ∀ l, a.role.lengthIndex = some l →
      call'.register l = call.register l) :
    firstArguments config call' s k = firstArguments config call s k := by
  have bound : (call'.bind s).take k = (call.bind s).take k := by
    apply List.ext_getElem?
    intro j
    rw [List.getElem?_take, List.getElem?_take, call'.getElem?_bind h, call.getElem?_bind h]
    split
    · next inside => rw [registers j inside]
    · rfl
  unfold firstArguments
  rw [bound]
  apply arguments_congr root
  rintro ⟨a, register⟩ hb l hl
  obtain ⟨j, hj⟩ := List.mem_iff_getElem?.1 hb
  rw [List.getElem?_take] at hj
  split at hj
  · next inside =>
    rw [call.getElem?_bind h] at hj
    obtain ⟨a', ha, pair⟩ := Option.map_eq_some_iff.1 hj
    cases pair
    exact lengths j inside _ ha l hl
  · cases hj

/-- The last two arguments of a call with their registers. -/
theorem bind_eq_two (h : s.Sound) (call : Invocation) (declared : s.arguments[i]? = some arg)
    (counts : s.arguments[i + 1]? = some length) (arity : s.arguments.length = i + 2) :
    call.bind s = (call.bind s).take i ++
      [(arg, call.register i), (length, call.register (i + 1))] := by
  have last : (call.bind s).drop (i + 1) = [(length, call.register (i + 1))] := by
    apply List.ext_getElem?
    intro j
    rw [List.getElem?_drop, call.getElem?_bind h]
    cases j with
    | zero => rw [Nat.add_zero, counts]; rfl
    | succ j =>
      rw [List.getElem?_eq_none (by omega)]
      rfl
  have all := call.bind_eq_append h declared
  rwa [last] at all

/-- A plain value leaves nothing of what it is. -/
theorem run_plain_congr (byValue : length.isPointer = false) (plain : length.role = .plain)
    {ctx ctx' : Context} {s s' : State} (missed : s'.missed = s.missed) :
    ((arguments ctx' s' [(length, .ok count')]).run w).abort =
        ((arguments ctx s [(length, .ok count)]).run w).abort ∧
      ((arguments ctx' s' [(length, .ok count')]).run w).state.missed =
        ((arguments ctx s [(length, .ok count)]).run w).state.missed := by
  rcases known : (Reading.typeNamed length.type).on w with (f | a) | type
  · have text (c : Context) (s : State) (v : UInt64) : ∃ text,
        (argumentText c s length (.ok v)).on w = .ok (text, s.noting f.isUnreadable) := by
      rw [argumentText_of_value c byValue]
      unfold valueText
      rw [Course.on_bind_ok w (Reading.on_settle_failure w known)]
      exact ⟨_, rfl⟩
    obtain ⟨x, hx⟩ := text ctx s count
    obtain ⟨x', hx'⟩ := text ctx' s' count'
    rw [run_arguments_cons_ok hx, run_arguments_cons_ok hx']
    refine ⟨rfl, ?_⟩
    have noted : (s'.missed || f.isUnreadable) = (s.missed || f.isUnreadable) := by rw [missed]
    exact noted
  · have text (c : Context) (s : State) (v : UInt64) :
        (argumentText c s length (.ok v)).on w = .error a := by
      rw [argumentText_of_value c byValue]
      unfold valueText
      rw [Course.on_bind_error w (Reading.on_settle_abort w known)]
    rw [run_arguments_cons_error (text ctx s count), run_arguments_cons_error (text ctx' s' count')]
    exact ⟨rfl, missed⟩
  · have text (c : Context) (s : State) (v : UInt64) : ∃ text,
        (argumentText c s length (.ok v)).on w = .ok (text, s) := by
      have silent : valueNote s.anonymous length v = pure "" := by
        unfold valueNote
        rw [plain]
      rw [argumentText_of_value c byValue, on_valueText known, silent,
        afterValue_of_role (by rw [plain]; exact nofun)]
      exact ⟨_, rfl⟩
    obtain ⟨x, hx⟩ := text ctx s count
    obtain ⟨x', hx'⟩ := text ctx' s' count'
    rw [run_arguments_cons_ok hx, run_arguments_cons_ok hx']
    exact ⟨rfl, missed⟩

/-- Whether an argument leaves word of something missed; nothing is left by an abort. -/
def missedIn (ending : Except Abort (String × State)) : Option Bool :=
  (ending.map fun result => result.2.missed).toOption

/-- Where an argument leaves alike, so do the argument and a plain value behind it. -/
theorem run_two_congr (byValue : length.isPointer = false) (plain : length.role = .plain)
    {register : Except Failure UInt64} {ctx ctx' : Context} {s : State}
    (alike : missedIn ((argumentText ctx' s arg register).on w) =
      missedIn ((argumentText ctx s arg register).on w)) :
    ((arguments ctx' s [(arg, register), (length, .ok count')]).run w).abort.isSome =
        ((arguments ctx s [(arg, register), (length, .ok count)]).run w).abort.isSome ∧
      ((arguments ctx' s [(arg, register), (length, .ok count')]).run w).state.missed =
        ((arguments ctx s [(arg, register), (length, .ok count)]).run w).state.missed := by
  cases ht : (argumentText ctx s arg register).on w with
  | error a =>
    cases ht' : (argumentText ctx' s arg register).on w with
    | error a' =>
      rw [run_arguments_cons_error ht, run_arguments_cons_error ht']
      exact ⟨rfl, rfl⟩
    | ok result' =>
      rw [ht, ht'] at alike
      cases alike
  | ok result =>
    cases ht' : (argumentText ctx' s arg register).on w with
    | error a' =>
      rw [ht, ht'] at alike
      cases alike
    | ok result' =>
      rw [ht, ht'] at alike
      rw [run_arguments_cons_ok ht, run_arguments_cons_ok ht']
      obtain ⟨abort, missed⟩ := @run_plain_congr w length count count' byValue plain ctx ctx'
        _ _ (Option.some.inj alike)
      exact ⟨congrArg Option.isSome abort, missed⟩

/-! ## The reports of two calls -/

/-- A memory map depends on whether the arguments were aborted, and on whether they missed
something. -/
theorem memoryMap_signedReport_congr
    (aborts : ((allArguments config call' s).run w).abort.isSome =
      ((allArguments config call s).run w).abort.isSome)
    (missed : ((allArguments config call' s).run w).state.missed =
      ((allArguments config call s).run w).state.missed) :
    ((signedReport config call' s).run w).memoryMap =
      ((signedReport config call s).run w).memoryMap := by
  have ending (lines lines' : List Line) (result : Except Abort (Option String)) :
      (concluded s lines' result).memoryMap = (concluded s lines result).memoryMap := by
    cases result <;> rfl
  rw [run_signedReport, run_signedReport]
  cases done : ((allArguments config call s).run w).abort with
  | none =>
    rw [done, Option.isSome_none, Option.isSome_eq_false_iff, Option.isNone_iff_eq_none] at aborts
    rw [conclusion_of_done done, conclusion_of_done aborts, missed]
    exact ending _ _ _
  | some a =>
    rw [done, Option.isSome_some, Option.isSome_iff_exists] at aborts
    obtain ⟨a', aborted⟩ := aborts
    rw [conclusion_of_aborted done, conclusion_of_aborted aborted]
    rfl

/-- Nothing behind an abort is looked at. -/
theorem run_allArguments_congr_of_aborted {a : Abort}
    (first : firstArguments config call' s i = firstArguments config call s i)
    (aborted : ((firstArguments config call s i).run w).abort = some a) :
    (allArguments config call' s).run w = (allArguments config call s).run w := by
  have aborted' := aborted
  rw [← first] at aborted'
  rw [run_allArguments_of_aborted aborted, run_allArguments_of_aborted aborted', first]

theorem length_lines_allArguments_le (h : s.Sound) :
    ((allArguments config call s).run w).lines.length ≤ s.arguments.length := by
  have length := @length_arguments ⟨config, call⟩ {} w (call.bind s)
  rw [call.length_bind h] at length
  unfold allArguments
  split at length
  · exact Nat.le_of_eq length
  · exact Nat.le_of_lt length

/-- Where an argument is decoded in two calls with the same arguments before it, and has one plain
value behind it: other lines are the same, and so is the memory map if the argument leaves alike. -/
theorem signedReport_congr_of_two (h : s.Sound) (declared : s.arguments[i]? = some arg)
    (counts : s.arguments[i + 1]? = some length) (arity : s.arguments.length = i + 2)
    (byValue : length.isPointer = false) (plain : length.role = .plain)
    (first : firstArguments config call' s i = firstArguments config call s i)
    (own : call'.register i = call.register i) (held : call.register (i + 1) = .ok count)
    (held' : call'.register (i + 1) = .ok count')
    (done : ((firstArguments config call s i).run w).abort = none) :
    (∀ j, j ≠ i → j ≠ i + 1 →
      ((allArguments config call' s).run w).lines[j]? =
        ((allArguments config call s).run w).lines[j]?) ∧
    (missedIn ((argumentText ⟨config, call'⟩ ((firstArguments config call s i).run w).state arg
        (call.register i)).on w) =
      missedIn ((argumentText ⟨config, call⟩ ((firstArguments config call s i).run w).state arg
        (call.register i)).on w) →
      ((signedReport config call' s).run w).memoryMap =
        ((signedReport config call s).run w).memoryMap) := by
  have done' : ((firstArguments config call' s i).run w).abort = none := by rw [first]; exact done
  constructor
  · intro j notOwn notLength
    by_cases before : j < i
    · have take := take_lines_allArguments h (by omega) done
      have take' := take_lines_allArguments h (by omega) done'
      rw [← List.getElem?_take_of_lt before, take', first, ← take, List.getElem?_take_of_lt before]
    · have none' {c : Invocation} : ((allArguments config c s).run w).lines[j]? = none := by
        have length := @length_lines_allArguments_le config c s w h
        exact List.getElem?_eq_none (by omega)
      rw [none', none']
  · intro alike
    have run (c : Invocation) (count : UInt64) (hc : c.register (i + 1) = .ok count)
        (before : ((firstArguments config c s i).run w).abort = none) :
        ((allArguments config c s).run w).abort =
          ((arguments ⟨config, c⟩ ((firstArguments config c s i).run w).state
            [(arg, c.register i), (length, .ok count)]).run w).abort ∧
        ((allArguments config c s).run w).state =
          ((arguments ⟨config, c⟩ ((firstArguments config c s i).run w).state
            [(arg, c.register i), (length, .ok count)]).run w).state := by
      unfold allArguments
      rw [bind_eq_two h c declared counts arity, run_arguments_append before, hc]
      exact ⟨rfl, rfl⟩
    obtain ⟨abort, state⟩ := run call count held done
    obtain ⟨abort', state'⟩ := run call' count' held' done'
    rw [first, own] at abort' state'
    obtain ⟨aborts, missed⟩ := @run_two_congr w arg length count count' byValue plain _ _ _ _ alike
    apply memoryMap_signedReport_congr
    · rw [abort, abort', aborts]
    · rw [state, state', missed]

/-! ## The upper half of a length -/

theorem on_argumentText_of_pointer (pointer : arg.isPointer = true) (ctx : Context) (s : State)
    (value : UInt64) :
    (argumentText ctx s arg (.ok value)).on w =
      ((pointerText ctx arg value).on w).map fun text => (text.value, s.noting text.missed) := by
  unfold argumentText
  simp only [pointer, if_true]
  rw [Course.on_bind]
  cases (pointerText ctx arg value).on w <;> rfl

/-- Where no overlay is reached, the call has no part in the text of a pointer but by its root. -/
theorem on_argumentText_unshown_congr (pointer : arg.isPointer = true)
    (root : call'.root = call.root) (s : State) {register : Except Failure UInt64}
    (unshown : ∀ value, register = .ok value →
      ¬ ∃ generic, Shows w ⟨config, call⟩ arg value generic) :
    (argumentText ⟨config, call'⟩ s arg register).on w =
      (argumentText ⟨config, call⟩ s arg register).on w := by
  cases register with
  | error f => rfl
  | ok value =>
    rw [on_argumentText_of_pointer pointer, on_argumentText_of_pointer pointer,
      on_pointerText_unshown_congr root (unshown value rfl)]

/-- The line of a pointer with this behind its generic text. -/
def overlaidLine (arg : Argument) (value : UInt64) (generic overlay : String) : Line :=
  argumentLine arg
    (arg.pointerType ++ ": " ++ hexMarked value.toNat ++ " ->\n" ++ generic ++ overlay)

theorem overlaidLine_injective (arg : Argument) (value : UInt64) (generic : String) :
    Function.Injective (overlaidLine arg value generic) :=
  fun _ _ same => (String.append_right_inj _).1 (congrArg Line.text same)

/-- What is left of an overlay decides on the line of its argument, and on what it leaves. -/
theorem on_argumentText_of_shows (pointer : arg.isPointer = true) {generic : String}
    (shown : Shows w ctx arg value generic) (s : State) :
    (((argumentText ctx s arg (.ok value)).on w).map Prod.fst).toOption.map (argumentLine arg) =
        ((Overlay.left ((Overlay.ofRole ctx.space ctx.config ctx.call arg value).on w)).map
          Noted.value).map (overlaidLine arg value generic) ∧
      missedIn ((argumentText ctx s arg (.ok value)).on w) =
        ((Overlay.left ((Overlay.ofRole ctx.space ctx.config ctx.call arg value).on w)).map
          Noted.missed).map (s.missed || ·) := by
  rw [on_argumentText_of_pointer pointer, on_pointerText_of_shows shown, ← toOption_overlayText]
  cases (overlayText ctx arg value).on w <;> exact ⟨rfl, rfl⟩

/-- Two known calls that differ only in the upper half of a length of four bytes have the same lines
for all arguments but the pointer and the length, whatever is answered. Where the overlay of the
pointer is not reached, its line and the memory map are the same as well. Where it is, the line is
the same if and only if both overlays leave the same text, which they never do if both can be shown:
the upper half of the length counts. -/
theorem decode_upperHalf (t : Target) (process : ProcessView) (config : Config)
    {call call' : Invocation} {s : Signature} (known : Signature.find? call.number = some s)
    {i l : Nat} {arg length : Argument} (declared : s.arguments[i]? = some arg)
    (counted : arg.role.CountedBy l) (counts : s.arguments[l]? = some length)
    (narrow : (CType.builtin? length.type).map CType.size = some 4) {count count' : UInt64}
    (same : call.SameButUpperHalf call' l count count') :
    (∀ j, j ≠ i → j ≠ l →
      (decode t process config call').lines[j]? = (decode t process config call).lines[j]?) ∧
    ((¬ ∃ value generic, Reaches ⟨t, process⟩ config call s i arg value generic) →
      (decode t process config call').lines[i]? = (decode t process config call).lines[i]? ∧
      (decode t process config call').memoryMap = (decode t process config call).memoryMap) ∧
    ∀ value generic, Reaches ⟨t, process⟩ config call s i arg value generic →
      ∀ overlay overlay',
        (Overlay.ofRole (.user call.root) config call arg value).on ⟨t, process⟩ = overlay →
        (Overlay.ofRole (.user call'.root) config call' arg value).on ⟨t, process⟩ = overlay' →
        ((decode t process config call').lines[i]? = (decode t process config call).lines[i]? ↔
          (Overlay.left overlay').map Noted.value = (Overlay.left overlay).map Noted.value) ∧
        ((Overlay.left overlay').map Noted.missed = (Overlay.left overlay).map Noted.missed →
          (decode t process config call').memoryMap =
            (decode t process config call).memoryMap) ∧
        ((∃ cell, t.ByteAddressed cell) → count ≠ count' → (∃ shown, overlay = .ok shown) →
          (∃ shown', overlay' = .ok shown') →
          (decode t process config call').lines[i]? ≠
            (decode t process config call).lines[i]?) := by
  obtain ⟨rfl, arity, pointer, byValue, plain⟩ :=
    Signature.narrowLength known declared counted counts narrow
  have sound := Signature.sound_of_find? known
  have known' : Signature.find? call'.number = some s := by rw [same.number, known]
  have own : call'.register i = call.register i := same.others i (by omega)
  have first : firstArguments config call' s i = firstArguments config call s i := by
    refine firstArguments_congr sound same.root (fun j _ => same.others j (by omega)) ?_
    intro j _ a ha l hl
    refine same.others l ?_
    rw [Signature.lengthIndex_eq known ha hl]
    omega
  rw [memoryMap_of_find? known, memoryMap_of_find? known', lines_of_find? known,
    lines_of_find? known']
  cases done : ((firstArguments config call s i).run ⟨t, process⟩).abort with
  | some a =>
    have all := run_allArguments_congr_of_aborted first done
    have maps := @memoryMap_signedReport_congr config call call' s ⟨t, process⟩ (by rw [all])
      (by rw [all])
    refine ⟨fun _ _ _ => by rw [all], fun _ => ⟨by rw [all], maps⟩, ?_⟩
    intro value generic reaches
    rw [reaches.before] at done
    cases done
  | none =>
    have done' := done
    rw [← first] at done'
    obtain ⟨others, alike⟩ := signedReport_congr_of_two sound declared counts arity byValue plain
      first own same.held same.held' done
    have line := getElem?_lines_allArguments sound declared done
    have line' := getElem?_lines_allArguments sound declared done'
    rw [first, own] at line'
    refine ⟨others, fun unreached => ?_, fun value generic reaches => ?_⟩
    · have text := on_argumentText_unshown_congr pointer same.root
        ((firstArguments config call s i).run ⟨t, process⟩).state
        fun value held ⟨generic, shown⟩ => unreached ⟨value, generic, done, held, shown⟩
      rw [line, line', text]
      exact ⟨rfl, alike (by rw [text])⟩
    · rintro overlay overlay' rfl rfl
      rw [reaches.held] at line line' alike
      obtain ⟨told, missed⟩ := on_argumentText_of_shows pointer reaches.shown
        ((firstArguments config call s i).run ⟨t, process⟩).state
      obtain ⟨told', missed'⟩ := on_argumentText_of_shows pointer (reaches.shown.of_root same.root)
        ((firstArguments config call s i).run ⟨t, process⟩).state
      have texts := Option.map_injective (overlaidLine_injective arg value generic)
      rw [line, line', told, told']
      refine ⟨texts.eq_iff, fun left => ?_, ?_⟩
      · refine alike ?_
        rw [missed, missed']
        exact congrArg (Option.map _) left
      · rintro ⟨cell, memory⟩ different ⟨shown, given⟩ ⟨shown', given'⟩ lines
        have values : (Overlay.left (.ok shown')).map Noted.value =
            (Overlay.left (.ok shown)).map Noted.value := by
          rw [← given, ← given']
          exact texts lines
        rw [same.root] at given'
        have unlike := @Overlay.value_ne_of_counts ⟨t, process⟩ _ _ call call' arg _ _ _ _ _ _ cell
          memory counted same.held same.held' different (same.beyond different) given given'
        exact unlike (Option.some.inj values).symm

/-- `connect(3, 0x4ff0, length)`. -/
def connectWith (length : String) : Invocation :=
  ⟨42, .ofList [some "3", some "0x4ff0", some length], 0x1000⟩

/-- The length of the address of a call that connects. -/
def connectLength : Argument :=
  ⟨2, "addrlen", "int", false, .unspecified, .plain⟩

theorem find?_connectLength : ∃ s, Signature.find? 42 = some s ∧
    s.arguments[1]? = some connectArgument ∧ s.arguments[2]? = some connectLength := by
  have arguments : (Signature.find? 42).map (fun s => (s.arguments[1]?, s.arguments[2]?)) =
      some (some connectArgument, some connectLength) := by decide +kernel
  obtain ⟨s, known, pair⟩ := Option.map_eq_some_iff.1 arguments
  exact ⟨s, known, (Prod.mk.inj pair).1, (Prod.mk.inj pair).2⟩

theorem sameButUpperHalf_connect :
    (connectWith "6").SameButUpperHalf (connectWith "0x100000006") 2 6 0x100000006 where
  number := rfl
  root := rfl
  others := by
    intro j other
    match j with
    | 0 => rfl
    | 1 => rfl
    | 2 => exact absurd rfl other
    | j + 3 => rfl
  held := rfl
  held' := rfl
  lower := by decide

/-- A target with a zero at every address. -/
def zeros : Target :=
  .catalogued fun _ => .ok 0

theorem byteAddressed_zeros : zeros.ByteAddressed fun _ _ => some 0 where
  calm := nofun
  read_iff := by
    intro space address length bytes
    have read : zeros.read space address length = .ok (List.replicate length 0) := rfl
    rw [read, Except.ok.injEq, List.map_const', List.length_range, eq_comm, List.eq_replicate_iff,
      List.eq_replicate_iff, List.length_map]
    simp

/-- Both lengths are shown, and not alike. -/
theorem upperHalf_connect :
    (decode zeros .absent {} (connectWith "0x100000006")).lines[0]? =
        (decode zeros .absent {} (connectWith "6")).lines[0]? ∧
      (decode zeros .absent {} (connectWith "0x100000006")).lines[1]? ≠
        (decode zeros .absent {} (connectWith "6")).lines[1]? := by
  obtain ⟨s, known, pointer, length⟩ := find?_connectLength
  obtain ⟨others, -, reached⟩ := decode_upperHalf zeros .absent {} known pointer (.inr rfl) length rfl
    sameButUpperHalf_connect
  have reaches : Reaches ⟨zeros, .absent⟩ {} (connectWith "6") s 1 connectArgument 0x4ff0
      (Socket.addressType.render (List.replicate 16 0)) := by
    refine ⟨?_, rfl, by decide, Socket.addressType, rfl, rfl⟩
    exact abort_arguments_of_quiet (Target.quiet_catalogued fun _ _ h => by cases h) _
  obtain ⟨-, -, unlike⟩ := reached _ _ reaches _ _ rfl rfl
  exact ⟨others 0 (by decide) (by decide),
    unlike ⟨_, byteAddressed_zeros⟩ (by decide) ⟨_, rfl⟩ ⟨_, rfl⟩⟩

/-- At the end of a page the longer length is not even shown, so that one report has a memory map and
the other has none. -/
theorem unlike_connect :
    (∃ s, Signature.find? (connectWith "6").number = some s ∧
      s.arguments[1]? = some connectArgument ∧ s.arguments[2]? = some connectLength) ∧
    connectArgument.role.CountedBy 2 ∧
    (CType.builtin? connectLength.type).map CType.size = some 4 ∧
    (connectWith "6").SameButUpperHalf (connectWith "0x100000006") 2 6 0x100000006 ∧
    (decode pageEnd (.listed [] (.ok [])) {} (connectWith "0x100000006")).lines[1]? ≠
      (decode pageEnd (.listed [] (.ok [])) {} (connectWith "6")).lines[1]? ∧
    (decode pageEnd (.listed [] (.ok [])) {} (connectWith "0x100000006")).memoryMap.isSome = true ∧
    (decode pageEnd (.listed [] (.ok [])) {} (connectWith "6")).memoryMap.isSome = false :=
  ⟨find?_connectLength, .inr rfl, rfl, sameButUpperHalf_connect, by decide +kernel,
    by decide +kernel, by decide +kernel⟩

end Decode

end SyscallDecode
