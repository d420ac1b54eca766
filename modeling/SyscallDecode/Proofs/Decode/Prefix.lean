/-
The first arguments of a call, and all of them. As long as nothing is aborted, the first arguments
have one line each, and these are the first lines of all; an abort among them is an abort of all.
-/
import SyscallDecode.Proofs.Decode.Arguments
import SyscallDecode.Proofs.Inquiry.Agreement
import SyscallDecode.Proofs.Signature.Roles

namespace SyscallDecode.Decode

variable {config : Config} {call : Invocation} {s : Signature} {w : World} {k : Nat}

/-- The first arguments of a call. -/
def firstArguments (config : Config) (call : Invocation) (s : Signature) (k : Nat) :
    Inquiry Progress :=
  arguments ⟨config, call⟩ {} ((call.bind s).take k)

/-- All arguments of a call. -/
def allArguments (config : Config) (call : Invocation) (s : Signature) : Inquiry Progress :=
  arguments ⟨config, call⟩ {} (call.bind s)

theorem firstArguments_length (h : s.Sound) :
    firstArguments config call s s.arguments.length = allArguments config call s := by
  unfold firstArguments allArguments
  rw [List.take_of_length_le (Nat.le_of_eq (call.length_bind h))]

/-! ## Aborts -/

theorem abort_allArguments_iff (a : Abort) :
    ((allArguments config call s).run w).abort = some a ↔
      ∃ q ∈ (allArguments config call s).asked w, w.answer q = .error (.abort a) :=
  arguments_abort_iff _ a

theorem firstArguments_done_iff :
    ((firstArguments config call s k).run w).abort = none ↔
      ∀ q ∈ (firstArguments config call s k).asked w, ∀ a, w.answer q ≠ .error (.abort a) := by
  rw [Option.eq_none_iff_forall_ne_some]
  unfold firstArguments
  simp only [ne_eq, arguments_abort_iff, not_exists, not_and]
  exact forall_comm.trans (forall_congr' fun q => forall_comm)

/-- After an abort nothing is added to the first arguments. -/
theorem run_allArguments_of_aborted {a : Abort}
    (aborted : ((firstArguments config call s k).run w).abort = some a) :
    (allArguments config call s).run w = (firstArguments config call s k).run w := by
  have all := run_arguments_append_aborted aborted ((call.bind s).drop k)
  rw [List.take_append_drop] at all
  exact all

/-- An abort during an argument leaves the lines of the arguments before it. -/
theorem run_allArguments_aborted_at (h : s.Sound) (hk : k < s.arguments.length) {a : Abort}
    (done : ((firstArguments config call s k).run w).abort = none)
    (aborted : ((firstArguments config call s (k + 1)).run w).abort = some a) :
    ((allArguments config call s).run w).abort = some a ∧
      ((allArguments config call s).run w).lines =
        ((firstArguments config call s k).run w).lines := by
  have ha : s.arguments[k]? = some s.arguments[k] := List.getElem?_eq_getElem hk
  have next : (call.bind s)[k]? = some (s.arguments[k], call.register k) := by
    rw [call.getElem?_bind h, ha, Option.map_some]
  unfold firstArguments at aborted
  rw [List.take_add_one, next] at aborted
  unfold allArguments
  rw [call.bind_eq_append h ha]
  exact run_arguments_aborted_at done aborted _

/-! ## Lines -/

theorem length_firstArguments (h : s.Sound) (hk : k ≤ s.arguments.length)
    (done : ((firstArguments config call s k).run w).abort = none) :
    ((firstArguments config call s k).run w).lines.length = k := by
  have length := length_arguments_of_done done
  rw [List.length_take, call.length_bind h] at length
  unfold firstArguments
  omega

theorem names_firstArguments (h : s.Sound)
    (done : ((firstArguments config call s k).run w).abort = none) :
    ((firstArguments config call s k).run w).lines.map Line.name =
      (s.arguments.take k).map Argument.displayName := by
  have names := @names_arguments ⟨config, call⟩ {} w ((call.bind s).take k)
  rw [length_arguments_of_done done, ← List.length_map, List.take_length] at names
  unfold firstArguments
  rw [names, call.bind_eq h, ← List.map_take, List.map_map]
  rfl

theorem length_firstArguments_lt {a : Abort}
    (aborted : ((firstArguments config call s k).run w).abort = some a) :
    ((firstArguments config call s k).run w).lines.length < k := by
  have short := @length_arguments ⟨config, call⟩ {} w ((call.bind s).take k)
  unfold firstArguments at aborted ⊢
  rw [aborted, if_neg (Option.some_ne_none a), List.length_take] at short
  omega

/-- The lines of the first arguments are the first lines of all. -/
theorem take_lines_allArguments (h : s.Sound) (hk : k ≤ s.arguments.length)
    (done : ((firstArguments config call s k).run w).abort = none) :
    ((allArguments config call s).run w).lines.take k =
      ((firstArguments config call s k).run w).lines := by
  have length := length_firstArguments h hk done
  unfold allArguments
  rw [← List.take_append_drop k (call.bind s), run_arguments_append done]
  exact List.take_left' length

/-- Where another world answers alike what is asked for the first arguments, they have the same
lines in it, whatever it answers later. -/
theorem take_lines_of_agree (h : s.Sound) (hk : k ≤ s.arguments.length) {w' : World}
    (done : ((firstArguments config call s k).run w).abort = none)
    (agree : ∀ q ∈ (firstArguments config call s k).asked w, w.answer q = w'.answer q) :
    ((allArguments config call s).run w').lines.take k =
      ((firstArguments config call s k).run w).lines := by
  obtain ⟨same, -⟩ := (firstArguments config call s k).run_congr agree
  rw [same] at done ⊢
  exact take_lines_allArguments h hk done

/-- The line of an argument is its text in the state that the arguments before it leave. -/
theorem getElem?_lines_allArguments (h : s.Sound) {i : Nat} {a : Argument}
    (ha : s.arguments[i]? = some a)
    (done : ((firstArguments config call s i).run w).abort = none) :
    ((allArguments config call s).run w).lines[i]? =
      (((argumentText ⟨config, call⟩ ((firstArguments config call s i).run w).state a
        (call.register i)).on w).map Prod.fst).toOption.map (argumentLine a) := by
  have length : ((call.bind s).take i).length = i := by
    have := (List.getElem?_eq_some_iff.1 ha).1
    rw [List.length_take, call.length_bind h]
    omega
  have line := @line_of_argument ⟨config, call⟩ {} w _ ((call.bind s).drop (i + 1)) a
    (call.register i) done
  rw [length, ← call.bind_eq_append h ha] at line
  exact line

end SyscallDecode.Decode
