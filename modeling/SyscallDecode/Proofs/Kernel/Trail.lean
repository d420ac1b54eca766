/-
Trails through kernel memory. A trail is a list of words that are read one after the other, each
with the condition on which the walk goes on. A walk along a trail ends at the first word that
cannot be read or is refused, and asks for none behind it.
-/
import SyscallDecode.Kernel.Descriptor

namespace SyscallDecode.Kernel

/-! ## Words and waypoints -/

/-- What kernel memory holds at an address; zero where it cannot be read. -/
def wordAt (t : Target) (address : UInt64) (size : Nat) : UInt64 :=
  (t.readUnsigned .kernel address size).toOption.getD 0

/-- A pointer in kernel memory. -/
def pointerAt (t : Target) (address : UInt64) : UInt64 :=
  wordAt t address CType.pointerSize

/-- A word on a trail, and which words the walk goes on from. -/
structure Waypoint where
  address : UInt64
  size : Nat
  accepts : UInt64 → Prop
  /-- Why the walk ends with a word that is not accepted. -/
  refusal : UInt64 → String

namespace Waypoint

/-- A pointer that must not be null. -/
def link (address : UInt64) (null : String) : Waypoint :=
  ⟨address, CType.pointerSize, (· ≠ 0), fun _ => null⟩

/-- A word that may be anything. -/
def any (address : UInt64) (size : Nat) : Waypoint :=
  ⟨address, size, fun _ => True, fun _ => ""⟩

/-- A word is asked for in one read. -/
def question (p : Waypoint) : Question :=
  .read .kernel p.address (min p.size 8)

/-- The walk goes on from the word. -/
def Passed (t : Target) (p : Waypoint) : Prop :=
  ∃ word, t.readUnsigned .kernel p.address p.size = .ok word ∧ p.accepts word

end Waypoint

/-- A walk along a trail ends before it is through: what it has asked by then, and with which stop
it ends. -/
inductive BreaksOff (t : Target) : List Waypoint → List Question → Stop → Prop
  /-- The next word cannot be read. -/
  | unreadable {p : Waypoint} {rest : List Waypoint} {stop : Stop} :
      t.readUnsigned .kernel p.address p.size = .error stop →
      BreaksOff t (p :: rest) [p.question] stop
  /-- The next word is refused. -/
  | refused {p : Waypoint} {rest : List Waypoint} {word : UInt64} :
      t.readUnsigned .kernel p.address p.size = .ok word → ¬ p.accepts word →
      BreaksOff t (p :: rest) [p.question] (.failure (.unresolved (p.refusal word)))
  /-- The walk ends further on. -/
  | later {p : Waypoint} {rest : List Waypoint} {asked : List Question} {stop : Stop} :
      p.Passed t → BreaksOff t rest asked stop → BreaksOff t (p :: rest) (p.question :: asked) stop

theorem BreaksOff.append {t : Target} {trail : List Waypoint} {asked : List Question} {stop : Stop}
    (h : BreaksOff t trail asked stop) (rest : List Waypoint) :
    BreaksOff t (trail ++ rest) asked stop := by
  induction h with
  | unreadable read => exact .unreadable read
  | refused read refused => exact .refused read refused
  | later passed _ ih => exact .later passed ih

theorem BreaksOff.after {t : Target} {passed : List Waypoint}
    (h : ∀ p ∈ passed, p.Passed t) {trail : List Waypoint} {asked : List Question} {stop : Stop}
    (broken : BreaksOff t trail asked stop) :
    BreaksOff t (passed ++ trail) (passed.map Waypoint.question ++ asked) stop := by
  induction passed with
  | nil => exact broken
  | cons p rest ih =>
    exact .later (h p List.mem_cons_self) (ih fun q hq => h q (List.mem_cons_of_mem _ hq))

/-! ## Readings along a trail -/

/-- A reading goes along a trail. If it comes through, it goes on like another reading. -/
inductive Follows {α : Type} (t : Target) (r : Reading α) (trail : List Waypoint)
    (next : Reading α) : Prop
  | broken {asked : List Question} {stop : Stop} : BreaksOff t trail asked stop →
      r.on t.world = .error stop → r.asked t.world = asked → Follows t r trail next
  | through : (∀ p ∈ trail, p.Passed t) → r.on t.world = next.on t.world →
      r.asked t.world = trail.map Waypoint.question ++ next.asked t.world → Follows t r trail next

namespace Follows

variable {α β : Type} {t : Target} {trail trail' : List Waypoint} {next : Reading α}

theorem refl (t : Target) (r : Reading α) : Follows t r [] r :=
  .through (fun _ h => by cases h) rfl rfl

/-- A reading of a word that goes on only from some words. -/
theorem word {address : UInt64} {size : Nat} {accepts : UInt64 → Prop} {refusal : UInt64 → String}
    {k : UInt64 → Reading α}
    (refuses : ∀ word, ¬ accepts word → k word = Reading.fail (.unresolved (refusal word)))
    (h : accepts (wordAt t address size) → Follows t (k (wordAt t address size)) trail next) :
    Follows t (Reading.unsigned .kernel address size >>= k)
      (⟨address, size, accepts, refusal⟩ :: trail) next := by
  have asked : (Reading.unsigned .kernel address size).asked t.world =
      [.read .kernel address (min size 8)] := by
    unfold Reading.unsigned
    rw [Course.asked_bind]
    cases (Reading.bytes .kernel address (min size 8)).on t.world <;> rfl
  cases read : (Reading.unsigned .kernel address size).on t.world with
  | error stop =>
    refine .broken (.unreadable read) (Course.on_bind_error _ read _) ?_
    rw [Course.asked_bind_error _ read, asked]
    rfl
  | ok word =>
    have value : wordAt t address size = word := by
      unfold wordAt Target.readUnsigned
      rw [read]
      rfl
    rw [value] at h
    have on := Course.on_bind_ok _ read k
    have asks := Course.asked_bind_ok _ read k
    rw [asked] at asks
    by_cases accepted : accepts word
    · have passed : Waypoint.Passed t ⟨address, size, accepts, refusal⟩ := ⟨word, read, accepted⟩
      cases h accepted with
      | broken off on' asked' =>
        exact .broken (.later passed off) (on.trans on') (asks.trans (congrArg _ asked'))
      | through all on' asked' =>
        refine .through ?_ (on.trans on') (asks.trans (congrArg _ asked'))
        intro p hp
        rcases List.mem_cons.1 hp with rfl | hp
        · exact passed
        · exact all p hp
    · rw [refuses word accepted] at on asks
      exact .broken (.refused read accepted) on asks

/-- A reading along a trail, and then one from its result. -/
theorem andThen {r : Reading β} {k : β → Reading α} {b : β} (h : Follows t r trail (pure b))
    (hk : Follows t (k b) trail' next) : Follows t (r >>= k) (trail ++ trail') next := by
  cases h with
  | broken off on asked =>
    refine .broken (off.append trail') (Course.on_bind_error _ on _) ?_
    rw [Course.asked_bind_error _ on, asked]
  | through all on asked =>
    have ok : r.on t.world = .ok b := on
    rw [Course.asked_pure, List.append_nil] at asked
    have on' := Course.on_bind_ok _ ok k
    have asked' := Course.asked_bind_ok _ ok k
    rw [asked] at asked'
    cases hk with
    | broken off' on'' asked'' =>
      exact .broken (off'.after all) (on'.trans on'') (asked'.trans (by rw [asked'']))
    | through all' on'' asked'' =>
      refine .through ?_ (on'.trans on'') ?_
      · intro p hp
        exact (List.mem_append.1 hp).elim (all p) (all' p)
      · rw [asked', asked'', List.map_append, List.append_assoc]

theorem link (t : Target) (address : UInt64) (null : String) :
    Follows t (follow address null) [.link address null] (pure (pointerAt t address)) := by
  refine word (fun word null => if_pos (Decidable.not_not.1 null)) fun accepted => ?_
  rw [if_neg accepted]
  exact .refl t _

theorem unsigned (t : Target) (address : UInt64) (size : Nat) {k : UInt64 → Reading α}
    (h : Follows t (k (wordAt t address size)) trail next) :
    Follows t (Reading.unsigned .kernel address size >>= k) (.any address size :: trail) next :=
  word (fun _ h => absurd trivial h) fun _ => h

end Follows

end SyscallDecode.Kernel
