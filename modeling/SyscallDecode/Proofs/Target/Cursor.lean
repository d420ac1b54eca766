/-
A cursor over any steps. What it points at is known from the steps alone: the last address that was
set, moved by all distances since, and the last type that was found. A step that fails leaves it
where it was, and so does a step that only reads.
-/
import Mathlib.Data.List.DropRight
import SyscallDecode.Proofs.Inquiry.Within
import SyscallDecode.Target.Cursor

namespace SyscallDecode.Cursor

/-! ## Where steps lead -/

/-- The address that a step sets. -/
def Step.address? : Step → Option UInt64
  | .goTo address => some address
  | _ => none

/-- How far a step moves. -/
def Step.distance : Step → Int
  | .move offset => offset.toInt
  | _ => 0

/-- The type that a step finds. -/
def Step.type? (t : Target) : Step → Option CType
  | .retype name => (t.typeNamed name).toOption
  | _ => none

/-- How far steps move together. -/
def travelled : List Step → Int
  | [] => 0
  | s :: rest => s.distance + travelled rest

/-- Steps that look at what the cursor points at. -/
def Step.isReading : Step → Bool
  | .size | .value | .render => true
  | _ => false

/-- The last address that steps set; zero if they set none. -/
def lastAddress (steps : List Step) : UInt64 :=
  (steps.filterMap Step.address?).getLast?.getD 0

/-- The steps behind the last one that sets an address. -/
def sinceAddress (steps : List Step) : List Step :=
  steps.rtakeWhile fun s => s.address?.isNone

/-- The last type that steps find, if they find one. -/
def lastType (t : Target) (steps : List Step) : Option CType :=
  (steps.filterMap (Step.type? t)).getLast?

/-- Steps lead to this address: the last one they set, and the sum of the distances since, around
the ends of the space. -/
def LeadsTo (steps : List Step) (address : UInt64) : Prop :=
  (address.toNat : Int) =
    ((lastAddress steps).toNat + travelled (sinceAddress steps)) % UInt64.size

/-- What is known of a cursor from the steps that it made. -/
structure Tracks (t : Target) (steps : List Step) (cursor : Cursor) : Prop where
  address : LeadsTo steps cursor.address
  type : cursor.type = lastType t steps

variable {t : Target} {space : AddressSpace} {cursor after : Cursor} {s : Step} {steps : List Step}
  {answer : Except Failure Answer}

theorem lastAddress_concat (steps : List Step) (s : Step) :
    lastAddress (steps ++ [s]) = s.address?.getD (lastAddress steps) := by
  unfold lastAddress
  rw [List.filterMap_append, List.getLast?_append]
  cases found : s.address? <;> simp [found]

theorem sinceAddress_concat (steps : List Step) (s : Step) :
    sinceAddress (steps ++ [s]) =
      if s.address?.isNone then sinceAddress steps ++ [s] else [] :=
  List.rtakeWhile_concat _ _ _

theorem travelled_concat (steps : List Step) (s : Step) :
    travelled (steps ++ [s]) = travelled steps + s.distance := by
  induction steps with
  | nil => exact Int.add_comm _ _
  | cons first rest ih => rw [List.cons_append, travelled, travelled, ih, Int.add_assoc]

theorem lastType_concat (t : Target) (steps : List Step) (s : Step) :
    lastType t (steps ++ [s]) = (s.type? t).or (lastType t steps) := by
  unfold lastType
  rw [List.filterMap_append, List.getLast?_append]
  cases found : s.type? t <;> simp [found]

/-! ## One more step -/

/-- The number of words, for sums around the ends of the space. -/
theorem cast_size : (UInt64.size : Int) = 18446744073709551616 := rfl

/-- A signed distance and the word added for it are the same around the ends of the space. -/
theorem toNat_toUInt64 (offset : Int64) :
    (offset.toUInt64.toNat : Int) = offset.toInt % UInt64.size := by
  have small := offset.toBitVec.isLt
  have word : offset.toUInt64.toNat = offset.toBitVec.toNat := rfl
  have signed : offset.toInt = offset.toBitVec.toInt := rfl
  have patterns : ((2 ^ 64 : Nat) : Int) = UInt64.size := rfl
  rw [word, signed, BitVec.toInt_eq_toNat_bmod, ← patterns, Int.bmod_emod]
  exact (Int.emod_eq_of_lt (Int.natCast_nonneg _) (Int.ofNat_lt.2 small)).symm

theorem leadsTo_goTo (steps : List Step) (address : UInt64) :
    LeadsTo (steps ++ [.goTo address]) address := by
  have small := address.toNat_lt
  unfold LeadsTo
  rw [lastAddress_concat, sinceAddress_concat, cast_size]
  show (address.toNat : Int) = (address.toNat + 0) % 18446744073709551616
  omega

/-- A step that sets no address adds its distance. -/
theorem LeadsTo.concat {address moved : UInt64} (h : LeadsTo steps address)
    (kept : s.address? = none)
    (by' : (moved.toNat : Int) = (address.toNat + s.distance) % UInt64.size) :
    LeadsTo (steps ++ [s]) moved := by
  unfold LeadsTo at h ⊢
  rw [lastAddress_concat, sinceAddress_concat, kept, by', h, cast_size]
  simp only [Option.getD_none, Option.isNone_none, if_true, travelled_concat]
  omega

theorem LeadsTo.move {address : UInt64} (h : LeadsTo steps address) (offset : Int64) :
    LeadsTo (steps ++ [.move offset]) (address + offset.toUInt64) := by
  refine h.concat rfl ?_
  have word := toNat_toUInt64 offset
  have sum := UInt64.toNat_add address offset.toUInt64
  rw [cast_size] at word ⊢
  show _ = (address.toNat + offset.toInt) % 18446744073709551616
  omega

/-- A step that does not move leads where the steps before it did. -/
theorem LeadsTo.still {address : UInt64} (h : LeadsTo steps address) (kept : s.address? = none)
    (none : s.distance = 0) : LeadsTo (steps ++ [s]) address := by
  have small := address.toNat_lt
  refine h.concat kept ?_
  rw [none, cast_size]
  omega

/-- What can come of a step: the cursor after it, and its answer. -/
inductive Outcome (t : Target) (space : AddressSpace) (cursor : Cursor) :
    Step → Cursor → Except Failure Answer → Prop
  | goTo (address : UInt64) :
    Outcome t space cursor (.goTo address) (cursor.goTo address) (.ok (.address address))
  | move (offset : Int64) :
    Outcome t space cursor (.move offset) (cursor.move offset)
      (.ok (.address (cursor.move offset).address))
  /-- A type that is known becomes the type of the cursor. -/
  | found (name : String) (type : CType) : t.typeNamed name = .ok type →
    Outcome t space cursor (.retype name) { cursor with type := some type } (.ok (.type type))
  | unknown (name : String) (f : Failure) : t.typeNamed name = .error (.failure f) →
    Outcome t space cursor (.retype name) cursor (.error f)
  | size : Outcome t space cursor .size cursor (.ok (.size cursor.size))
  | value (word : UInt64) : (cursor.value space).on t.world = .ok word →
    Outcome t space cursor .value cursor (.ok (.value word))
  | noValue (f : Failure) : (cursor.value space).on t.world = .error (.failure f) →
    Outcome t space cursor .value cursor (.error f)
  | render (text : String) : (cursor.render space).on t.world = .ok text →
    Outcome t space cursor .render cursor (.ok (.text text))
  | noText (f : Failure) : (cursor.render space).on t.world = .error (.failure f) →
    Outcome t space cursor .render cursor (.error f)

theorem outcome_of_on_step (h : (step space cursor s).on t.world = .ok (after, answer)) :
    Outcome t space cursor s after answer := by
  cases s with
  | goTo address => cases h; exact .goTo address
  | move offset => cases h; exact .move offset
  | size => cases h; exact .size
  | retype name =>
    unfold step at h
    rcases named : (Reading.typeNamed name).on t.world with (f | a) | type
    · rw [Course.on_bind_ok _ (Reading.on_settle_failure _ named)] at h
      cases h
      exact .unknown name f named
    · rw [Course.on_bind_error _ (Reading.on_settle_abort _ named)] at h
      cases h
    · rw [Course.on_bind_ok _ (Reading.on_settle_ok _ named)] at h
      cases h
      exact .found name type named
  | value =>
    unfold step at h
    rcases read : (cursor.value space).on t.world with (f | a) | word
    · rw [Course.on_bind_ok _ (Reading.on_settle_failure _ read)] at h
      cases h
      exact .noValue f read
    · rw [Course.on_bind_error _ (Reading.on_settle_abort _ read)] at h
      cases h
    · rw [Course.on_bind_ok _ (Reading.on_settle_ok _ read)] at h
      cases h
      exact .value word read
  | render =>
    unfold step at h
    rcases shown : (cursor.render space).on t.world with (f | a) | text
    · rw [Course.on_bind_ok _ (Reading.on_settle_failure _ shown)] at h
      cases h
      exact .noText f shown
    · rw [Course.on_bind_error _ (Reading.on_settle_abort _ shown)] at h
      cases h
    · rw [Course.on_bind_ok _ (Reading.on_settle_ok _ shown)] at h
      cases h
      exact .render text shown

/-- What is known of a cursor is known of it after one more step. -/
theorem Tracks.concat (h : Tracks t steps cursor) (o : Outcome t space cursor s after answer) :
    Tracks t (steps ++ [s]) after := by
  constructor
  · cases o with
    | goTo address => exact leadsTo_goTo steps address
    | move offset => exact h.address.move offset
    | _ => exact h.address.still rfl rfl
  · rw [lastType_concat]
    cases o with
    | found name type named => simp [Step.type?, named, Except.toOption]
    | unknown name f named => simp [Step.type?, named, Except.toOption, h.type]
    | _ => exact h.type

/-- A step that fails leaves the cursor as it was. -/
theorem Outcome.eq_of_failure {f : Failure} (o : Outcome t space cursor s after (.error f)) :
    after = cursor := by
  cases o <;> rfl

/-- A step that only reads leaves the cursor as it was. -/
theorem Outcome.eq_of_reading (o : Outcome t space cursor s after answer)
    (reading : s.isReading = true) : after = cursor := by
  cases o with
  | goTo | move | found => cases reading
  | _ => rfl

/-! ## Aborts -/

/-- A step may ask for anything and may fail by itself, but it aborts nothing. -/
def stepTerms : Terms where
  asks := fun _ => True
  stops := fun stop => ∃ f, stop = .failure f

theorem currentType_within (cursor : Cursor) : cursor.currentType.Within stepTerms := by
  unfold currentType
  split
  · exact .pure _
  · exact .stop _ ⟨_, rfl⟩

theorem step_within (space : AddressSpace) (cursor : Cursor) (s : Step) :
    (step space cursor s).Within stepTerms := by
  cases s with
  | goTo address => exact .pure _
  | move offset => exact .pure _
  | size => exact .pure _
  | retype name =>
    refine .bind (.settle trivial (.ask _ trivial)) fun ending => ?_
    cases ending <;> exact .pure _
  | value =>
    refine .bind (.settle trivial (.bind (currentType_within cursor) fun type => ?_))
      fun _ => .pure _
    split
    · exact .bind (.ask _ trivial) fun _ => .pure _
    · exact .stop _ ⟨_, rfl⟩
  | render =>
    exact .bind (.settle trivial (.bind (currentType_within cursor) fun type =>
      .bind (.ask _ trivial) fun _ => .pure _)) fun _ => .pure _

theorem steps_within (cursor : Cursor) (list : List (AddressSpace × Step)) :
    (Cursor.steps cursor list).Within stepTerms := by
  induction list generalizing cursor with
  | nil => exact .pure _
  | cons head rest ih =>
    exact .bind (step_within _ _ _) fun ended => .bind (ih ended.1) fun _ => .pure _

/-- Steps are aborted only by an abort among the answers to what they ask. -/
theorem answer_of_walk_error {list : List (AddressSpace × Step)} {a : Abort}
    (h : walk t cursor list = .error a) :
    ∃ q ∈ (Cursor.steps cursor list).asked t.world, t.world.answer q = .error (.abort a) := by
  refine ((steps_within cursor list).abort_iff ?_).1 (Telling.on_eq_error.1 h)
  rintro a ⟨f, stop⟩
  cases stop

/-! ## Steps one after the other -/

theorem walk_cons (t : Target) (cursor : Cursor) (space : AddressSpace) (s : Step)
    (rest : List (AddressSpace × Step)) :
    walk t cursor ((space, s) :: rest) =
      ((step space cursor s).on t.world).bind fun first =>
        (walk t first.1 rest).map fun later => (later.1, first.2 :: later.2) := by
  unfold walk
  rw [Cursor.steps, Course.on_bind]
  congr 1
  funext first
  rw [Course.on_bind]
  cases (Cursor.steps first.1 rest).on t.world <;> rfl

/-- A walk goes on from the cursor that its first part leads to. -/
theorem walk_append {done : List (AddressSpace × Step)} {answers : List (Except Failure Answer)}
    (h : walk t cursor done = .ok (after, answers)) (rest : List (AddressSpace × Step)) :
    walk t cursor (done ++ rest) =
      (walk t after rest).map fun later => (later.1, answers ++ later.2) := by
  induction done generalizing cursor answers with
  | nil =>
    cases h
    rw [List.nil_append]
    cases walk t after rest <;> rfl
  | cons head done ih =>
    obtain ⟨space, s⟩ := head
    rw [walk_cons] at h
    rw [List.cons_append, walk_cons]
    cases first : (step space cursor s).on t.world with
    | error a => rw [first] at h; cases h
    | ok ended =>
      rw [first] at h
      cases tail : walk t ended.1 done with
      | error a =>
        simp only [Except.bind, tail] at h
        cases h
      | ok later =>
        simp only [Except.bind, tail, Except.map, Except.ok.injEq, Prod.mk.injEq] at h
        obtain ⟨rfl, rfl⟩ := h
        simp only [Except.bind, ih tail]
        cases walk t later.1 rest <;> rfl

/-- What is known of a cursor from its steps is known of it after more steps. -/
theorem Tracks.walk {list : List (AddressSpace × Step)} {answers : List (Except Failure Answer)}
    (h : Tracks t steps cursor) (walked : walk t cursor list = .ok (after, answers)) :
    Tracks t (steps ++ list.map Prod.snd) after ∧ answers.length = list.length := by
  induction list generalizing cursor steps answers with
  | nil =>
    cases walked
    rw [List.map_nil, List.append_nil]
    exact ⟨h, rfl⟩
  | cons head rest ih =>
    obtain ⟨space, s⟩ := head
    rw [walk_cons] at walked
    cases first : (step space cursor s).on t.world with
    | error a => rw [first] at walked; cases walked
    | ok ended =>
      rw [first] at walked
      simp only [Except.bind] at walked
      cases tail : Cursor.walk t ended.1 rest with
      | error a => rw [tail] at walked; cases walked
      | ok later =>
        rw [tail] at walked
        cases walked
        obtain ⟨tracked, length⟩ := ih (h.concat (outcome_of_on_step first)) tail
        rw [List.append_assoc] at tracked
        exact ⟨tracked, congrArg (· + 1) length⟩

theorem tracks_nil (t : Target) : Tracks t [] {} :=
  ⟨rfl, rfl⟩

theorem walk_single (t : Target) (cursor : Cursor) (space : AddressSpace) (s : Step) :
    walk t cursor [(space, s)] =
      ((step space cursor s).on t.world).map fun ended => (ended.1, [ended.2]) := by
  rw [walk_cons]
  cases (step space cursor s).on t.world <;> rfl

theorem asked_single (w : World) (cursor : Cursor) (space : AddressSpace) (s : Step) :
    (Cursor.steps cursor [(space, s)]).asked w = (step space cursor s).asked w := by
  rw [Cursor.steps]
  cases first : (step space cursor s).on w with
  | error a => exact Course.asked_bind_error w first _
  | ok ended => exact (Course.asked_bind_ok w first _).trans (List.append_nil _)

theorem outcome_of_walk (h : walk t cursor [(space, s)] = .ok (after, [answer])) :
    Outcome t space cursor s after answer := by
  rw [walk_single] at h
  cases first : (step space cursor s).on t.world with
  | error a => rw [first] at h; cases h
  | ok ended =>
    rw [first] at h
    cases h
    exact outcome_of_on_step first

/-! ## Words -/

/-- The type of the cursor is a scalar that fits a word. -/
def HasScalar (cursor : Cursor) : Prop :=
  ∃ name size kind, cursor.type = some (.scalar name size kind) ∧ size ≤ 8

/-- Without such a type there is no word, and nothing is asked for one. -/
theorem value_refused (h : ¬ cursor.HasScalar) (w : World) (space : AddressSpace) :
    ∃ d, (cursor.value space).on w = .error (.failure (.badType d)) ∧
      (cursor.value space).asked w = [] := by
  obtain ⟨address, type⟩ := cursor
  cases type with
  | none => exact ⟨"<no type>", rfl, rfl⟩
  | some type =>
    have other : type.isScalar = false := by
      cases type with
      | scalar name size kind =>
        exact decide_eq_false fun small => h ⟨name, size, kind, rfl, small⟩
      | _ => rfl
    refine ⟨type.name ++ " is not a scalar type", ?_, ?_⟩
    · show (if type.isScalar = true then _ else Reading.fail _ : Reading UInt64).on w = _
      rw [other]
      rfl
    · show (if type.isScalar = true then _ else Reading.fail _ : Reading UInt64).asked w = _
      rw [other]
      rfl

/-- A scalar is read at once. -/
theorem asked_value {name : String} {size : Nat} {kind : ScalarKind}
    (typed : cursor.type = some (.scalar name size kind)) (small : size ≤ 8) (w : World)
    (space : AddressSpace) :
    (cursor.value space).asked w = [.read space cursor.address size] := by
  obtain ⟨address, type⟩ := cursor
  cases typed
  have read : (Reading.unsigned space address size).asked w =
      [.read space address (min size 8)] := by
    rw [Reading.unsigned, Course.asked_bind]
    cases (Reading.bytes space address (min size 8)).on w <;> rfl
  show (if decide (size ≤ 8) = true then Reading.unsigned space address size else _).asked w = _
  rw [if_pos (decide_eq_true small), read, Nat.min_eq_left small]

/-! ## Any steps -/

/-- What any further step makes of a cursor. -/
structure Onward (t : Target) (cursor : Cursor) : Prop where
  /-- A step that fails leaves the cursor as it was. -/
  failed : ∀ {space : AddressSpace} {s : Step} {after : Cursor} {f : Failure},
    walk t cursor [(space, s)] = .ok (after, [.error f]) → after = cursor
  /-- So does a step that only reads. -/
  reading : ∀ {space : AddressSpace} {s : Step} {after : Cursor} {answer : Except Failure Answer},
    s.isReading = true → walk t cursor [(space, s)] = .ok (after, [answer]) → after = cursor
  /-- The size is that of the type. -/
  size : ∀ space : AddressSpace, walk t cursor [(space, .size)] =
    .ok (cursor, [.ok (.size (match cursor.type with
      | some type => type.size
      | none => 0))])
  /-- There is no word but of a scalar, and then nothing is asked for one. -/
  refused : ¬ cursor.HasScalar → ∀ space : AddressSpace,
    (∃ d, walk t cursor [(space, .value)] = .ok (cursor, [.error (.badType d)])) ∧
      (Cursor.steps cursor [(space, .value)]).asked t.world = []
  /-- A scalar is read at once. -/
  asked : ∀ {name : String} {size : Nat} {kind : ScalarKind},
    cursor.type = some (.scalar name size kind) → size ≤ 8 → ∀ space : AddressSpace,
    (Cursor.steps cursor [(space, .value)]).asked t.world = [.read space cursor.address size]

theorem onward (t : Target) (cursor : Cursor) : Onward t cursor := by
  constructor
  case failed => exact fun walked => (outcome_of_walk walked).eq_of_failure
  case reading => exact fun reads walked => (outcome_of_walk walked).eq_of_reading reads
  case size =>
    intro space
    rw [walk_single]
    show Except.ok (cursor, [Except.ok (Answer.size cursor.size)]) = _
    unfold Cursor.size
    cases cursor.type <;> rfl
  case refused =>
    intro other space
    obtain ⟨d, fails, asks⟩ := value_refused other t.world space
    constructor
    · have settled := Reading.on_settle_failure _ fails
      refine ⟨d, ?_⟩
      rw [walk_single, step, Course.on_bind_ok _ settled]
      rfl
    · rw [asked_single, step, Course.asked_bind_ok _ (Reading.on_settle_failure _ fails),
        Reading.asked_settle, asks]
      rfl
  case asked =>
    intro name size kind typed small space
    have asks := asked_value typed small t.world space
    rw [asked_single, step, Course.asked_bind, Reading.asked_settle, asks]
    cases (cursor.value space).settle.on t.world <;> rfl

/-- A fresh cursor after any steps, each in a space of its own. Unless a question of theirs was
answered with an abort, its address is the last one set, or zero, and the sum of the distances since
around the ends of the space, and its type is the last one found; each further step goes on from
there. -/
theorem walk_tracked (t : Target) (done : List (AddressSpace × Step)) :
    (∃ cursor answers, walk t {} done = .ok (cursor, answers) ∧ answers.length = done.length ∧
      Tracks t (done.map Prod.snd) cursor ∧ Onward t cursor ∧
      ∀ rest, walk t {} (done ++ rest) =
        (walk t cursor rest).map fun later => (later.1, answers ++ later.2)) ∨
    ∃ a, walk t {} done = .error a ∧
      ∃ q ∈ (Cursor.steps {} done).asked t.world, t.world.answer q = .error (.abort a) := by
  cases walked : walk t {} done with
  | ok ended =>
    obtain ⟨cursor, answers⟩ := ended
    obtain ⟨tracked, length⟩ := (tracks_nil t).walk walked
    exact .inl ⟨cursor, answers, rfl, length, tracked, onward t cursor, walk_append walked⟩
  | error a => exact .inr ⟨a, rfl, answer_of_walk_error walked⟩

/-- A move leads around the end of the space, and a type that is not found leaves the one before. -/
example : (walk (.catalogued fun _ => .ok 0) {} [(.kernel, .goTo 1), (.kernel, .retype "int"),
    (.kernel, .move (-2)), (.kernel, .retype "struct none")]).toOption.map
      (fun ended => (ended.1.address, ended.1.size)) = some (0xFFFFFFFFFFFFFFFF, 4) := by
  decide +kernel

end SyscallDecode.Cursor
