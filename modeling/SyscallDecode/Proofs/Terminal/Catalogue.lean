/-
The types of the catalogue have safe names where they are asked for by safe names: the normal form
of a name only drops characters and sets blanks, and all names of members are written out in the
catalogue.
-/
import SyscallDecode.Proofs.Terminal.Kernel
import SyscallDecode.Proofs.Terminal.Readings

namespace SyscallDecode

namespace Text

/-! ## Words -/

theorem mem_of_mem_headWord (cs : List Char) :
    (∀ c ∈ (headWord cs).1, c ∈ cs) ∧ ∀ w ∈ (headWord cs).2, ∀ c ∈ w, c ∈ cs := by
  induction cs with
  | nil => simp [headWord]
  | cons d ds ih =>
    obtain ⟨first, others⟩ := ih
    have later : ∀ w ∈ (headWord ds).2, ∀ c ∈ w, c ∈ d :: ds := fun w hw c hc =>
      List.mem_cons_of_mem _ (others w hw c hc)
    unfold headWord
    dsimp only
    split
    · refine ⟨fun c hc => (List.not_mem_nil hc).elim, fun w hw => ?_⟩
      unfold consWord at hw
      split at hw
      · exact later w hw
      · rcases List.mem_cons.1 hw with rfl | hw
        · exact fun c hc => List.mem_cons_of_mem _ (first c hc)
        · exact later w hw
    · refine ⟨fun c hc => ?_, later⟩
      rcases List.mem_cons.1 hc with rfl | hc
      · exact List.mem_cons_self
      · exact List.mem_cons_of_mem _ (first c hc)

/-- The words of a text consist of its characters. -/
theorem mem_of_mem_words {cs w : List Char} {c : Char} (hw : w ∈ words cs) (hc : c ∈ w) :
    c ∈ cs := by
  obtain ⟨first, others⟩ := mem_of_mem_headWord cs
  unfold words consWord at hw
  split at hw
  · exact others w hw c hc
  · rcases List.mem_cons.1 hw with rfl | hw
    · exact first c hc
    · exact others w hw c hc

end Text

open SyscallDecode.Text

namespace CType

/-! ## Normal forms -/

theorem mem_of_mem_closeStars {cs : List Char} {c : Char} (h : c ∈ closeStars cs) : c ∈ cs := by
  fun_induction closeStars cs with
  | case1 rest ih =>
    rcases List.mem_cons.1 h with rfl | h
    · simp
    · exact List.mem_cons_of_mem _ (List.mem_cons_of_mem _ (ih h))
  | case2 d rest _ ih =>
    rcases List.mem_cons.1 h with rfl | h
    · exact List.mem_cons_self
    · exact List.mem_cons_of_mem _ (ih h)
  | case3 => exact h

theorem mem_joinWords {ws : List (List Char)} {c : Char} (h : c ∈ joinWords ws) :
    c = ' ' ∨ ∃ w ∈ ws, c ∈ w := by
  fun_induction joinWords ws with
  | case1 => cases h
  | case2 w => exact .inr ⟨w, List.mem_cons_self, h⟩
  | case3 w ws _ ih =>
    rcases List.mem_append.1 h with h | h
    · exact .inr ⟨w, List.mem_cons_self, h⟩
    rcases List.mem_cons.1 h with rfl | h
    · exact .inl rfl
    · obtain rfl | ⟨v, hv, hc⟩ := ih h
      · exact .inl rfl
      · exact .inr ⟨v, List.mem_cons_of_mem _ hv, hc⟩

theorem safe_normalizeName {name : String} (h : Safe name) : Safe (normalizeName name) := by
  unfold Safe at h
  refine safe_ofList.2 fun c hc => ?_
  obtain rfl | ⟨w, hw, hc⟩ := mem_joinWords (mem_of_mem_closeStars hc)
  · decide
  · exact h c (mem_of_mem_words (List.mem_filter.1 hw).1 hc)

/-! ## The catalogue -/

theorem safe_structLayouts :
    ∀ entry ∈ structLayouts, ∀ n ∈ memberNames entry.2.2, Safe n := by
  have bytes : ∀ entry ∈ structLayouts, ∀ n ∈ memberNames entry.2.2, allSafeBytes n := by
    decide +kernel
  exact fun entry he n hn => safe_of_bytes (bytes entry he n hn)

/-- A type of the catalogue has its safe normal form as its name, and safe names inside. -/
theorem safe_findNormal {name : String} (h : Safe name) {type : CType}
    (found : findNormal name = some type) : ∀ n ∈ type.names, Safe n := by
  unfold findNormal at found
  split at found
  · cases found
    exact List.forall_mem_singleton.2 h
  simp only [Option.orElse_eq_orElse, Option.orElse_eq_or, Option.or_eq_some_iff] at found
  obtain scalar | ⟨-, struct | ⟨-, blob⟩⟩ := found
  · obtain ⟨entry, -, rfl⟩ := Option.map_eq_some_iff.1 scalar
    exact List.forall_mem_singleton.2 h
  · obtain ⟨layout, found, rfl⟩ := Option.map_eq_some_iff.1 struct
    exact List.forall_mem_cons.2 ⟨h, safe_structLayouts _ (Flags.mem_of_lookup found)⟩
  · obtain ⟨size, -, rfl⟩ := Option.map_eq_some_iff.1 blob
    exact List.forall_mem_singleton.2 h

theorem safe_builtin? {name : String} (h : Safe name) {type : CType}
    (found : builtin? name = some type) : ∀ n ∈ type.names, Safe n :=
  safe_findNormal (safe_normalizeName h) found

end CType

/-- A target with the types of the catalogue and readable memory is safe, whatever its memory
holds. -/
theorem Target.safe_catalogued {byte : AddressSpace → Attempt UInt8}
    (stops : ∀ space stop, byte space = .error stop → stop.Safe) :
    (Target.catalogued byte).Safe where
  types name named type found := by
    rw [typeNamed_catalogued] at found
    cases known : CType.builtin? name with
    | none => rw [known] at found; cases found
    | some builtin =>
      rw [known] at found
      cases found
      exact CType.safe_builtin? named known
  typeStops name named stop found := by
    rw [typeNamed_catalogued] at found
    cases known : CType.builtin? name with
    | none =>
      rw [known] at found
      cases found
      exact safe_badType named
    | some builtin => rw [known] at found; cases found
  readStops space address length stop read := by
    have answer : (byte space).map (List.replicate length) = .error stop := read
    cases hb : byte space with
    | ok b => rw [hb] at answer; cases answer
    | error reason =>
      rw [hb] at answer
      cases answer
      exact stops space stop hb
  symbolAborts name a found := by cases found

end SyscallDecode
