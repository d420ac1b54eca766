/-
Limits. What a user chooses decides how much is shown and whether the mapped areas are, and nothing
else. Two decodings under different choices are followed argument by argument: they come to the same
but for the overlays that a limit is for, and the limit of a buffer cuts the bytes that are shown.
-/
import SyscallDecode.Proofs.Decode.Containment
import SyscallDecode.Proofs.Decode.Lengths
import SyscallDecode.Proofs.Inquiry.Buffers

namespace SyscallDecode

/-! ## Two tellings -/

namespace Telling

variable {α β : Type} {w : World} {R : α → α → Prop} {Q : β → β → Prop}

/-- Two tellings come to the same in a world: to one abort, or to related results. -/
def Related (w : World) (R : α → α → Prop) (c c' : Telling α) : Prop :=
  (∃ a, c.on w = .error a ∧ c'.on w = .error a) ∨
    ∃ x y, c.on w = .ok x ∧ c'.on w = .ok y ∧ R x y

theorem Related.pure {x y : α} (h : R x y) : Related w R (pure x) (pure y) :=
  .inr ⟨x, y, rfl, rfl, h⟩

theorem Related.refl (h : ∀ x, R x x) (c : Telling α) : Related w R c c := by
  unfold Related
  cases c.on w with
  | error a => exact .inl ⟨a, rfl, rfl⟩
  | ok x => exact .inr ⟨x, x, rfl, rfl, h x⟩

theorem Related.bind {c c' : Telling α} {k k' : α → Telling β} (first : Related w R c c')
    (next : ∀ x y, R x y → Related w Q (k x) (k' y)) : Related w Q (c >>= k) (c' >>= k') := by
  rcases first with ⟨a, on, on'⟩ | ⟨x, y, on, on', related⟩
  · exact .inl ⟨a, Course.on_bind_error w on k, Course.on_bind_error w on' k'⟩
  · unfold Related
    rw [Course.on_bind_ok w on, Course.on_bind_ok w on']
    exact next x y related

/-- Two readings with the same aborts are settled alike, whatever else comes of them. -/
theorem Related.settle {r r' : Reading α}
    (aborts : ∀ a, r.on w = .error (.abort a) ↔ r'.on w = .error (.abort a)) :
    Related w (fun _ _ => True) r.settle r'.settle := by
  have settled (r : Reading α) : (∃ a, r.on w = .error (.abort a)) ∨
      ∃ x, r.settle.on w = .ok x := by
    rcases h : r.on w with (f | a) | x
    · exact .inr ⟨_, Reading.on_settle_failure w h⟩
    · exact .inl ⟨a, rfl⟩
    · exact .inr ⟨_, Reading.on_settle_ok w h⟩
  rcases settled r with ⟨a, aborted⟩ | ⟨x, on⟩
  · have aborted' := (aborts a).1 aborted
    exact .inl ⟨a, Reading.on_settle_abort w aborted, Reading.on_settle_abort w aborted'⟩
  · rcases settled r' with ⟨a, aborted'⟩ | ⟨y, on'⟩
    · rw [Reading.on_settle_abort w ((aborts a).2 aborted')] at on
      cases on
    · exact .inr ⟨x, y, on, on', trivial⟩

end Telling

/-! ## Overlays under two choices -/

/-- The role of what the limit of buffers is for. -/
def Role.IsBuffer (role : Role) : Prop :=
  ∃ l, role = .buffer l

/-- The roles of what the limit of strings is for. -/
def Role.IsString (role : Role) : Prop :=
  role = .path ∨ role = .stringArray

namespace Overlay

variable {w : World} {space : AddressSpace} {config config' : Config} {call : Invocation}
  {arg : Argument} {l : Nat} {address count : UInt64} {bytes : List UInt8} {text : String}

/-- No choice but the limit for its role changes an overlay. -/
theorem ofRole_config_congr
    (buffers : arg.role.IsBuffer → config.bufferLimit = config'.bufferLimit)
    (strings : arg.role.IsString → config.stringLimit = config'.stringLimit)
    (space : AddressSpace) (call : Invocation) (address : UInt64) :
    ofRole space config call arg address = ofRole space config' call arg address := by
  unfold ofRole
  cases role : arg.role with
  | path => rw [strings (.inl role)]
  | buffer l => simp only [buffer, buffers ⟨l, role⟩]
  | stringArray => rw [strings (.inr role)]
  | _ => rfl

/-- What is read of memory only, or fails by the call. -/
def memoryTerms (space : AddressSpace) : Terms where
  asks q := ∃ address length, q = .read space address length
  stops stop := ∃ f : Failure, f.OfCall ∧ stop = .failure f

theorem on_ne_abort_of_within {α : Type} {r : Reading α} (calm : w.target.Calm)
    (within : r.Within (memoryTerms space)) (a : Abort) : r.on w ≠ .error (.abort a) := by
  intro aborted
  rcases within.stop_or_answer (Reading.stop?_eq_some.2 aborted) with ⟨f, -, stop⟩ | ⟨q, hq, answer⟩
  · cases stop
  · obtain ⟨address, length, rfl⟩ := within.asks_of_mem q hq
    exact calm space address length a answer

/-- Limits have no part in aborts: those of an overlay are those of the types it asks for. -/
theorem on_ofRole_abort_iff (calm : w.target.Calm) (a : Abort) :
    (ofRole space config call arg address).on w = .error (.abort a) ↔
      (ofRole space config' call arg address).on w = .error (.abort a) := by
  have reads : (memoryTerms space).Reads space := fun address length => ⟨address, length, rfl⟩
  have fails : (memoryTerms space).FailsByCall := fun f hf => ⟨f, hf, rfl⟩
  unfold ofRole
  cases role : arg.role with
  | path =>
    exact iff_of_false (on_ne_abort_of_within calm (whole_within (path_within reads _ _)) a)
      (on_ne_abort_of_within calm (whole_within (path_within reads _ _)) a)
  | buffer l =>
    exact iff_of_false
      (on_ne_abort_of_within calm (whole_within (buffer_within reads fails _ _ _ _)) a)
      (on_ne_abort_of_within calm (whole_within (buffer_within reads fails _ _ _ _)) a)
  | stringArray =>
    have entries (limit : Nat) (type : CType) := on_ne_abort_of_within calm
      (.bind (stringEntries_within trivial reads fails arg.displayName limit type 0 maxStrings
        address) fun entries => .pure ((Noted.all entries).map String.join)) a
    dsimp only
    unfold stringArray
    rw [Course.on_bind_eq_error, Course.on_bind_eq_error]
    refine or_congr_right (iff_of_false ?_ ?_)
    · rintro ⟨type, -, aborted⟩
      exact entries _ type aborted
    · rintro ⟨type, -, aborted⟩
      exact entries _ type aborted
  | _ => exact Iff.rfl

/-! ## Buffers -/

theorem on_sibling_eq_ok : (sibling call l).on w = .ok count ↔ call.register l = .ok count := by
  unfold sibling
  cases call.register l with
  | error f => exact iff_of_false nofun nofun
  | ok value => simp [Attempt.ofResult]

/-- What is said of a buffer of which only the first bytes are shown. -/
def cutNote (shown count : Nat) : String :=
  " (first " ++ toString shown ++ " of " ++ toString count ++ " bytes)"

/-- A buffer is shown by the bytes that are wanted of it, and says how many there are. -/
theorem on_buffer_eq_ok :
    (buffer space config call l address).on w = .ok text ↔
      ∃ count bytes, call.register l = .ok count ∧
        (Reading.buffer space address (wantedBytes config.bufferLimit count.toNat)).on w =
          .ok bytes ∧
        text = bufferText count.toNat bytes ++
          if wantedBytes config.bufferLimit count.toNat < count.toNat then
            cutNote (wantedBytes config.bufferLimit count.toNat) count.toNat
          else "" := by
  unfold buffer
  rw [Course.on_bind_eq_ok]
  refine exists_congr fun count => ?_
  rw [on_sibling_eq_ok, Course.on_bind_eq_ok, exists_and_left]
  refine and_congr_right fun _ => exists_congr fun bytes => and_congr_right fun _ => ?_
  dsimp only
  split
  · rw [Course.on_pure, Except.ok.injEq, eq_comm]
    simp only [cutNote, String.append_assoc]
  · rw [Course.on_pure, Except.ok.injEq, eq_comm, String.append_empty]

theorem getLast?_cutNote (shown count : Nat) :
    (cutNote shown count).toList.getLast? = some ')' := by
  unfold cutNote
  rw [String.toList_append, List.getLast?_append]
  rfl

theorem getLast?_bufferText (count : Nat) (bytes : List UInt8) :
    (bufferText count bytes).toList.getLast? = some '"' := by
  unfold bufferText Text.quote
  rw [String.toList_append, String.toList_ofList, List.getLast?_append, List.getLast?_append]
  rfl

/-- A text that is not cut does not end like one that is. -/
theorem cutNote_suffix_iff (shown count : Nat) (bytes : List UInt8) (cut : Prop) [Decidable cut] :
    (cutNote shown count).toList <:+
        (bufferText count bytes ++ if cut then cutNote shown count else "").toList ↔ cut := by
  by_cases h : cut
  · rw [if_pos h, String.toList_append]
    exact iff_of_true (List.suffix_append _ _) h
  · refine iff_of_false ?_ h
    rw [if_neg h, String.append_empty]
    rintro ⟨before, same⟩
    have last := congrArg List.getLast? same
    rw [List.getLast?_append, getLast?_cutNote, getLast?_bufferText] at last
    cases last

end Overlay

/-! ## Arguments under two choices -/

namespace Decode

variable {w : World} {config config' : Config} {call : Invocation} {arg : Argument} {fixed : Prop}
  {s s' : State} {sig : Signature}

section Argument

variable (calm : w.target.Calm) (same : fixed → ∀ address,
  Overlay.ofRole (.user call.root) config call arg address =
    Overlay.ofRole (.user call.root) config' call arg address)

include calm same

/-- What stands behind a pointer is the same where the overlay is. -/
theorem overlayText_related (value : UInt64) :
    Telling.Related w (fun x y => fixed → x = y) (overlayText ⟨config, call⟩ arg value)
      (overlayText ⟨config', call⟩ arg value) := by
  by_cases h : fixed
  · unfold overlayText Context.space
    rw [same h]
    exact .refl (fun _ _ => rfl) _
  · refine .bind (.settle (Overlay.on_ofRole_abort_iff calm)) fun ending ending' _ => ?_
    cases ending <;> cases ending' <;> exact .pure fun h' => absurd h' h

theorem pointerText_related (value : UInt64) :
    Telling.Related w (fun x y => fixed → x = y) (pointerText ⟨config, call⟩ arg value)
      (pointerText ⟨config', call⟩ arg value) := by
  unfold pointerText
  dsimp only
  split
  · exact .pure fun _ => rfl
  refine .bind (R := fun x y => fixed → x = y) ?_ fun x y pointee => .pure fun h => by rw [pointee h]
  refine .bind (.refl (fun _ => rfl) _) ?_
  rintro (f | type) _ rfl
  · exact .pure fun _ => rfl
  refine .bind (.refl (fun _ => rfl) _) ?_
  rintro (f | text) _ rfl
  · exact .pure fun _ => rfl
  exact .bind (overlayText_related calm same value) fun x y overlay =>
    .pure fun h => by rw [overlay h]

end Argument

/-- What two runs share of an argument: whether a mapping has a file behind it, and the text where
nothing in it depends on a choice. -/
def SharesText (fixed : Prop) (x y : String × State) : Prop :=
  (fixed → x.1 = y.1) ∧ x.2.anonymous = y.2.anonymous

/-- Values depend on no choice, nor on what was missed before them. -/
theorem valueText_related (anonymous : s.anonymous = s'.anonymous) (value : UInt64) :
    Telling.Related w (SharesText fixed) (valueText s arg value) (valueText s' arg value) := by
  unfold valueText
  refine .bind (.refl (fun _ => rfl) _) ?_
  rintro (f | type) _ rfl
  · exact .pure ⟨fun _ => rfl, anonymous⟩
  · rw [anonymous]
    refine .bind (.refl (fun _ => rfl) _) ?_
    rintro note _ rfl
    exact .pure ⟨fun _ => rfl, congrArg (· || _) anonymous⟩

theorem argumentText_related (calm : w.target.Calm) (same : fixed → ∀ address,
      Overlay.ofRole (.user call.root) config call arg address =
        Overlay.ofRole (.user call.root) config' call arg address)
    (anonymous : s.anonymous = s'.anonymous) (register : Except Failure UInt64) :
    Telling.Related w (SharesText fixed) (argumentText ⟨config, call⟩ s arg register)
      (argumentText ⟨config', call⟩ s' arg register) := by
  unfold argumentText
  cases register with
  | error f => exact .pure ⟨fun _ => rfl, anonymous⟩
  | ok value =>
    dsimp only
    split
    · exact .bind (pointerText_related calm same value) fun x y texts =>
        .pure ⟨fun h => by rw [texts h], anonymous⟩
    · exact valueText_related anonymous value

/-! ## All arguments under two choices -/

/-- Two runs through the same arguments: one ending, and one line for every argument whose role is
not among these. -/
structure SharesLines (roles : Role → Prop) (bound : List (Argument × Except Failure UInt64))
    (p q : Progress) : Prop where
  abort : p.abort = q.abort
  names : p.lines.map Line.name = q.lines.map Line.name
  lines : ∀ (i : Nat) (b : Argument × Except Failure UInt64), bound[i]? = some b →
    ¬ roles b.1.role → p.lines[i]? = q.lines[i]?

variable {roles : Role → Prop}

/-- Overlays of all other roles are the same under two choices. -/
def SameOverlays (roles : Role → Prop) (config config' : Config) : Prop :=
  ∀ arg : Argument, ¬ roles arg.role → ∀ space call address,
    Overlay.ofRole space config call arg address = Overlay.ofRole space config' call arg address

theorem arguments_sharesLines (calm : w.target.Calm) (same : SameOverlays roles config config')
    (anonymous : s.anonymous = s'.anonymous) (bound : List (Argument × Except Failure UInt64)) :
    SharesLines roles bound ((arguments ⟨config, call⟩ s bound).run w)
      ((arguments ⟨config', call⟩ s' bound).run w) := by
  induction bound generalizing s s' with
  | nil => exact ⟨rfl, rfl, fun i b h => by cases h⟩
  | cons head rest ih =>
    obtain ⟨arg, register⟩ := head
    obtain ⟨a, on, on'⟩ | ⟨⟨text, after⟩, ⟨text', after'⟩, on, on', texts, anonymous'⟩ :=
      argumentText_related calm (fun other => same arg other (.user call.root) call) anonymous
        register
    · rw [run_arguments_cons_error on, run_arguments_cons_error on']
      exact ⟨rfl, rfl, fun _ _ _ _ => rfl⟩
    · have later := ih anonymous'
      rw [run_arguments_cons_ok on, run_arguments_cons_ok on']
      refine ⟨later.abort, congrArg (arg.displayName :: ·) later.names, fun i b hb other => ?_⟩
      cases i with
      | zero =>
        cases hb
        exact congrArg (fun text => some (argumentLine arg text)) (texts other)
      | succ i => exact later.lines i b hb other

/-- No choice but the limits has a part in the arguments. -/
theorem arguments_config_congr (buffers : config.bufferLimit = config'.bufferLimit)
    (strings : config.stringLimit = config'.stringLimit) (s : State)
    (bound : List (Argument × Except Failure UInt64)) :
    arguments ⟨config, call⟩ s bound = arguments ⟨config', call⟩ s bound := by
  have texts (arg : Argument) (s : State) (register : Except Failure UInt64) :
      argumentText ⟨config, call⟩ s arg register = argumentText ⟨config', call⟩ s arg register := by
    have overlays := @Overlay.ofRole_config_congr config config' arg (fun _ => buffers)
      fun _ => strings
    unfold argumentText pointerText pointeeText overlayText Context.space
    simp only [overlays]
  induction bound generalizing s with
  | nil => rfl
  | cons head rest ih =>
    obtain ⟨arg, register⟩ := head
    simp only [arguments, texts, ih]

theorem allArguments_config_congr (buffers : config.bufferLimit = config'.bufferLimit)
    (strings : config.stringLimit = config'.stringLimit) :
    allArguments config call sig = allArguments config' call sig :=
  arguments_config_congr buffers strings _ _

/-! ## Reports under two choices -/

/-- Two reports of a call are the same but for the lines of arguments of these roles, and for whether
there is a memory map. -/
structure SameExcept (roles : Role → Prop) (sig : Signature) (r r' : Report) : Prop where
  header : r.header = r'.header
  notices : r.notices = r'.notices
  diagnostics : r.diagnostics = r'.diagnostics
  names : r.lines.map Line.name = r'.lines.map Line.name
  lines : ∀ (i : Nat) (arg : Argument), sig.arguments[i]? = some arg → ¬ roles arg.role →
    r.lines[i]? = r'.lines[i]?
  memoryMap : ∀ map map', r.memoryMap = some map → r'.memoryMap = some map' → map = map'

/-- A process that does not abort has a memory map to show, wherever it is wanted and due. -/
theorem on_memoryMap_of_report {map : String}
    (shown : MemoryMap.report w.process config.pageSize = .ok map) (due : Bool) :
    (memoryMap config due).on w = .ok (if config.memoryMap && due then some map else none) := by
  rw [on_memoryMap, shown]
  split <;> rfl

theorem signedReport_sameExcept (calm : w.target.Calm) (quiet : w.process.Quiet)
    (known : Signature.find? call.number = some sig) (same : SameOverlays roles config config')
    (pages : config.pageSize = config'.pageSize) :
    SameExcept roles sig ((signedReport config call sig).run w)
      ((signedReport config' call sig).run w) := by
  have sound := Signature.sound_of_find? known
  have progress : SharesLines roles (call.bind sig) ((allArguments config call sig).run w)
      ((allArguments config' call sig).run w) := arguments_sharesLines calm same rfl _
  have lines : ∀ (i : Nat) (arg : Argument), sig.arguments[i]? = some arg → ¬ roles arg.role →
      ((allArguments config call sig).run w).lines[i]? =
        ((allArguments config' call sig).run w).lines[i]? := by
    intro i arg declared other
    refine progress.lines i (arg, call.register i) ?_ other
    rw [call.getElem?_bind sound, declared, Option.map_some]
  rw [run_signedReport, run_signedReport]
  cases aborted : ((allArguments config call sig).run w).abort with
  | some a =>
    rw [conclusion_of_aborted aborted, conclusion_of_aborted (progress.abort.symm.trans aborted)]
    exact ⟨rfl, rfl, rfl, progress.names, lines, fun _ _ h => by cases h⟩
  | none =>
    obtain ⟨map, shown⟩ := quiet.memoryMap config.pageSize
    rw [conclusion_of_done aborted, conclusion_of_done (progress.abort.symm.trans aborted),
      on_memoryMap_of_report shown, on_memoryMap_of_report (pages ▸ shown)]
    refine ⟨rfl, rfl, rfl, progress.names, lines, fun m m' hm hm' => ?_⟩
    have map_eq := (Option.ite_none_right_eq_some.1 hm).2
    have map_eq' := (Option.ite_none_right_eq_some.1 hm').2
    exact Option.some.inj (map_eq.symm.trans map_eq')

/-- Without a memory map the rest of the report is the same. -/
theorem run_signedReport_without_map (quiet : w.process.Quiet) :
    (signedReport { config with memoryMap := false } call sig).run w =
      { (signedReport config call sig).run w with memoryMap := none } := by
  have progress : allArguments { config with memoryMap := false } call sig =
      allArguments config call sig := allArguments_config_congr rfl rfl
  obtain ⟨map, shown⟩ := quiet.memoryMap config.pageSize
  rw [run_signedReport, run_signedReport, progress]
  cases aborted : ((allArguments config call sig).run w).abort with
  | some a =>
    rw [conclusion_of_aborted aborted, conclusion_of_aborted aborted]
    rfl
  | none =>
    rw [conclusion_of_done aborted, conclusion_of_done aborted, on_memoryMap_of_report shown,
      on_memoryMap]
    rfl

/-- Another page size changes the text of the memory map, if there is one. -/
theorem run_signedReport_of_pageSize (quiet : w.process.Quiet) {pageSize : UInt64} {map : String}
    (shown : MemoryMap.report w.process pageSize = .ok map) :
    (signedReport { config with pageSize } call sig).run w =
      { (signedReport config call sig).run w with
        memoryMap := ((signedReport config call sig).run w).memoryMap.map fun _ => map } := by
  have progress : allArguments { config with pageSize } call sig = allArguments config call sig :=
    allArguments_config_congr rfl rfl
  obtain ⟨map', shown'⟩ := quiet.memoryMap config.pageSize
  rw [run_signedReport, run_signedReport, progress]
  cases aborted : ((allArguments config call sig).run w).abort with
  | some a =>
    rw [conclusion_of_aborted aborted, conclusion_of_aborted aborted]
    rfl
  | none =>
    have paged := @on_memoryMap_of_report w { config with pageSize } map shown
    rw [conclusion_of_done aborted, conclusion_of_done aborted, paged,
      on_memoryMap_of_report shown']
    have text (wanted : Bool) : (if wanted then some map else none) =
        (if wanted then some map' else none).map fun _ => map := by
      cases wanted <;> rfl
    exact congrArg (fun text => concluded sig _ (.ok text)) (text _)

/-! ## Limits -/

/-- Where memory is made of single bytes and the process does not abort, every choice changes only
what it is for: whether there is a memory map, the text of the memory map, the lines of buffers, the
lines of paths and arrays of strings; the limits may also make a memory map due. A buffer that is shown
without a limit is shown with one: by as many of its first bytes, with its whole size, and marked as
cut if and only if it is. -/
theorem decode_limits {t : Target} {cells : Cells} (memory : t.Bytewise cells)
    {process : ProcessView} (quiet : process.Quiet)
    (known : Signature.find? call.number = some sig) (config : Config) :
    decode t process { config with memoryMap := false } call =
      { decode t process config call with memoryMap := none } ∧
    (∀ pageSize, ∃ map, MemoryMap.report process pageSize = .ok map ∧
      decode t process { config with pageSize } call =
        { decode t process config call with
          memoryMap := (decode t process config call).memoryMap.map fun _ => map }) ∧
    (∀ limit, SameExcept Role.IsBuffer sig
      (decode t process { config with bufferLimit := limit } call)
      (decode t process config call)) ∧
    (∀ limit, SameExcept Role.IsString sig
      (decode t process { config with stringLimit := limit } call)
      (decode t process config call)) ∧
    ∀ l address text,
      (Overlay.buffer (.user call.root) { config with bufferLimit := none } call l address).on
        ⟨t, process⟩ = .ok text →
      ∃ count bytes, call.register l = .ok count ∧ bytes.length = count.toNat ∧
        Cells.Holds (cells (.user call.root)) address bytes ∧
        text = Overlay.bufferText count.toNat bytes ∧
        ∀ limit, ∃ cut,
          (Overlay.buffer (.user call.root) { config with bufferLimit := some limit } call l
            address).on ⟨t, process⟩ = .ok cut ∧
          cut = Overlay.bufferText count.toNat (bytes.take (min limit count.toNat)) ++
            (if limit < count.toNat then Overlay.cutNote limit count.toNat else "") ∧
          ((Overlay.cutNote limit count.toNat).toList <:+ cut.toList ↔ limit < count.toNat) := by
  have memory' : (World.mk t process).target.Bytewise cells := memory
  unfold decode
  rw [report_of_find? known, report_of_find? known]
  simp only [report_of_find? known]
  refine ⟨run_signedReport_without_map quiet, fun pageSize => ?_, fun limit => ?_, fun limit => ?_,
    fun l address text shown => ?_⟩
  · obtain ⟨map, shown⟩ := quiet.memoryMap pageSize
    exact ⟨map, shown, run_signedReport_of_pageSize quiet shown⟩
  · exact signedReport_sameExcept memory'.calm quiet known (fun arg other =>
      Overlay.ofRole_config_congr (fun buffer => absurd buffer other) fun _ => rfl) rfl
  · exact signedReport_sameExcept memory'.calm quiet known (fun arg other =>
      Overlay.ofRole_config_congr (fun _ => rfl) fun string => absurd string other) rfl
  · obtain ⟨count, bytes, held, read, rfl⟩ := Overlay.on_buffer_eq_ok.1 shown
    have whole : t.read (.user call.root) address count.toNat = .ok bytes :=
      (Reading.on_buffer memory' _ _ _).symm.trans read
    obtain ⟨length, there⟩ := memory.read_eq_ok_iff.1 whole
    have uncut : ¬ Overlay.wantedBytes none count.toNat < count.toNat := Nat.lt_irrefl _
    rw [if_neg uncut, String.append_empty]
    refine ⟨count, bytes, held, length, there, rfl, fun limit => ⟨_, ?_, rfl,
      Overlay.cutNote_suffix_iff _ _ _ _⟩⟩
    have part : (Reading.buffer (.user call.root) address (min count.toNat limit)).on
        ⟨t, process⟩ = .ok (bytes.take (min count.toNat limit)) :=
      (Reading.on_buffer memory' _ _ _).trans (memory.read_take whole (Nat.min_le_left _ _))
    refine Overlay.on_buffer_eq_ok.2 ⟨count, _, held, part, ?_⟩
    show _ = Overlay.bufferText _ _ ++ if min count.toNat limit < count.toNat then
      Overlay.cutNote (min count.toNat limit) count.toNat else ""
    rw [Nat.min_comm count.toNat]
    by_cases short : limit < count.toNat
    · rw [if_pos short, Nat.min_eq_left (Nat.le_of_lt short), if_pos short]
    · rw [if_neg short, if_neg (by omega)]

/-- `write(1, 0x5ffc, 4)`. -/
def lastBytes : Invocation :=
  ⟨1, .ofList [some "1", some "0x5ffc", some "4"], 0x1000⟩

/-- Of the last four bytes of two pages a limit shows two, and changes no other line. -/
theorem limits_lastBytes :
    (Overlay.buffer (.user 0x1000) { bufferLimit := some 2 } lastBytes 2 0x5ffc).on
        ⟨Target.twoPages, .absent⟩ =
      .ok (Overlay.bufferText 4 [0, 0] ++ " (first 2 of 4 bytes)") ∧
    ∃ sig, Signature.find? 1 = some sig ∧ SameExcept Role.IsBuffer sig
      (decode Target.twoPages .absent { bufferLimit := some 2 } lastBytes)
      (decode Target.twoPages .absent {} lastBytes) := by
  have memory := Target.bytewise_twoPages
  have known : (Signature.find? lastBytes.number).isSome := by decide
  have read : Target.twoPages.read (.user 0x1000) 0x5ffc 4 = .ok [0, 0, 0, 0] := rfl
  have buffer : (Reading.buffer (.user 0x1000) 0x5ffc 4).on ⟨Target.twoPages, .absent⟩ =
      .ok [0, 0, 0, 0] :=
    (@Reading.on_buffer ⟨Target.twoPages, .absent⟩ _ memory _ _ _).trans read
  have shown : (Overlay.buffer (.user 0x1000) {} lastBytes 2 0x5ffc).on
      ⟨Target.twoPages, .absent⟩ = .ok (Overlay.bufferText 4 [0, 0, 0, 0]) :=
    Overlay.on_buffer_eq_ok.2 ⟨4, _, rfl, buffer, (String.append_empty).symm⟩
  obtain ⟨-, -, buffers, -, overlay⟩ := decode_limits memory ProcessView.quiet_absent
    (Option.some_get known).symm {}
  obtain ⟨count, bytes, held, length, there, -, limited⟩ := overlay 2 0x5ffc _ shown
  cases held
  obtain rfl := there.unique (memory.read_eq_ok_iff.1 read).2 length
  obtain ⟨cut, on, rfl, -⟩ := limited 2
  exact ⟨on, _, (Option.some_get known).symm, buffers (some 2)⟩

end Decode

end SyscallDecode
