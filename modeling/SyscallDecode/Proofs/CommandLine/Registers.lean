/-
Registers on the command line. A line that is carried out says of each register at most once what it
holds, behind the option of that register; the call that is decoded has these values, and a register
that the line does not name is missing. Every way to write a value that can be read is as good as
another.
-/
import SyscallDecode.CommandLine.Reading
import SyscallDecode.Proofs.CommandLine.Words
import SyscallDecode.Proofs.Invocation.Registers

namespace SyscallDecode.CommandLine

open SyscallDecode.Text

variable {i : Fin argumentRegisters}

/-! ## What texts make of a value -/

/-- A value before some texts and after them: texts are there for a value that is not known yet, and
there is one of them at most. -/
inductive Fills : Option UInt64 → List String → Option UInt64 → Prop
  | kept (value : Option UInt64) : Fills value [] value
  | read {text : String} {value : UInt64} (h : readHex text = .ok value) :
      Fills none [text] (some value)

theorem Fills.trans {before between after : Option UInt64} {first second : List String}
    (h : Fills before first between) (h' : Fills between second after) :
    Fills before (first ++ second) after := by
  cases h with
  | kept => exact h'
  | read read =>
    cases h' with
    | kept => exact .read read

theorem Fills.written {words : List String} {value : Option UInt64}
    (h : Fills none (texts i words) value) : Written words i value := by
  generalize found : texts i words = list at h
  cases h with
  | kept =>
    intro text spells
    rw [← mem_texts, found] at spells
    cases spells
  | @read text value h =>
    refine ⟨⟨text, ?_⟩, fun text' spells => ?_⟩
    · rw [← mem_texts, found]
      exact List.mem_singleton_self text
    · rw [← mem_texts, found] at spells
      rw [List.mem_singleton.1 spells, h]

/-! ## Options that are given -/

theorem of_bind_eq_ok {ε α β : Type} {x : Except ε α} {k : α → Except ε β} {b : β}
    (h : x >>= k = .ok b) : ∃ a, x = .ok a ∧ k a = .ok b := by
  cases x with
  | error e => cases h
  | ok a => exact ⟨a, rfl, h⟩

theorem fills_once {before after : Option UInt64} {text : String}
    (h : Given.once before (readRegisterValue text) = .ok after) : Fills before [text] after := by
  unfold Given.once at h
  cases before with
  | some value => cases h
  | none =>
    cases read : readRegisterValue text with
    | error refusal =>
      rw [read] at h
      cases h
    | ok value =>
      rw [read] at h
      cases h
      exact .read (readRegisterValue_eq_ok.1 read)

/-- The option of a register gives that register its value, and any other gives none. -/
theorem fills_set {g g' : Given} {setting : Setting} {text : String}
    (h : g.set setting text = .ok g') :
    Fills (g.registers i) (if setting = .register i then [text] else []) (g'.registers i) := by
  unfold Given.set at h
  cases setting with
  | register index =>
    obtain ⟨value, once, h⟩ := of_bind_eq_ok h
    cases h
    by_cases same : index = i
    · subst same
      simp only [if_true]
      exact fills_once once
    · have other : Setting.register index ≠ .register i := fun h => same (Setting.register.inj h)
      simp only [other, if_false, Ne.symm same]
      exact .kept _
  | _ =>
    obtain ⟨value, -, h⟩ := of_bind_eq_ok h
    cases h
    exact .kept _

theorem registers_turnOn {g g' : Given} {switch : Switch} (h : g.turnOn switch = .ok g') :
    g'.registers = g.registers := by
  unfold Given.turnOn at h
  split at h
  · cases h
  · cases h
  · split at h <;> cases h
    rfl

/-! ## Words behind a command -/

/-- The text that is owed to a register by an option whose value has not been looked at. -/
def Pending.owed (i : Fin argumentRegisters) : Pending → List String → List String
  | .nothing, _ => []
  | .awaiting setting, words => if setting = .register i then words.head?.toList else []
  | .unread setting text, _ => if setting = .register i then [text] else []

theorem Progress.fills_settle {p : Progress} {g : Given} (h : p.settle = .ok g)
    (words : List String) : Fills (p.given.registers i) (p.pending.owed i words) (g.registers i) := by
  unfold settle at h
  unfold Pending.owed
  split at h
  · next nothing =>
    cases h
    rw [nothing]
    exact .kept _
  · cases h
  · next setting text unread =>
    rw [unread]
    exact fills_set h

/-- One step of the reading: what is owed before it has gone into the register, or is still owed. -/
def Progress.Owes (i : Fin argumentRegisters) (p : Progress) (words : List String) (p' : Progress)
    (rest : List String) : Prop :=
  ∃ paid, Fills (p.given.registers i) paid (p'.given.registers i) ∧
    p.pending.owed i words ++ texts i words = paid ++ (p'.pending.owed i rest ++ texts i rest)

namespace Progress

variable {p p' : Progress} {word : String} {rest : List String}

theorem owes_await {setting : Setting} (h : p.await setting = .ok p')
    (head : textsAt i (Word.ofText word) rest =
      if setting = .register i then rest.head?.toList else []) :
    p.Owes i (word :: rest) p' rest := by
  obtain ⟨g, settled, h⟩ := of_bind_eq_ok h
  cases h
  refine ⟨_, fills_settle settled (word :: rest), ?_⟩
  rw [texts, head]
  rfl

theorem owes_attach {setting : Setting} {text : String} (h : p.attach setting text = .ok p')
    (head : textsAt i (Word.ofText word) rest = if setting = .register i then [text] else []) :
    p.Owes i (word :: rest) p' rest := by
  obtain ⟨g, settled, h⟩ := of_bind_eq_ok h
  obtain ⟨g', given, h⟩ := of_bind_eq_ok h
  cases h
  refine ⟨_, (fills_settle settled (word :: rest)).trans (fills_set given), ?_⟩
  rw [texts, head, List.append_assoc]
  rfl

theorem owes_turnOn {switch : Switch} (h : p.turnOn switch = .ok p')
    (head : textsAt i (Word.ofText word) rest = []) : p.Owes i (word :: rest) p' rest := by
  obtain ⟨g, settled, h⟩ := of_bind_eq_ok h
  obtain ⟨g', turned, h⟩ := of_bind_eq_ok h
  cases h
  have fills := fills_settle (i := i) settled (word :: rest)
  rw [← registers_turnOn turned] at fills
  refine ⟨_, fills, ?_⟩
  rw [texts, head]
  rfl

/-- A value in a word of its own is owed as soon as it comes. -/
theorem owes_supply {text : String} (h : p.supply? text = some p')
    (shape : Word.ofText word = .plain text) : p.Owes i (word :: rest) p' rest := by
  obtain rfl := eq_of_plain shape
  unfold supply? at h
  split at h
  · next setting awaiting =>
    cases h
    refine ⟨[], .kept _, ?_⟩
    rw [texts, shape, awaiting]
    rfl
  · cases h

/-- Of the options behind `decode`, those of the registers have these names. -/
theorem long?_registerName (i : Fin argumentRegisters) :
    Level.decode.long? (registerName i) = some (.setting (.register i)) := by
  revert i
  decide

theorem eq_registerName {name : String} {setting : Setting}
    (h : Level.decode.long? name = some (.setting setting)) :
    setting = .register i ↔ name = registerName i := by
  have only : ∀ entry ∈ sharedNames ++ Level.decode.ownNames, ∀ i,
      entry.2 = .setting (.register i) → entry.1 = registerName i := by
    decide
  constructor
  · rintro rfl
    obtain ⟨before, after, entries, -⟩ := List.lookup_eq_some_iff.1 h
    exact only (name, _) (entries ▸ by simp) i rfl
  · rintro rfl
    rw [long?_registerName] at h
    cases h
    rfl

theorem owes_long {name : String} {value : Option String}
    (h : p.long .decode name value = .ok p') (shape : Word.ofText word = .long name value) :
    p.Owes i (word :: rest) p' rest := by
  unfold long at h
  split at h
  · cases h
  · cases h
  · next switch known =>
    refine owes_turnOn h ?_
    rw [shape]
    refine if_neg ?_
    rintro rfl
    rw [long?_registerName] at known
    cases known
  · next setting text known =>
    refine owes_attach h ?_
    rw [shape]
    simp only [textsAt, eq_registerName known]
    rfl
  · next setting known =>
    refine owes_await h ?_
    rw [shape]
    simp only [textsAt, eq_registerName known]
    rfl

/-- No letter behind `decode` stands for a register. -/
theorem letter?_decode {c : Char} {flag : Flag} (h : Level.decode.letter? c = some flag) :
    flag = .switch .help ∨ ∃ setting, flag = .setting setting ∧ ∀ i, setting ≠ .register i := by
  unfold Level.letter? at h
  split_ifs at h with output help version process
  · cases h
    exact .inr ⟨.output, rfl, nofun⟩
  · cases h
    exact .inl rfl
  · cases version.2
  · cases h
    exact .inr ⟨.process, rfl, nofun⟩

theorem owes_letters {letters : List Char} (h : p.letters .decode letters = .ok p')
    (shape : Word.ofText word = .letters letters) :
    p.Owes i (word :: rest) p' rest := by
  have head : textsAt i (Word.ofText word) rest = [] := by
    rw [shape]
    rfl
  cases letters with
  | nil => exact absurd rfl (letters_ne_nil shape)
  | cons c letters =>
    rw [Progress.letters] at h
    split at h
    · cases h
    -- a switch can only be the one for help, which ends the reading
    · next switch known =>
      obtain help | ⟨setting, flag, -⟩ := letter?_decode known
      · cases help
        obtain ⟨p'', turned, -⟩ := of_bind_eq_ok h
        obtain ⟨g, -, turned⟩ := of_bind_eq_ok turned
        cases turned
      · cases flag
    · next setting known =>
      obtain help | ⟨setting', flag, other⟩ := letter?_decode known
      · cases help
      · cases flag
        have none (texts : List String) :
            [] = if setting = .register i then texts else [] := (if_neg (other i)).symm
        split at h
        · exact owes_await h (head.trans (none _))
        · exact owes_attach h (head.trans (none _))
        · exact owes_attach h (head.trans (none _))

end Progress

/-- Behind `decode`, what is owed to a register goes into it. -/
theorem fills_readBehind {words : List String} {p : Progress} {given : Given}
    {trailing : List String} (h : readBehind .decode p words = .ok (given, trailing)) :
    Fills (p.given.registers i) (p.pending.owed i words ++ texts i words)
      (given.registers i) := by
  -- what is still owed goes from word to word, and is paid when the next option comes or at the end
  induction words generalizing p with
  | nil =>
    obtain ⟨g, settled, h⟩ := of_bind_eq_ok h
    cases h
    exact (Progress.fills_settle settled []).trans (.kept _)
  | cons word rest ih =>
    have step {p' : Progress} (owes : p.Owes i (word :: rest) p' rest)
        (h : readBehind .decode p' rest = .ok (given, trailing)) :
        Fills (p.given.registers i) (p.pending.owed i (word :: rest) ++ texts i (word :: rest))
          (given.registers i) := by
      obtain ⟨paid, fills, owed⟩ := owes
      rw [owed]
      exact fills.trans (ih h)
    rw [readBehind] at h
    split at h
    · next shape =>
      -- nothing may follow the separator
      split at h
      · next last =>
        obtain ⟨g, settled, h⟩ := of_bind_eq_ok h
        cases h
        obtain rfl : trailing = [] := by simpa using last
        refine (Progress.fills_settle settled [word]).trans ?_
        simp only [texts, shape, textsAt, List.append_nil]
        exact .kept _
      · cases h
    · next name value shape =>
      obtain ⟨p', read, h⟩ := of_bind_eq_ok h
      exact step (Progress.owes_long read shape) h
    · next letters shape =>
      obtain ⟨p', read, h⟩ := of_bind_eq_ok h
      exact step (Progress.owes_letters read shape) h
    · next text shape =>
      split at h
      · next p' supplied => exact step (Progress.owes_supply supplied shape) h
      · cases h

/-! ## The whole line -/

theorem lookup_commandLevels {text : String} {level : Level}
    (h : commandLevels.lookup text = some level) : level = .decode ∨ level = .trace := by
  obtain ⟨before, after, entries, -⟩ := List.lookup_eq_some_iff.1 h
  have member : (text, level) ∈ commandLevels := entries ▸ by simp
  have levels : ∀ entry ∈ commandLevels, entry.2 = .decode ∨ entry.2 = .trace := by decide
  exact levels _ member

theorem fills_readCommand {level : Level} (known : level = .decode ∨ level = .trace)
    {before : Progress} {words : List String} {command : Command} {r : DecodeRequest}
    (h : readCommand level before words = .ok command) (asked : command.request = .decode r) :
    Fills none (texts i words) (r.registers i) := by
  obtain ⟨⟨behind, trailing⟩, read, h⟩ := of_bind_eq_ok h
  rcases known with rfl | rfl
  · obtain ⟨request, named, h⟩ := of_bind_eq_ok h
    obtain ⟨settled, -, h⟩ := of_bind_eq_ok h
    cases h
    obtain rfl : request = .decode r := asked
    have fills := fills_readBehind (i := i) read
    unfold decodeRequest at named
    split at named <;> cases named
    exact fills
  · obtain ⟨request, named, h⟩ := of_bind_eq_ok h
    obtain ⟨settled, -, h⟩ := of_bind_eq_ok h
    cases h
    obtain rfl : request = .decode r := asked
    cases given : traceRequest behind trailing <;> rw [given] at named <;> cases named

/-- Before any command there is no option of a register. -/
theorem textsAt_top {p p' : Progress} {name : String} {value : Option String} {rest : List String}
    (h : p.long .top name value = .ok p') : textsAt i (.long name value) rest = [] := by
  refine if_neg ?_
  rintro rfl
  have unknown : ∀ i, Level.top.long? (registerName i) = none := by decide
  simp only [Progress.long, unknown] at h
  cases h

/-- A call that a line asks for has in its registers what the line has for them. -/
theorem fills_readTop {words : List String} {p : Progress} {command : Command} {r : DecodeRequest}
    (h : readTop p words = .ok command) (asked : command.request = .decode r) :
    Fills none (texts i words) (r.registers i) := by
  induction words generalizing p with
  | nil => cases h
  | cons word rest ih =>
    rw [texts]
    rw [readTop] at h
    split at h
    · cases h
    · next name value shape =>
      obtain ⟨p', read, h⟩ := of_bind_eq_ok h
      -- such an option would not have been read
      rw [shape, textsAt_top read]
      exact ih h
    · next letters shape =>
      obtain ⟨p', read, h⟩ := of_bind_eq_ok h
      rw [shape]
      exact ih h
    · next text shape =>
      rw [shape]
      split at h
      · exact ih h
      · unfold readCommandWord at h
        split at h
        · cases h
        · split at h
          · next level known => exact fills_readCommand (lookup_commandLevels known) h asked
          · cases h

/-! ## Lines that are read -/

/-- A register with a text for its value, and whether the text is attached to the option. -/
structure Spelling where
  register : Fin argumentRegisters
  text : String
  attached : Bool

/-- The words for a register. -/
def Spelling.words (s : Spelling) : List String :=
  if s.attached then [registerWord s.register (some s.text)]
  else [registerWord s.register none, s.text]

/-- A line that asks for a call of a process, with texts for some registers. -/
def decodeLine (process number : String) (spellings : List Spelling) : List String :=
  "decode" :: optionWord "pid" (some process) :: optionWord "nr" (some number) ::
    spellings.flatMap Spelling.words

/-- A text for a value is a word that no option starts with. -/
theorem plain_of_readHex {text : String} {value : UInt64} (h : readHex text = .ok value) :
    Word.ofText text = .plain text := by
  cases shape : text.toList with
  | nil =>
    unfold readHex at h
    rw [shape] at h
    cases h
  | cons c rest =>
    refine Word.ofText_plain shape ?_
    rintro rfl
    unfold readHex at h
    rw [shape] at h
    cases h

variable {p : Progress} {g : Given} {s : Spelling} {value : UInt64}

/-- The values after one more register was given. -/
def Given.withRegister (g : Given) (index : Fin argumentRegisters) (value : UInt64) : Given :=
  { g with registers := fun i => if i = index then some value else g.registers i }

theorem set_register {index : Fin argumentRegisters} {text : String}
    (free : g.registers index = none) (h : readHex text = .ok value) :
    g.set (.register index) text = .ok (g.withRegister index value) := by
  simp only [Given.set, free, Given.once, readRegisterValue_eq_ok.2 h]
  rfl

/-- The words for a register that has no value yet give it one. -/
theorem readBehind_words (settled : p.settle = .ok g) (free : g.registers s.register = none)
    (h : readHex s.text = .ok value) (rest : List String) :
    ∃ p', p'.settle = .ok (g.withRegister s.register value) ∧
      readBehind .decode p (s.words ++ rest) = readBehind .decode p' rest := by
  have set := set_register free h
  unfold Spelling.words
  -- an attached text is looked at at once, and one in a word of its own later
  split
  · refine ⟨⟨g.withRegister s.register value, .nothing⟩, rfl, ?_⟩
    simp only [List.singleton_append, readBehind, ofText_registerWord, Progress.long,
      Progress.long?_registerName, Progress.attach, settled, set, bind, Except.bind, pure, Except.pure]
  · refine ⟨⟨g, .unread (.register s.register) s.text⟩, set, ?_⟩
    simp only [List.cons_append, List.nil_append, readBehind, ofText_registerWord, Progress.long,
      Progress.long?_registerName, Progress.await, settled, plain_of_readHex h, Progress.supply?,
      bind, Except.bind, pure, Except.pure]

/-- Words for distinct registers are all read, and leave the process and the number as they are. -/
theorem readBehind_spellings {spellings : List Spelling} (settled : p.settle = .ok g)
    (free : ∀ s ∈ spellings, g.registers s.register = none)
    (distinct : (spellings.map Spelling.register).Nodup)
    (spelled : ∀ s ∈ spellings, ∃ value, readHex s.text = .ok value) :
    ∃ given, readBehind .decode p (spellings.flatMap Spelling.words) = .ok (given, []) ∧
      given.process = g.process ∧ given.number = g.number := by
  induction spellings generalizing p g with
  | nil =>
    refine ⟨g, ?_, rfl, rfl⟩
    simp only [List.flatMap_nil, readBehind, settled]
    rfl
  | cons s spellings ih =>
    obtain ⟨fresh, distinct⟩ := List.nodup_cons.1 distinct
    obtain ⟨value, h⟩ := spelled s List.mem_cons_self
    obtain ⟨p', settled', step⟩ :=
      readBehind_words settled (free s List.mem_cons_self) h (spellings.flatMap Spelling.words)
    have free' (s' : Spelling) (member : s' ∈ spellings) :
        (g.withRegister s.register value).registers s'.register = none := by
      have other : s'.register ≠ s.register := fun same =>
        fresh (List.mem_map.2 ⟨s', member, same⟩)
      exact (if_neg other).trans (free s' (List.mem_cons_of_mem _ member))
    rw [List.flatMap_cons, step]
    obtain ⟨given, read, same⟩ :=
      ih settled' free' distinct fun s' member => spelled s' (List.mem_cons_of_mem _ member)
    exact ⟨given, read, same⟩

/-- A line with one text for each of some registers asks for the call, in whatever way the values
are spelled. -/
theorem read_decodeLine {process number : String} {spellings : List Spelling} {pid : Int32}
    {nr : UInt64} (ofProcess : readProcess process = .ok pid) (ofNumber : readCount number = .ok nr)
    (distinct : (spellings.map Spelling.register).Nodup)
    (spelled : ∀ s ∈ spellings, ∃ value, readHex s.text = .ok value) :
    ∃ command r, read (decodeLine process number spellings) = .ok command ∧
      command.request = .decode r ∧ r.process = pid ∧ r.number = nr := by
  obtain ⟨given, behind, hasProcess, hasNumber⟩ :=
    readBehind_spellings (p := ⟨{ process := some pid, number := some nr }, .nothing⟩) rfl
      (fun _ _ => rfl) distinct spelled
  have options : readBehind .decode {} (optionWord "pid" (some process) ::
      optionWord "nr" (some number) :: spellings.flatMap Spelling.words) = .ok (given, []) := by
    have pidLong : Level.decode.long? "pid" = some (.setting .process) := by decide
    have nrLong : Level.decode.long? "nr" = some (.setting .number) := by decide
    rw [← behind]
    simp only [readBehind, ofText_optionWord (by decide : "pid" ≠ "") (by decide),
      ofText_optionWord (by decide : "nr" ≠ "") (by decide), Progress.long, pidLong, nrLong,
      Progress.attach, Progress.settle, Given.set, Given.once, ofProcess, ofNumber, Except.map,
      bind, Except.bind, pure, Except.pure]
  have request : decodeRequest given =
      .ok ⟨pid, nr, given.registers, given.root⟩ := by
    simp only [decodeRequest, hasProcess, hasNumber]
  have word : Word.ofText "decode" = .plain "decode" := by decide
  have level : commandLevels.lookup "decode" = some .decode := by decide
  have other : "decode" ≠ helpCommand := by decide
  refine ⟨combine {} given (.decode ⟨pid, nr, given.registers, given.root⟩),
    ⟨pid, nr, given.registers, given.root⟩, ?_, rfl, rfl, rfl⟩
  simp only [read, decodeLine, readTop, word, Progress.supply?, readCommandWord, other, level,
    if_false, readCommand, options, request, Except.map, bind, Except.bind, pure, Except.pure,
    Progress.settle]
  rfl

/-! ## Calls that carry their values -/

/-- Register values survive every way in. A call made of six values carries these, one made of
the registers of a machine carries those in argument order, of which rcx is none, and one that a
line asks for carries what the line has for each register; and a line is read in whatever way the
values are spelled. -/
theorem calls_carry_values :
    (∀ (number : UInt64) (values : Fin argumentRegisters → UInt64) (root : UInt64),
      (Invocation.ofValues number values root).Carries fun i => some (values i)) ∧
    (∀ (m : MachineRegisters) (root : UInt64),
      ((Invocation.ofMachine m root).Carries fun i => (Invocation.machineOrder m)[i.val]?) ∧
      ∀ rcx, Invocation.ofMachine { m with rcx } root = Invocation.ofMachine m root) ∧
    (∀ (words : List String) (command : Command) (r : DecodeRequest),
      read words = .ok command → command.request = .decode r →
        ∃ values, (∀ i, Written words i (values i)) ∧ r.invocation.Carries values) ∧
    (∀ (process number : String) (spellings : List Spelling) (pid : Int32) (nr : UInt64),
      readProcess process = .ok pid → readCount number = .ok nr →
        (spellings.map Spelling.register).Nodup →
        (∀ s ∈ spellings, ∃ value, readHex s.text = .ok value) →
        ∃ command r, read (decodeLine process number spellings) = .ok command ∧
          command.request = .decode r ∧ r.process = pid ∧ r.number = nr) := by
  refine ⟨Invocation.carries_ofValues, ?_, ?_, fun _ _ _ _ _ => read_decodeLine⟩
  · exact fun m root => ⟨Invocation.carries_ofMachine m root, fun _ => rfl⟩
  intro words command r line asked
  exact ⟨r.registers, fun i => (fills_readTop line asked).written,
    Invocation.carries_of_texts fun _ => rfl⟩

/-- A value with a mark and a sign in a word of its own, another one attached, and four that are
missing. -/
theorem calls_carry_values_of_open :
    ∃ command r values,
      read ["decode", "--pid=42", "--nr=2", "--rdi", "0X+7ffd", "--rsi=fF"] = .ok command ∧
      command.request = .decode r ∧ r.number = 2 ∧ r.invocation.Carries values ∧
      values 0 = some 0x7ffd ∧ values 1 = some 0xff ∧ ∀ i, 2 ≤ i → values i = none := by
  obtain ⟨-, -, carries, line⟩ := calls_carry_values
  obtain ⟨command, r, said, asked, -, number⟩ :=
    line "42" "2" [⟨0, "0X+7ffd", false⟩, ⟨1, "fF", true⟩] 42 2 rfl rfl (by decide)
      (by simpa using ⟨⟨0x7ffd, rfl⟩, ⟨0xff, rfl⟩⟩)
  have words : decodeLine "42" "2" [⟨0, "0X+7ffd", false⟩, ⟨1, "fF", true⟩] =
      ["decode", "--pid=42", "--nr=2", "--rdi", "0X+7ffd", "--rsi=fF"] := by decide
  rw [words] at said
  obtain ⟨values, written, carried⟩ := carries _ command r said asked
  have first : texts 0 ["decode", "--pid=42", "--nr=2", "--rdi", "0X+7ffd", "--rsi=fF"] =
      ["0X+7ffd"] := by decide
  have second : texts 1 ["decode", "--pid=42", "--nr=2", "--rdi", "0X+7ffd", "--rsi=fF"] =
      ["fF"] := by decide
  have others : ∀ i, 2 ≤ i →
      texts i ["decode", "--pid=42", "--nr=2", "--rdi", "0X+7ffd", "--rsi=fF"] = [] := by
    decide
  refine ⟨command, r, values, said, asked, number, carried, ?_, ?_, ?_⟩
  · exact (written 0).unique (Fills.written (first ▸ .read rfl))
  · exact (written 1).unique (Fills.written (second ▸ .read rfl))
  · intro i high
    refine (written i).unique (Fills.written ?_)
    rw [others i high]
    exact .kept none

end SyscallDecode.CommandLine
