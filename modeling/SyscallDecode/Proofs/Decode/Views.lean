/-
Bytes shown twice. The lines of paths, of buffers and of the pieces of a message have a dump of some
bytes and quoted text of the same bytes: the dump reads back as the bytes that were read, and the
quoted text as their characters.
-/
import SyscallDecode.Proofs.Decode.Confinement
import SyscallDecode.Proofs.Decode.Limits
import SyscallDecode.Proofs.Socket.Preview
import SyscallDecode.Proofs.Text.Views

namespace SyscallDecode

open SyscallDecode.Text

/-- The roles of what is shown as bytes. -/
def Role.IsDumped (role : Role) : Prop :=
  role = .path ∨ role.IsBuffer ∨ role = .messageHeader

/-- An argument that is shown as bytes is a pointer. -/
theorem Signature.pointer_of_isDumped {number : UInt64} {s : Signature}
    (h : Signature.find? number = some s) {a : Argument} (ha : a ∈ s.arguments)
    (role : a.role.IsDumped) : a.isPointer = true := by
  have forPointer : a.role.isForPointer = true := by
    rcases role with role | ⟨l, role⟩ | role <;> rw [role] <;> rfl
  obtain ⟨p, -, -, rfl⟩ := Signature.find?_eq_some h
  obtain ⟨i, param, hp, rfl⟩ := Prototype.mem_arguments ha
  obtain ⟨param', hp', pointer, -⟩ := Role.classify_eq_ofPointer forPointer
  cases hp.symm.trans hp'
  exact pointer

theorem Text.standsOut_string (bytes : List UInt8) : StandsOut (hexDump bytes) " string: " :=
  ⟨[' '], 's', "tring: ".toList, rfl, notMem_hexDump_of_foreign (by decide) (by decide) bytes,
    by decide⟩

/-! ## Pieces of a message -/

namespace Socket

variable {w : World} {space : AddressSpace} {h : MessageHeader}

/-- The line of a piece shows its bytes, or why they cannot be shown. -/
inductive PieceShown (w : World) (space : AddressSpace) (entry : UInt64) (index : Nat) :
    String → Prop
  | lost (f : Failure) : (pieceAt space entry).on w = .error (.failure f) →
    PieceShown w space entry index
      ("\t[" ++ toString index ++ "] " ++ ("cannot dereference: " ++ f.message))
  | bytes (base length : UInt64) (bytes : List UInt8) (line : String) :
    (Reading.pointer space entry).on w = .ok base →
    (Reading.unsigned space (entry + 8) 8).on w = .ok length →
    (previewAt space base (min length.toNat previewLength)).on w = .ok bytes →
    readViews " hex: " " string: " line = some (bytes, graphicText bytes) →
    PieceShown w space entry index line

/-- What is said of a piece before its bytes. -/
def pieceHead (index : Nat) (base length : UInt64) : String :=
  "\t[" ++ toString index ++ "] base " ++ hexMarked base.toNat ++ " len " ++ toString length.toNat

theorem standsOut_pieceHead (index : Nat) (base length : UInt64) :
    StandsOut (pieceHead index base length) " hex: " := by
  have foreign : Foreign 'h' := by decide
  refine ⟨[' '], 'h', "ex: ".toList, rfl, ?_, by decide⟩
  unfold pieceHead
  simp only [String.toList_append, List.mem_append, not_or]
  exact ⟨⟨⟨⟨⟨by decide, notMem_toString foreign _⟩, by decide⟩, notMem_hexMarked foreign _⟩,
    by decide⟩, notMem_toString foreign _⟩

theorem readViews_shownLine (index : Nat) (base length : UInt64) (bytes : List UInt8) :
    readViews " hex: " " string: " (shownLine index base length bytes) =
      some (bytes, graphicText bytes) := by
  have brackets (text : String) : "] base " ++ text = "] " ++ ("base " ++ text) := by
    rw [← String.append_assoc]
    rfl
  rw [← readViews_of_standsOut (standsOut_pieceHead index base length) (standsOut_string bytes)
    (if previewLength < length.toNat then " ..." else "")]
  unfold shownLine pieceText pieceHead
  simp only [String.append_assoc, brackets]

theorem pieceShown_of_on_ok {entry : UInt64} {text : String}
    (read : (pieceAt space entry).on w = .ok text) (index : Nat) :
    PieceShown w space entry index ("\t[" ++ toString index ++ "] " ++ text) := by
  obtain ⟨base, pointed, read⟩ := (Course.on_bind_eq_ok w).1 read
  obtain ⟨length, counted, read⟩ := (Course.on_bind_eq_ok w).1 read
  obtain ⟨bytes, previewed, read⟩ := (Course.on_bind_eq_ok w).1 read
  cases read
  exact .bytes base length bytes _ pointed counted previewed
    (readViews_shownLine index base length bytes)

theorem pieceShown_of_pieceLine {index : Nat} {line : Noted String}
    (told : (pieceLine space h index).on w = .ok line) :
    PieceShown w space (h.entry index) index line.value := by
  obtain ⟨text, read, told⟩ := (Course.on_bind_eq_ok w).1 told
  cases told
  obtain ⟨ending, settled, read⟩ := (Course.on_bind_eq_ok w).1 read
  rw [Reading.on_settle] at settled
  rcases piece : (pieceAt space (h.entry index)).on w with (f | a) | text
  · rw [← MessageHeader.entry, piece] at settled
    cases settled
    cases read
    exact .lost f piece
  · rw [← MessageHeader.entry, piece] at settled
    cases settled
  · rw [← MessageHeader.entry, piece] at settled
    cases settled
    cases read
    exact pieceShown_of_on_ok piece index

/-- Every piece has a line of its own. -/
theorem pieceShown_of_shownPieces {indices : List Nat} {lines : List (Noted String)}
    (told : (shownPieces space id h indices).on w = .ok lines) :
    List.Forall₂ (fun index line => PieceShown w space (h.entry index) index line.value) indices
      lines := by
  induction indices generalizing lines with
  | nil =>
    cases told
    exact .nil
  | cons index rest ih =>
    obtain ⟨line, first, told⟩ := (Course.on_bind_eq_ok w).1 told
    obtain ⟨others, later, told⟩ := (Course.on_bind_eq_ok w).1 told
    cases told
    exact .cons (pieceShown_of_pieceLine first) (ih later)

theorem pieceShown_of_pieceLines {lines : List (Noted String)}
    (told : (pieceLines space id Noted.plain h).on w = .ok lines) {index : Nat} (shown : index < h.shown) :
    ∃ line, lines[index]? = some line ∧ PieceShown w space (h.entry index) index line.value := by
  unfold MessageHeader.shown at shown
  unfold pieceLines at told
  split at shown
  · cases shown
  · next nonnull =>
    rw [if_neg nonnull] at told
    obtain ⟨pieces, read, told⟩ := (Course.on_bind_eq_ok w).1 told
    have all := pieceShown_of_shownPieces read
    have inside : index < pieces.length := by
      rwa [← all.length_eq, List.length_range]
    have piece := all.get (by rwa [List.length_range]) inside
    rw [List.get_eq_getElem, List.getElem_range] at piece
    refine ⟨pieces[index], ?_, piece⟩
    split at told
    · cases told
      rw [List.getElem?_append_left inside, List.getElem?_eq_getElem inside]
    · cases told
      exact List.getElem?_eq_getElem inside

/-- In a message the lines of the pieces come behind two others. -/
theorem pieceShown_of_messageAt {address : UInt64} {message : Noted String}
    (told : (messageAt space address).on w = .ok message) :
    ∃ (h : MessageHeader) (lines : List String), (headerAt space address).on w = .ok h ∧
      message.value = "\n".intercalate lines ∧
      ∀ index < h.shown, ∃ line, lines[index + 2]? = some line ∧
        PieceShown w space (h.entry index) index line := by
  obtain ⟨h, header, told⟩ := (Course.on_bind_eq_ok w).1 told
  obtain ⟨lines, read, told⟩ := (Course.on_bind_eq_ok w).1 told
  cases told
  refine ⟨h, lines.map Noted.value, header, rfl, fun index shown => ?_⟩
  rw [Reading.on_ofTelling] at read
  cases told : (notedLines space h).on w with
  | error a => rw [told] at read; cases read
  | ok all =>
    rw [told] at read
    cases read
    obtain ⟨name, -, told⟩ := (Course.on_bind_eq_ok w).1 told
    obtain ⟨pieces, read, told⟩ := (Course.on_bind_eq_ok w).1 told
    cases told
    obtain ⟨line, at_index, piece⟩ := pieceShown_of_pieceLines read shown
    refine ⟨line.value, ?_, piece⟩
    rw [List.getElem?_map, List.append_assoc]
    simp only [List.cons_append, List.nil_append, List.getElem?_cons_succ]
    rw [List.getElem?_append_left (List.getElem?_eq_some_iff.1 at_index).1, at_index,
      Option.map_some]

end Socket

/-! ## Overlays -/

namespace Overlay

/-- What an overlay of this role tells of bytes: both views of those that were read. -/
inductive ShowsBytes (w : World) (space : AddressSpace) (config : Config) (call : Invocation)
    (address : UInt64) : Role → String → Prop
  | path (bytes : List UInt8) (text : String) :
    (Reading.string space address config.stringLimit).on w = .ok bytes →
    readViews "\nhex: " " string: " text = some (bytes, graphicText bytes) →
    ShowsBytes w space config call address .path text
  | buffer (l : Nat) (count : UInt64) (bytes : List UInt8) (text : String) :
    call.register l = .ok count →
    (Reading.buffer space address (wantedBytes config.bufferLimit count.toNat)).on w = .ok bytes →
    readViews "):\n" "\nbuffer content string: " text = some (bytes, graphicText bytes) →
    ShowsBytes w space config call address (.buffer l) text
  | message (h : Socket.MessageHeader) (lines : List String) :
    (Socket.headerAt space address).on w = .ok h →
    (∀ index < h.shown, ∃ line, lines[index + 2]? = some line ∧
      Socket.PieceShown w space (h.entry index) index line) →
    ShowsBytes w space config call address .messageHeader ("\n" ++ "\n".intercalate lines)

variable {w : World} {space : AddressSpace} {config : Config} {call : Invocation} {arg : Argument}
  {address : UInt64} {overlay : Noted String}

theorem readViews_path (bytes : List UInt8) :
    readViews "\nhex: " " string: "
      ("\nhex: " ++ hexDump bytes ++ " string: " ++ quote (graphicText bytes)) =
        some (bytes, graphicText bytes) := by
  have first : StandsOut "" "\nhex: " :=
    ⟨[], '\n', "hex: ".toList, rfl, by decide, by decide⟩
  have views := readViews_of_standsOut first (standsOut_string bytes) ""
  rwa [String.empty_append, String.append_empty] at views

theorem readViews_bufferText (count : Nat) (bytes : List UInt8) (note : String) :
    readViews "):\n" "\nbuffer content string: " (bufferText count bytes ++ note) =
      some (bytes, graphicText bytes) := by
  have first : StandsOut ("\nbuffer content hex (of size " ++ toString count) "):\n" := by
    refine ⟨[], ')', ":\n".toList, rfl, ?_, by decide⟩
    rw [String.toList_append, List.mem_append, not_or]
    exact ⟨by decide, notMem_toString (by decide) count⟩
  have second : StandsOut (hexDump bytes) "\nbuffer content string: " :=
    ⟨[], '\n', "buffer content string: ".toList, rfl,
      notMem_hexDump_of_foreign (by decide) (by decide) bytes, by decide⟩
  exact readViews_of_standsOut first second note

theorem showsBytes_of_on_ok (dumped : arg.role.IsDumped)
    (laid : (ofRole space config call arg address).on w = .ok overlay) :
    ShowsBytes w space config call address arg.role overlay.value := by
  unfold ofRole at laid
  rcases dumped with role | ⟨l, role⟩ | role
  · rw [role] at laid ⊢
    obtain ⟨text, given, told⟩ := (Course.on_bind_eq_ok w).1 laid
    cases told
    obtain ⟨bytes, read, told⟩ := (Course.on_bind_eq_ok w).1 given
    cases told
    exact .path bytes _ read (readViews_path bytes)
  · rw [role] at laid ⊢
    obtain ⟨text, given, told⟩ := (Course.on_bind_eq_ok w).1 laid
    cases told
    obtain ⟨count, bytes, held, read, rfl⟩ := on_buffer_eq_ok.1 given
    exact .buffer l count bytes _ held read (readViews_bufferText count.toNat bytes _)
  · rw [role] at laid ⊢
    obtain ⟨message, given, told⟩ := (Course.on_bind_eq_ok w).1 laid
    cases told
    obtain ⟨h, lines, header, value, pieces⟩ := Socket.pieceShown_of_messageAt given
    show ShowsBytes w space config call address .messageHeader ("\n" ++ message.value)
    rw [value]
    exact .message h lines header pieces

end Overlay

/-! ## Reports -/

namespace Decode

/-- Dumps are faithful. A dump reads back group by group as its bytes, so that no two sequences have
the same dump, and the empty text is that of no bytes; the graphic text has one character for every
byte, its own where that can be shown. Where the overlay of a path, a buffer or a message is reached
and comes to a text, that text ends the line of its argument, and both views in it read back: the
dump as the bytes that were read, and the quoted text, with its escapes undone, as their graphic
text. -/
theorem decode_views :
    (∀ bytes, readGroups (hexDump bytes).toList = some bytes) ∧
    Function.Injective hexDump ∧
    (∀ bytes, hexDump bytes = "" ↔ bytes = []) ∧
    (∀ bytes, List.Forall₂ ShownAs bytes (graphicText bytes).toList) ∧
    ∀ (t : Target) (process : ProcessView) (config : Config) (call : Invocation) (s : Signature)
      (i : Nat) (arg : Argument) (value : UInt64) (generic : String) (overlay : Noted String),
      Signature.find? call.number = some s → s.arguments[i]? = some arg → arg.role.IsDumped →
      Reaches ⟨t, process⟩ config call s i arg value generic →
      (Overlay.ofRole (.user call.root) config call arg value).on ⟨t, process⟩ = .ok overlay →
      (decode t process config call).lines[i]? =
          some (overlaidLine arg value generic overlay.value) ∧
        Overlay.ShowsBytes ⟨t, process⟩ (.user call.root) config call value arg.role
          overlay.value := by
  refine ⟨readGroups_hexDump, fun _ _ => hexDump_inj, fun _ => hexDump_eq_empty_iff,
    shownAs_graphicText, ?_⟩
  intro t process config call s i arg value generic overlay known declared dumped reaches laid
  refine ⟨?_, Overlay.showsBytes_of_on_ok dumped laid⟩
  have pointer := Signature.pointer_of_isDumped known (List.mem_of_getElem? declared) dumped
  have line := getElem?_lines_allArguments (Signature.sound_of_find? known) declared reaches.before
  obtain ⟨told, -⟩ := on_argumentText_of_shows pointer reaches.shown
    ((firstArguments config call s i).run ⟨t, process⟩).state
  have left : Overlay.left ((Overlay.ofRole (.user call.root) config call arg value).on
      ⟨t, process⟩) = some overlay := by
    rw [laid]
    rfl
  rw [lines_of_find? known, line, reaches.held, told]
  exact congrArg (fun left => (left.map Noted.value).map (overlaidLine arg value generic)) left

/-- A target with a path of a quote and a backslash. -/
def quotedPath : Target :=
  Cells.target
    (fun _ a => if a = 0x7000 then .ok 0x22 else if a = 0x7001 then .ok 0x5C else .ok 0)
    catalogueTypes fun name => .fail (.unknownSymbol name)

/-- The path is shown in both views, and both tell it. -/
theorem views_quotedPath :
    ∃ s arg generic, Signature.find? openCall.number = some s ∧ s.arguments[0]? = some arg ∧
      arg.role = .path ∧
      (decode quotedPath .absent {} openCall).lines[0]? =
        some (overlaidLine arg 0x7000 generic "\nhex: 22 5c string: \"\\\"\\\\\"") ∧
      Overlay.ShowsBytes ⟨quotedPath, .absent⟩ (.user 0x1000) {} openCall 0x7000 .path
        "\nhex: 22 5c string: \"\\\"\\\\\"" := by
  obtain ⟨-, -, -, -, reports⟩ := decode_views
  have argument : (Signature.find? openCall.number).bind (fun s => s.arguments[0]?) =
      some ⟨0, "filename", "const char", true, .read, .path⟩ := by decide +kernel
  obtain ⟨s, known, declared⟩ := Option.bind_eq_some_iff.1 argument
  have reaches : Reaches ⟨quotedPath, .absent⟩ {} openCall s 0
      ⟨0, "filename", "const char", true, .read, .path⟩ 0x7000 "34 '\"'" :=
    ⟨rfl, rfl, by decide, _, rfl, rfl⟩
  obtain ⟨line, shows⟩ := reports quotedPath .absent {} openCall s 0 _ 0x7000 _
    ⟨"\nhex: 22 5c string: \"\\\"\\\\\"", false⟩ known declared (.inl rfl) reaches rfl
  exact ⟨s, _, _, known, declared, rfl, line, shows⟩

end Decode

end SyscallDecode
