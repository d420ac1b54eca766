/-
A task of the kernel as a safe process. Names of files come from kernel memory and may be anything,
but they are quoted; mapped areas have no names; and every reason why a walk through kernel memory
ends is a text of its own or one that the target gives.
-/
import SyscallDecode.Proofs.Decode.Gaps
import SyscallDecode.Proofs.Kernel.Descriptor
import SyscallDecode.Proofs.Terminal.Yields

namespace SyscallDecode

open SyscallDecode.Text

/-! ## Targets -/

/-- A target of which the answers can be shown: the types that safe names stand for have safe names,
also of their members, and the reasons why there is no answer are safe. Memory may hold anything,
and so may the failure of a symbol, which is never shown. -/
structure Target.Safe (t : Target) : Prop where
  types : ∀ name, Text.Safe name → ∀ type, t.typeNamed name = .ok type →
    ∀ n ∈ type.names, Text.Safe n
  typeStops : ∀ name, Text.Safe name → ∀ stop, t.typeNamed name = .error stop → stop.Safe
  readStops : ∀ space address length stop, t.read space address length = .error stop → stop.Safe
  symbolAborts : ∀ name a, t.symbol name = .error (.abort a) → Text.Safe a.message

/-- A safe target with a process of which the answers can be shown. -/
theorem Target.Safe.with {t : Target} (h : t.Safe) {process : ProcessView}
    (files : ∀ fd, (Reading.file fd).Yields ⟨t, process⟩ fun view => Text.Safe view.text)
    (areas : Reading.areas.Yields ⟨t, process⟩ fun list =>
      ∀ a ∈ list, ∀ path, a.path = some path → Text.Safe path) : World.Safe ⟨t, process⟩ := by
  refine ⟨fun name named => ?_, fun space address length => ?_, files, areas⟩
  · have answer : (Reading.typeNamed name).on ⟨t, process⟩ = t.typeNamed name := rfl
    unfold Course.Yields
    rw [answer]
    cases found : t.typeNamed name with
    | ok type => exact h.types name named type found
    | error stop => exact h.typeStops name named stop found
  · have answer : (Reading.bytes space address length).on ⟨t, process⟩ =
        t.read space address length := rfl
    unfold Course.Yields
    rw [answer]
    cases read : t.read space address length with
    | ok bytes => trivial
    | error stop => exact h.readStops space address length stop read

theorem Target.Safe.world {t : Target} (h : t.Safe) : t.world.Safe :=
  h.with (fun _ => (safe_of_bytes rfl : Text.Safe "no process is known"))
    (safe_of_bytes rfl : Text.Safe "no process is known")

namespace Kernel

variable {t : Target} (layout : KernelLayout) {w : World}

/-! ## Files -/

theorem safe_pointer (h : w.Safe) (address : UInt64) :
    (Reading.pointer .kernel address).Yields w fun _ => True :=
  h.reading (Reading.pointer_within readTerms_reads _)

theorem safe_unsigned (h : w.Safe) (address : UInt64) (size : Nat) :
    (Reading.unsigned .kernel address size).Yields w fun _ => True :=
  h.reading (Reading.unsigned_within readTerms_reads _ _)

theorem safe_follow (h : w.Safe) (address : UInt64) {null : String} (hn : Text.Safe null) :
    (follow address null).Yields w fun _ => True := by
  refine .bind (safe_pointer h _) fun link _ => ?_
  split
  · exact .fail hn
  · exact .pure trivial

theorem safe_slotAddress (slots : UInt64) (fd : Nat) :
    (slotAddress layout slots fd).Yields w fun _ => True := by
  unfold slotAddress
  dsimp only
  split
  · exact .pure trivial
  · exact (safe_of_bytes rfl : Text.Safe "attempt to multiply with overflow")

theorem safe_openFile (h : w.Safe) (task : UInt64) (fd : Nat) :
    (openFile layout task fd).Yields w fun _ => True := by
  refine .bind (safe_follow h _ (safe_of_bytes rfl)) fun files _ =>
    .bind (safe_follow h _ (safe_of_bytes rfl)) fun table _ =>
    .bind (safe_unsigned h _ _) fun maxFds _ => ?_
  split
  · refine .fail ?_
    show Text.Safe ("descriptor " ++ toString fd ++ " is past max_fds " ++ toString maxFds.toNat)
    simp (disch := decide) [safe_of_bytes]
  · refine .bind (safe_follow h _ (safe_of_bytes rfl)) fun slots _ =>
      .bind (safe_slotAddress layout _ _) fun slot _ => safe_follow h _ ?_
    simp (disch := decide) [safe_of_bytes]

/-- Only an abort shows in what is told of the symbol of sockets. -/
theorem safe_isSocket (h : t.Safe) (ops : UInt64) :
    (Reading.ofTelling (isSocket layout ops)).Yields t.world fun _ => True := by
  unfold Course.Yields
  rw [on_isSocket]
  rcases symbol : t.symbol layout.socketOpsSymbol with (f | a) | address
  · trivial
  · exact h.symbolAborts _ a symbol
  · trivial

theorem safe_socketView (h : w.Safe) (file : UInt64) (fd : Int32) :
    (socketView layout file fd).Yields w fun view => Text.Safe view.text :=
  .bind (safe_follow h _ (safe_of_bytes rfl)) fun _ _ => .bind (safe_unsigned h _ _) fun _ _ =>
    .bind (safe_unsigned h _ _) fun _ _ => .pure (FileView.safe_text nofun)

theorem safe_fileView (h : w.Safe) (file : UInt64) (fd : Int32) :
    (fileView layout file fd).Yields w fun view => Text.Safe view.text := by
  refine .bind (safe_pointer h _) fun dentry _ => ?_
  split
  · exact .pure (FileView.safe_text nofun)
  · exact .bind (h.reading (Reading.string_within readTerms_reads _ _)) fun _ _ =>
      .pure (FileView.safe_text nofun)

/-- The object behind a descriptor is shown safely, or why there is none. -/
theorem safe_fileOf (h : t.Safe) (task : UInt64) (fd : Int32) :
    (fileOf layout task fd).Yields t.world fun view => Text.Safe view.text := by
  unfold fileOf
  split
  · refine .fail (safe_behind rfl (safe_toString_int _))
  · refine .bind (safe_openFile layout h.world _ _) fun file _ =>
      .bind (safe_pointer h.world _) fun ops _ =>
      .bind (safe_isSocket layout h ops) fun socket _ => ?_
    split
    · exact safe_socketView layout h.world _ _
    · exact safe_fileView layout h.world _ _

/-! ## Areas -/

theorem safe_pageAddress (page : UInt64) : (pageAddress layout page).Yields w fun _ => True := by
  unfold pageAddress
  dsimp only
  split
  · exact .pure trivial
  · exact (safe_of_bytes rfl : Text.Safe "attempt to shift left with overflow")

theorem safe_areaAt (h : w.Safe) (record : UInt64) :
    (areaAt layout record).Yields w fun a => a.path = none := by
  refine .bind (safe_pointer h _) fun start _ => .bind (safe_pointer h _) fun finish _ =>
    .bind (safe_pointer h _) fun flags _ => ?_
  split
  · exact .bind (safe_pointer h _) fun page _ =>
      .bind (safe_pageAddress layout page) fun _ _ => .pure rfl
  · exact .pure rfl

/-- No area of a chain has a path. -/
theorem safe_chainFrom (h : w.Safe) {seen : List Area} (hs : ∀ a ∈ seen, a.path = none)
    (record : UInt64) (fuel : Nat) :
    (chainFrom layout seen record fuel).Yields w fun list => ∀ a ∈ list, a.path = none := by
  have shown : ∀ a ∈ seen.reverse, a.path = none := fun a ha => hs a (List.mem_reverse.1 ha)
  -- what is seen grows along the chain and is what the chain answers, however it ends
  induction fuel generalizing seen record with
  | zero => exact .pure shown
  | succ fuel ih =>
    unfold chainFrom
    split
    · exact .pure shown
    · refine .bind (safe_areaAt layout h record) fun area ha =>
        .bind (safe_pointer h _) fun next _ => ?_
      have more : ∀ a ∈ area :: seen, a.path = none := List.forall_mem_cons.2 ⟨ha, hs⟩
      exact ih more next fun a h => more a (List.mem_reverse.1 h)

theorem safe_areasOf (h : w.Safe) (task : UInt64) :
    (areasOf layout task).Yields w fun list => ∀ a ∈ list, a.path = none := by
  refine .bind (safe_pointer h _) fun memory _ => ?_
  split
  · exact .fail (safe_of_bytes rfl : Text.Safe "task has no mm (kernel thread)")
  · exact .bind (safe_pointer h _) fun first _ =>
      safe_chainFrom layout h (fun _ hl => (List.not_mem_nil hl).elim) _ _

/-- A task on a safe target is a safe process. -/
theorem safe_taskView (h : t.Safe) (task : UInt64) :
    World.Safe ⟨t, taskView t layout task⟩ := by
  refine h.with (safe_fileOf layout h task) ?_
  have areas := safe_areasOf layout h.world task
  exact areas.mono fun list hl a ha path hp => by rw [hl a ha] at hp; cases hp

end Kernel

end SyscallDecode
