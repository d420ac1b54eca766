/-
Inquiries that may be broken off. A reading is broken off by a failure or an abort; a telling puts
failures into words, so that only an abort ends it early.
-/
import SyscallDecode.Inquiry.Basic

namespace SyscallDecode

/-- An inquiry that ends with a value, or early for some reason. -/
def Course (ε α : Type) : Type 1 := Inquiry (Except ε α)

namespace Course

variable {ε α β : Type} (w : World)

/-- How the course ends in a world. -/
def on (c : Course ε α) : Except ε α := Inquiry.run w c

/-- What the course asks in a world, in order. -/
def asked (c : Course ε α) : List Question := Inquiry.asked w c

/-- The course as an inquiry into how it ends. -/
def ending (c : Course ε α) : Inquiry (Except ε α) := c

/-- A course without questions. -/
def ofResult (result : Except ε α) : Course ε α := Inquiry.done result

/-- What comes after a course that ended like this. -/
def resume (k : β → Course ε α) : Except ε β → Course ε α
  | .ok b => k b
  | .error e => ofResult (.error e)

instance : Monad (Course ε) where
  pure a := ofResult (.ok a)
  bind c k := Inquiry.andThen c (resume k)

@[simp] theorem on_ofResult (result : Except ε α) : (ofResult result).on w = result := rfl

@[simp] theorem asked_ofResult (result : Except ε α) : (ofResult result).asked w = [] := rfl

@[simp] theorem on_pure (a : α) : (pure a : Course ε α).on w = .ok a := rfl

@[simp] theorem asked_pure (a : α) : (pure a : Course ε α).asked w = [] := rfl

theorem on_bind (c : Course ε β) (k : β → Course ε α) :
    (c >>= k).on w = (c.on w).bind fun b => (k b).on w := by
  show (resume k (c.on w)).on w = _
  cases c.on w <;> rfl

theorem on_bind_ok {c : Course ε β} {b : β} (h : c.on w = .ok b) (k : β → Course ε α) :
    (c >>= k).on w = (k b).on w := by
  rw [on_bind, h]; rfl

theorem on_bind_error {c : Course ε β} {e : ε} (h : c.on w = .error e) (k : β → Course ε α) :
    (c >>= k).on w = .error e := by
  rw [on_bind, h]; rfl

theorem on_bind_eq_ok {c : Course ε β} {k : β → Course ε α} {a : α} :
    (c >>= k).on w = .ok a ↔ ∃ b, c.on w = .ok b ∧ (k b).on w = .ok a := by
  cases h : c.on w with
  | ok b => simp [on_bind_ok w h]
  | error e => simp [on_bind_error w h]

theorem on_bind_eq_error {c : Course ε β} {k : β → Course ε α} {e : ε} :
    (c >>= k).on w = .error e ↔
      c.on w = .error e ∨ ∃ b, c.on w = .ok b ∧ (k b).on w = .error e := by
  cases h : c.on w with
  | ok b => simp [on_bind_ok w h]
  | error e' => simp [on_bind_error w h]

theorem asked_bind (c : Course ε β) (k : β → Course ε α) :
    (c >>= k).asked w = c.asked w ++ (resume k (c.on w)).asked w := rfl

theorem asked_bind_ok {c : Course ε β} {b : β} (h : c.on w = .ok b) (k : β → Course ε α) :
    (c >>= k).asked w = c.asked w ++ (k b).asked w := by
  rw [asked_bind, h]; rfl

theorem asked_bind_error {c : Course ε β} {e : ε} (h : c.on w = .error e)
    (k : β → Course ε α) : (c >>= k).asked w = c.asked w := by
  rw [asked_bind, h]
  exact List.append_nil _

@[simp] theorem run_ending (c : Course ε α) : c.ending.run w = c.on w := rfl

@[simp] theorem asked_ending (c : Course ε α) : c.ending.asked w = c.asked w := rfl

end Course

/-- A course that an attempt comes of: it may fail, and it may be aborted. -/
abbrev Reading := Course Stop

/-- A course that cannot fail, only be aborted. -/
abbrev Telling := Course Abort

namespace Reading

variable {α : Type} (w : World)

/-! ## Single questions -/

/-- A single question. -/
def ask (q : Question) : Reading q.Answer := Inquiry.ask q

/-- The layout of a type. -/
def typeNamed (name : String) : Reading CType := ask (.typeNamed name)

/-- The bytes from an address on. -/
def bytes (space : AddressSpace) (address : UInt64) (length : Nat) : Reading (List UInt8) :=
  ask (.read space address length)

/-- The address of a symbol. -/
def symbol (name : String) : Reading UInt64 := ask (.symbol name)

/-- The object behind a descriptor. -/
def file (descriptor : Int32) : Reading FileView := ask (.file descriptor)

/-- The mapped areas. -/
def areas : Reading (List Area) := ask .areas

@[simp] theorem on_ask (q : Question) : (ask q).on w = w.answer q := rfl

@[simp] theorem asked_ask (q : Question) : (ask q).asked w = [q] := rfl

/-! ## Failures -/

/-- Fails without a question. -/
def fail (f : Failure) : Reading α := Course.ofResult (Attempt.fail f)

/-- Aborts without a question. -/
def abort (a : Abort) : Reading α := Course.ofResult (Attempt.abort a)

/-- Takes a failure as a result; an abort stays one. -/
def settle (r : Reading α) : Telling (Except Failure α) :=
  Inquiry.andThen r fun ending => Inquiry.done (Attempt.settle ending)

/-- A telling as part of a reading. -/
def ofTelling (t : Telling α) : Reading α :=
  Inquiry.andThen t fun ending => Inquiry.done (Attempt.ofRun ending)

@[simp] theorem on_fail (f : Failure) : (fail f : Reading α).on w = .error (.failure f) := rfl

@[simp] theorem asked_fail (f : Failure) : (fail f : Reading α).asked w = [] := rfl

@[simp] theorem on_settle (r : Reading α) : r.settle.on w = Attempt.settle (r.on w) := rfl

theorem on_settle_ok {r : Reading α} {a : α} (h : r.on w = .ok a) :
    r.settle.on w = .ok (.ok a) := by
  rw [on_settle, h, Attempt.settle_ok]

theorem on_settle_failure {r : Reading α} {f : Failure} (h : r.on w = .error (.failure f)) :
    r.settle.on w = .ok (.error f) := by
  rw [on_settle, h, Attempt.settle_failure]

theorem on_settle_abort {r : Reading α} {a : Abort} (h : r.on w = .error (.abort a)) :
    r.settle.on w = .error a := by
  rw [on_settle, h, Attempt.settle_abort]

@[simp] theorem asked_settle (r : Reading α) : r.settle.asked w = r.asked w :=
  List.append_nil _

@[simp] theorem on_ofTelling (t : Telling α) : (ofTelling t).on w = Attempt.ofRun (t.on w) := rfl

@[simp] theorem asked_ofTelling (t : Telling α) : (ofTelling t).asked w = t.asked w :=
  List.append_nil _

end Reading

end SyscallDecode
