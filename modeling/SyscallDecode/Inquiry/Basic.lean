/-
Inquiries. All that decoding learns from outside it learns by asking: for the layout of a type, the
bytes at an address, a symbol, the file behind a descriptor, the mapped areas. An inquiry says what
is asked and what comes of the answers; a world gives the answers. What an inquiry asks in a world,
and in which order, is a list that can be reasoned about.
-/
import SyscallDecode.Process.View
import SyscallDecode.Target.Basic

namespace SyscallDecode

/-! ## Questions -/

/-- What can be asked. -/
inductive Question
  | typeNamed (name : String)
  | read (space : AddressSpace) (address : UInt64) (length : Nat)
  | symbol (name : String)
  | file (descriptor : Int32)
  | areas
  deriving DecidableEq, Repr

/-- What the answer to a question consists of, if there is one. -/
abbrev Question.Answer : Question → Type
  | typeNamed _ => CType
  | read _ _ _ => List UInt8
  | symbol _ => UInt64
  | file _ => FileView
  | areas => List Area

/-- Whoever answers: a target, and the process that runs on it. -/
structure World where
  target : Target
  process : ProcessView

namespace World

/-- The answer to a question. -/
def answer (w : World) : (q : Question) → Attempt q.Answer
  | .typeNamed name => w.target.typeNamed name
  | .read space address length => w.target.read space address length
  | .symbol name => w.target.symbol name
  | .file descriptor => w.process.file descriptor
  | .areas => w.process.areas

end World

/-- A target of which no process is known. -/
def Target.world (t : Target) : World :=
  ⟨t, .absent⟩

/-! ## Inquiries -/

/-- Questions, each asked when the answers before it are known, and a result in the end. -/
inductive Inquiry : Type → Type 1
  | done {α : Type} (result : α) : Inquiry α
  | ask (q : Question) : Inquiry (Attempt q.Answer)
  | andThen {α β : Type} (first : Inquiry β) (next : β → Inquiry α) : Inquiry α

namespace Inquiry

variable {α β : Type} (w : World)

/-- The result of an inquiry in a world. -/
def run {α : Type} : Inquiry α → α
  | done result => result
  | ask q => w.answer q
  | andThen first next => (next first.run).run

/-- What an inquiry asks in a world, in order. -/
def asked {α : Type} : Inquiry α → List Question
  | done _ => []
  | ask q => [q]
  | andThen first next => first.asked ++ (next (first.run w)).asked

instance : Monad Inquiry where
  pure := done
  bind := andThen

@[simp] theorem run_pure (a : α) : (pure a : Inquiry α).run w = a := rfl

@[simp] theorem run_ask (q : Question) : (ask q).run w = w.answer q := rfl

@[simp] theorem run_bind (p : Inquiry β) (k : β → Inquiry α) :
    (p >>= k).run w = (k (p.run w)).run w := rfl

@[simp] theorem asked_pure (a : α) : (pure a : Inquiry α).asked w = [] := rfl

@[simp] theorem asked_ask (q : Question) : (ask q).asked w = [q] := rfl

@[simp] theorem asked_bind (p : Inquiry β) (k : β → Inquiry α) :
    (p >>= k).asked w = p.asked w ++ (k (p.run w)).asked w := rfl

end Inquiry

end SyscallDecode
