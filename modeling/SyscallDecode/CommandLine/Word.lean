/-
The words of a command line by their shape: the separator behind which nothing is an option, long
options with or without a value attached, clusters of one-letter options, and plain words.
-/

namespace SyscallDecode.CommandLine

/-- The shape of a word. -/
inductive Word
  /-- Two dashes alone. -/
  | separator
  /-- Two dashes and a name; a value may follow behind an equals sign. -/
  | long (name : String) (value : Option String)
  /-- One dash and letters, of which the later ones may be a value. -/
  | letters (letters : List Char)
  /-- Anything else, one dash alone included. -/
  | plain (text : String)
  deriving DecidableEq, Repr

/-- A long option without its dashes, cut at the first equals sign. -/
def Word.ofLong (text : List Char) : Word :=
  let name := String.ofList (text.takeWhile (· ≠ '='))
  match text.dropWhile (· ≠ '=') with
  | [] => .long name none
  | _ :: value => .long name (some (String.ofList value))

/-- The shape of a word as it was written. -/
def Word.ofText (text : String) : Word :=
  match text.toList with
  | '-' :: '-' :: rest => if rest.isEmpty then .separator else .ofLong rest
  | '-' :: rest => if rest.isEmpty then .plain text else .letters rest
  | _ => .plain text

/-- A word that starts with something else than a dash is plain. -/
theorem Word.ofText_plain {text : String} {c : Char} {rest : List Char}
    (h : text.toList = c :: rest) (hc : c ≠ '-') : Word.ofText text = .plain text := by
  unfold Word.ofText
  rw [h]
  split
  · next he => exact absurd (List.cons.inj he).1 hc
  · next he => exact absurd (List.cons.inj he).1 hc
  · rfl

end SyscallDecode.CommandLine
