/-!
# Outputs that may run full

An output accepts a number of bytes in all and refuses every byte after them.  Writing stops in the
middle of a text where the room ends.
-/

namespace ClusterBootstrap

/-- An output and what it holds. -/
structure Output where
  /-- How many more bytes are accepted; `none` sets no bound. -/
  room : Option Nat := none
  written : List UInt8 := []
  deriving DecidableEq, Repr

/-- Why an output did not take a text. -/
inductive OutputFault where
  | full
  deriving DecidableEq, Repr

/-- The wording of a fault. -/
def OutputFault.text : OutputFault → String
  | full => "output full"

/-- Steps that write to an output and stop at its first refusal. -/
abbrev Printing (α : Type) := ExceptT OutputFault (StateM Output) α

namespace Output

/-- An output that never refuses. -/
def unlimited : Output := {}

/-- An output that accepts `n` bytes. -/
def limited (n : Nat) : Output := { room := some n }

/-- Takes as many bytes as there is room for, and tells whether these are all. -/
def accept (bytes : List UInt8) (output : Output) : Bool × Output :=
  match output.room with
  | none => (true, { output with written := output.written ++ bytes })
  | some n =>
    (bytes.length ≤ n,
      { room := some (n - bytes.length), written := output.written ++ bytes.take n })

/-- Writes a text. -/
def put (text : String) : Printing Unit := do
  let output ← get
  let (complete, output) := output.accept text.toUTF8.toList
  set output
  unless complete do throw .full

/-- Writes lines, each ended by a line break. -/
def putLines : List String → Printing Unit
  | [] => pure ()
  | line :: lines => do
    put line
    put "\n"
    putLines lines

/-- The text an output holds.  Bytes at its end that are only the beginning of a character stand for
one replacement character. -/
def text (output : Output) : String :=
  let bytes := output.written
  let whole (cut : Nat) := String.fromUTF8? ⟨(bytes.take (bytes.length - cut)).toArray⟩
  match whole 0 with
  | some s => s
  | none =>
    match [1, 2, 3].findSome? whole with
    | some s => s ++ "\ufffd"
    | none => ""

end Output

end ClusterBootstrap
