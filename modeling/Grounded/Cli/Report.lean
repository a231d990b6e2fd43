import Grounded.Error
import Grounded.Number.Decimal
import Grounded.Retrieval.Basic

/-!
# Reports

What a command prints, on its two streams, and the code it ends with.
-/

namespace Grounded.Cli

/-- What a command prints and how it ends. -/
structure Report where
  out : String := ""
  err : String := ""
  exitCode : Nat := 0
deriving DecidableEq, Repr

namespace Report

/-- One report after another. It fails if one of them does. -/
def append (a b : Report) : Report := ⟨a.out ++ b.out, a.err ++ b.err, max a.exitCode b.exitCode⟩

instance : Append Report := ⟨append⟩

/-- One report after another, from left to right. -/
def concat (reports : List Report) : Report := reports.foldl append {}

/-- A text on the first stream. -/
def text (s : String) : Report := { out := s }

/-- A line on the first stream. -/
def line (s : String) : Report := text (s ++ "\n")

/-- A message to the user. -/
def info (s : String) : Report := line (">> " ++ s)

/-- A warning to the user. -/
def warning (s : String) : Report := { err := ">> " ++ s ++ "\n" }

/-- The title of what follows. -/
def header (s : String) : Report := line ("\n" ++ s)

/-- A value with its name. -/
def entry (key value : String) : Report := line ("  " ++ key ++ ": " ++ value)

/-- What lies behind an error, in a paragraph of its own. -/
def causeText (e : Error) : String :=
  match e.cause? with
  | some cause => "\nCaused by:\n    " ++ cause ++ "\n"
  | none => ""

/-- The end of a command that failed. -/
def failure (e : Error) : Report :=
  { err := "Error: " ++ e.message ++ "\n" ++ causeText e, exitCode := 1 }

/-! ## Parts of messages -/

/-- The start of a text, on one line. -/
def preview (maxChars : Nat) (s : String) : String :=
  let chars := s.toList.map fun c => if c = '\n' then ' ' else c
  if chars.length ≤ maxChars then String.ofList chars
  else String.ofList (chars.take maxChars) ++ "..."

/-- A passage with its score. -/
def passage (maxChars : Nat) (p : Passage) : Report :=
  line ("\n>> " ++ p.label ++ " [" ++ p.chunk.kind.name ++ "] (score: " ++ p.score.twoPlaces ++ ")") ++
    line ("   " ++ preview maxChars p.chunk.text)

/-- A number of bytes, in a unit that suits it. -/
def sizeText (bytes : Nat) : String :=
  if 1048576 ≤ bytes then (Decimal.ofBinary false bytes (-20)).fixed 1 ++ " MB"
  else if 1024 ≤ bytes then (Decimal.ofBinary false bytes (-10)).fixed 1 ++ " KB"
  else toString bytes ++ " B"

end Report

end Grounded.Cli
