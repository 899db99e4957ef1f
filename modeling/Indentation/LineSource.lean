import Indentation.TokenizedLine

/-!
# Sources of tokenized lines

Everything that looks at lines gets them from a source: a document that cuts its lines into tokens
when they are asked for, or lines whose tokens are given. Asking may fail, and it may change the
source, which remembers what it has been asked.

## Main definitions

* `Fetch` — an answer that may fail, and the source after it
* `Fetch.answer` — the answer alone
* `LineSource` — what can be asked of a source
* `LineSource.demand` — the tokens of a line, after making sure that they are there
* `GivenLines` — lines with their tokens, with a record of the lines made sure of
-/

namespace Indentation

/-- Asks a source `σ` for an answer, which may fail. The source after it is kept in any case. -/
abbrev Fetch (ε σ α : Type) := ExceptT ε (StateM σ) α

/-- The answer of a source, without the source after it. -/
def Fetch.answer {ε σ α : Type} (fetch : Fetch ε σ α) (source : σ) : Except ε α :=
  (fetch.run.run source).run.1

/-- What can be asked of a source of lines, which are counted from 1. -/
structure LineSource (ε σ : Type) where
  /-- Makes sure that the tokens of a line are there. -/
  force : Int → Fetch ε σ Unit
  /-- The tokens of a line. -/
  tokens : Int → Fetch ε σ TokenizedLine
  /-- The column behind the last character of a line. -/
  maxColumn : Int → Fetch ε σ Int

/-- The tokens of a line, after making sure that they are there. -/
def LineSource.demand {ε σ : Type} (source : LineSource ε σ) (line : Int) :
    Fetch ε σ TokenizedLine := do
  source.force line
  source.tokens line

/-- Lines with their tokens. The lines made sure of are recorded, last first, whether they exist or
not. -/
structure GivenLines where
  lines : List TokenizedLine
  forced : List Int := []
  deriving Repr

namespace GivenLines

/-- There is no line with the number asked for. -/
inductive Fault where
  | noSuchLine
  deriving DecidableEq, Repr

/-- The wording of a fault. -/
def Fault.message : Fault → String
  | noSuchLine => "no such line"

/-- The line with a given number. -/
def line? (given : GivenLines) (line : Int) : Option TokenizedLine :=
  if 1 ≤ line then given.lines[(line - 1).toNat]? else none

/-- The line with a given number, or a fault. -/
def fetch (line : Int) : Fetch Fault GivenLines TokenizedLine := do
  match (← get).line? line with
  | some tokens => return tokens
  | none => throw .noSuchLine

/-- Given lines as a source. -/
def source : LineSource Fault GivenLines where
  force line := modify fun given => { given with forced := line :: given.forced }
  tokens := fetch
  maxColumn line := return (← fetch line).text.length + 1

end GivenLines

end Indentation
