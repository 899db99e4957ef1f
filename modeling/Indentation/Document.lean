import Indentation.Lexer
import Indentation.LineSource
import Indentation.Text.Lines

/-!
# Documents

A document is split into lines, which are cut into tokens from the top when they are asked for. The
tokens are kept, each line's with the state behind it, so that later lines go on from there. Lines
are counted from 1.

## Main definitions

* `Document` — the lines of a text in a language, and the tokens made so far
* `Document.lexed` — the tokens of all lines, from the top
* `Document.extend` — the document with the tokens of its first lines
* `Document.source` — a document as a source of lines
-/

namespace Indentation

/-- A text in a language. The memo holds the tokens of the first lines, each with the state behind
it. -/
structure Document where
  registry : Registry
  language : String
  lines : List Text
  memo : List (TokenizedLine × LineState) := []

namespace Document

/-- There is no line with the number asked for. -/
structure Fault where
  line : Int
  count : Nat
  deriving DecidableEq, Repr

/-- The wording of a fault. -/
def Fault.message (fault : Fault) : String :=
  s!"line {fault.line} is out of range (1-{fault.count})"

/-- The document of a text, without tokens yet. -/
def ofText (text : Text) (language : String) (registry : Registry) : Document :=
  { registry, language, lines := text.splitLines }

variable (document : Document)

/-- The number of lines. -/
def lineCount : Nat :=
  document.lines.length

/-- The number of lines whose tokens have been made. -/
def tokenizedCount : Nat :=
  document.memo.length

/-- The tokens of all lines and the states behind them, from the top. -/
def lexed : List (TokenizedLine × LineState) :=
  Lexer.tokenizeLines document.registry (.initial document.language) document.lines

/-- The state behind the lines whose tokens have been made. -/
def reached : LineState :=
  (document.memo.getLast?.map (·.2)).getD (.initial document.language)

/-- The document with the tokens of at least its first `count` lines. -/
def extend (count : Nat) : Document :=
  let made := document.memo.length
  let missing := (document.lines.drop made).take (count - made)
  { document with
    memo := document.memo ++ Lexer.tokenizeLines document.registry document.reached missing }

/-- The index of a line, if the document has it. -/
def index? (line : Int) : Except Fault Nat :=
  if 1 ≤ line ∧ line ≤ document.lineCount then
    .ok (line - 1).toNat
  else
    .error ⟨line, document.lineCount⟩

/-- The text of a line. -/
def content (line : Int) : Except Fault Text := do
  let index ← document.index? line
  return document.lines[index]?.getD []

/-- The column behind the last character of a line. -/
def maxColumn (line : Int) : Except Fault Int := do
  return (← document.content line).length + 1

/-- Makes the tokens of all lines up to the given one. -/
def force (line : Int) : Fetch Fault Document Unit := do
  let index ← (← get).index? line
  modify (·.extend (index + 1))

/-- The tokens of a line, which are made if they are not there. -/
def tokens (line : Int) : Fetch Fault Document TokenizedLine := do
  force line
  let document ← get
  let index ← document.index? line
  match document.memo[index]? with
  | some (tokens, _) => return tokens
  | none => throw ⟨line, document.lineCount⟩

/-- A document as a source of lines. -/
def source : LineSource Fault Document where
  force := force
  tokens := tokens
  maxColumn line := do (← get).maxColumn line

end Document

end Indentation
