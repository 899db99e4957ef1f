import Indentation.Range
import Indentation.Sanitize
import Indentation.Scope

/-!
# The context of a range

The text before, behind and above a caret or a selection, without literal brackets. It is cut to the
language scope at the start of the range. The text above comes from the line before it, and only if
the scope goes on across the line break: it must open its line, and the line before must end in the
same language.

## Main definitions

* `Context` — the text before, behind and above a range
* `extractContext` — the context of a range in a source of lines
-/

namespace Indentation

/-- The text around a range, without literal brackets and cut to the scope at its start. -/
structure Context where
  before : Text
  after : Text
  previousLine : Text
  deriving DecidableEq, Repr

namespace Context

variable (registry : Registry) (scope : Scope) (line : TokenizedLine)

/-- The text of the scope before a column. -/
def textBefore (column : Int) : Text :=
  registry.sanitize (scope.sliceLine line 0 (some (scope.offsetWithin (column - 1))))

/-- The text of the scope behind a caret at a column. -/
def textAfter (column : Int) : Text :=
  registry.sanitize (scope.sliceLine line (scope.offsetWithin (column - 1)))

/-- The text behind a selection that stops at a column of `line`. Of the scope at its start only the
end counts, as an offset in `line`. -/
def textAfterSelection (column : Int) : Text :=
  registry.sanitize (line.slice (min (column - 1) scope.stopChar) scope.stopChar)

/-- The text above a scope, whose line follows a `line` with the given last column. -/
def textAbove (maxColumn : Int) : Text :=
  let above := line.scopeAt (maxColumn - 1)
  if above.language = scope.language then registry.sanitize (above.sliceLine line) else []

end Context

/-- The context of a range. The lines that it needs are demanded in the order in which they are
needed: the line of the start, that of the end of a selection, and the one above. -/
def extractContext {ε σ : Type} (source : LineSource ε σ) (registry : Registry) (range : Range) :
    Fetch ε σ Context := do
  let line ← source.demand range.start.line
  let scope := line.scopeAt (range.start.column - 1)
  let before := Context.textBefore registry scope line range.start.column
  let after ←
    if range.isEmpty then
      pure (Context.textAfter registry scope line range.start.column)
    else do
      let last ← source.demand range.stop.line
      pure (Context.textAfterSelection registry scope last range.stop.column)
  let previousLine ←
    if 1 ≤ range.start.line - 1 ∧ scope.startsLine then do
      let above ← source.demand (range.start.line - 1)
      let maxColumn ← source.maxColumn (range.start.line - 1)
      pure (Context.textAbove registry scope above maxColumn)
    else
      pure []
  return { before, after, previousLine }

end Indentation
