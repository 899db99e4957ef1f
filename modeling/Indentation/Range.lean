/-!
# Positions and ranges

A position is a line and a column, both counted from 1. Columns lie between characters, so column 1
is before the first one. Both numbers are arbitrary: what lies outside a document is decided where a
position is used. The end of a range is not part of it.

## Main definitions

* `Position`, `Range` — a place in a document, and what lies between two of them
* `Range.caret` — the empty range at a position
-/

namespace Indentation

/-- A place in a document. -/
structure Position where
  line : Int
  column : Int
  deriving DecidableEq, Repr

/-- What lies between two places. -/
structure Range where
  start : Position
  stop : Position
  deriving DecidableEq, Repr

namespace Range

/-- The empty range at a position. -/
def caret (line column : Int) : Range :=
  ⟨⟨line, column⟩, ⟨line, column⟩⟩

/-- The range between two positions. -/
def between (startLine startColumn stopLine stopColumn : Int) : Range :=
  ⟨⟨startLine, startColumn⟩, ⟨stopLine, stopColumn⟩⟩

/-- Whether a range starts where it ends. -/
def isEmpty (range : Range) : Bool :=
  range.start == range.stop

end Range

end Indentation
