import Indentation.Text.Basic

/-!
# The margin of a line

The margin is the run of spaces and tabs at the front of a line. Changing the indentation of a line
swaps the whole margin for another one, whatever mix of spaces and tabs it holds.

## Main definitions

* `Text.margin` — the spaces and tabs at the front
* `Text.reindent` — the line with another margin
-/

namespace Indentation

/-- A character of a margin: a space or a tab. -/
def isMarginChar (c : Char) : Bool :=
  c == ' ' || c == '\t'

namespace Text

/-- The run of spaces and tabs at the front of a line. -/
def margin (line : Text) : Text :=
  line.takeWhile isMarginChar

/-- The line with `indent` in the place of its margin. -/
def reindent (line indent : Text) : Text :=
  indent ++ line.dropWhile isMarginChar

/-- The line with `indent?` in the place of its margin, if one is given. -/
def reindent? (line : Text) : Option Text → Text
  | none => line
  | some indent => line.reindent indent

end Text

end Indentation
