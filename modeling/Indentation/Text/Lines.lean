import Indentation.Text.Basic

/-!
# Lines of a text

A document is split at line feeds, carriage returns and pairs of both, so it has one line more than
it has line ends. Editors also see *terminated lines*, which keep their ends, end at a few more
characters, and leave out an empty line at the end.

## Main definitions

* `Text.splitLines` — the lines of a document
* `Text.unifyLineEnds` — the text with every line end as a line feed
* `Text.terminatedLines` — the lines with their ends
* `Text.lineAndColumn` — where an offset lies, counting line feeds only
-/

namespace Indentation.Text

/-- Puts a character in front of the first of some lines. -/
def pushFirst (c : Char) : List Text → List Text
  | [] => [[c]]
  | line :: lines => (c :: line) :: lines

/-- The lines between carriage returns, line feeds and pairs of both. -/
def splitLines : Text → List Text
  | [] => [[]]
  | '\r' :: '\n' :: cs => [] :: splitLines cs
  | c :: cs =>
    if c = '\r' ∨ c = '\n' then [] :: splitLines cs else pushFirst c (splitLines cs)

/-- The text with a line feed for every carriage return and for every pair of both. -/
def unifyLineEnds : Text → Text
  | [] => []
  | '\r' :: '\n' :: cs => '\n' :: unifyLineEnds cs
  | c :: cs => (if c = '\r' then '\n' else c) :: unifyLineEnds cs

/-- A character that ends a terminated line: the line and page separators of all kinds. -/
def isLineEnd (c : Char) : Bool :=
  let code := c.toNat
  (0x0A ≤ code && code ≤ 0x0D) || (0x1C ≤ code && code ≤ 0x1E) || code == 0x85
    || code == 0x2028 || code == 0x2029

/-- The lines of a text with their ends. The text behind the last end is a line if it is not
empty. -/
def terminatedLines : Text → List Text
  | [] => []
  | '\r' :: '\n' :: cs => ['\r', '\n'] :: terminatedLines cs
  | c :: cs =>
    if isLineEnd c then [c] :: terminatedLines cs else pushFirst c (terminatedLines cs)

/-- The line and the column of an offset, both counted from 1, where lines end at line feeds. -/
def lineAndColumn (text : Text) (offset : Nat) : Nat × Nat :=
  let before := text.take offset
  (before.count '\n' + 1, (before.reverse.takeWhile (· != '\n')).length + 1)

end Indentation.Text
