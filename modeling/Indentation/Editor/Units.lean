import Indentation.Breakdown
import Indentation.Text.Lines

/-!
# Positions in code units

Editors count the characters of a line in code units. What tells the characters before a position
is a *codec*; it may break down.

There is a codec for each encoding that an editor may choose. A count of units becomes a count of
characters by walking along the terminated line until as many units have been passed; a count inside
a character moves past it. A count beyond the line is taken as one unit before its end, a position
below the last line as the end of that line, in units. Negative and very large counts are not taken.

## Main definitions

* `Editor.Codec` — what tells the characters before a position
* `Editor.Encoding` — the encodings an editor may count in
* `Editor.Encoding.units` — the units of a text
* `Editor.Encoding.charactersAt` — the characters before a unit
* `Editor.Encoding.codec` — the codec of an encoding
-/

namespace Indentation.Editor

/-- What tells the characters before a position in a document. The position is given by the index
of a line and a count of units, both from 0. -/
abbrev Codec := Text → Nat → Int → Except Breakdown Nat

/-- An encoding in whose units an editor counts. -/
inductive Encoding where
  | utf8
  | utf16
  | utf32
  deriving DecidableEq, Repr

namespace Encoding

/-- The units of a character. -/
def unitsOf (encoding : Encoding) (c : Char) : Nat :=
  match encoding with
  | utf8 => c.utf8Size
  | utf16 => if c.toNat < 0x10000 then 1 else 2
  | utf32 => 1

variable (encoding : Encoding)

/-- The units of a text. -/
def units : Text → Nat
  | [] => 0
  | c :: cs => encoding.unitsOf c + units cs

/-- How many characters have to be passed until at least `count` units have been passed, or the
text ends. -/
def charactersAt : Nat → Text → Nat
  | 0, _ => 0
  | _ + 1, [] => 0
  | count + 1, c :: cs => charactersAt (count + 1 - encoding.unitsOf c) cs + 1

/-- The line with its end as a single line feed if it was a pair. -/
def plainEnd : Text → Text
  | [] => []
  | '\r' :: '\n' :: cs => '\n' :: plainEnd cs
  | c :: cs => c :: plainEnd cs

/-- The number of characters before a position, which is given by the index of a line and a count of
units, both from 0. -/
def characters (lines : List Text) (line count : Nat) : Nat :=
  match lines[line]? with
  | some text =>
    let text := plainEnd text
    let total := encoding.units text
    encoding.charactersAt (if total < count then total - 1 else count) text
  | none => (lines.getLast?.map encoding.units).getD 0

/-- The greatest count that a position may have. -/
def maxCount : Int := 2147483647

/-- The codec of an encoding. -/
def codec : Codec := fun document line count =>
  if 0 ≤ count ∧ count ≤ maxCount then
    .ok (encoding.characters document.terminatedLines line count.toNat)
  else
    .error (.badCharacter count)

end Encoding

end Indentation.Editor
