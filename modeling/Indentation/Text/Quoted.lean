import Indentation.Character.Printable
import Indentation.Text.Basic

/-!
# Quoted texts

A text is shown between single quotes, or between double quotes if it holds a single quote and no
double one. The backslash, the quote in use and the characters that are not printable are escaped:
tab, line feed and carriage return by a letter, the others by two, four or eight hexadecimal digits.

## Main definitions

* `Text.quoted` — a text between quotes
* `Text.hexDigits` — a number in a fixed count of lowercase hexadecimal digits
-/

namespace Indentation.Text

/-- The last `count` lowercase hexadecimal digits of `n`. -/
def hexDigits : Nat → Nat → Text
  | 0, _ => []
  | count + 1, n => hexDigits count (n / 16) ++ [Nat.digitChar (n % 16)]

/-- A character inside a text that is shown between `quote`s. -/
def quotedChar (quote c : Char) : Text :=
  if c == quote || c == '\\' then ['\\', c]
  else if c == '\t' then ['\\', 't']
  else if c == '\n' then ['\\', 'n']
  else if c == '\r' then ['\\', 'r']
  else if Character.isPrintable c then [c]
  else if c.toNat < 0x100 then '\\' :: 'x' :: hexDigits 2 c.toNat
  else if c.toNat < 0x10000 then '\\' :: 'u' :: hexDigits 4 c.toNat
  else '\\' :: 'U' :: hexDigits 8 c.toNat

/-- The text between quotes, with escapes. -/
def quoted (text : Text) : Text :=
  let quote := if text.contains '\x27' && !text.contains '\x22' then '\x22' else '\x27'
  quote :: text.flatMap (quotedChar quote) ++ [quote]

end Indentation.Text
