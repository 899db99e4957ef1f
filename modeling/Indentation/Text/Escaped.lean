import Indentation.Text.Quoted

/-!
# Texts in ASCII

A text is written between double quotes with printable ASCII characters only. The double quote and
the backslash are escaped by a backslash, the common control characters by a letter, and the other
control characters and all characters outside ASCII by the four hexadecimal digits of their UTF-16
units.

## Main definitions

* `Text.unitEscape` — the escape of a UTF-16 unit
* `Text.escapedChar` — a character with escapes
* `Text.escaped` — a text between double quotes
-/

namespace Indentation.Text

/-- The escape of a UTF-16 unit. -/
def unitEscape (unit : Nat) : Text :=
  '\\' :: 'u' :: hexDigits 4 unit

/-- A character with escapes. One beyond U+FFFF takes two units. -/
def escapedChar (c : Char) : Text :=
  let code := c.toNat
  if c == '\x22' || c == '\\' then ['\\', c]
  else if c == '\n' then ['\\', 'n']
  else if c == '\r' then ['\\', 'r']
  else if c == '\t' then ['\\', 't']
  else if code == 0x08 then ['\\', 'b']
  else if code == 0x0C then ['\\', 'f']
  else if 0x20 ≤ code && code < 0x7F then [c]
  else if code < 0x10000 then unitEscape code
  else unitEscape (0xD7C0 + code / 0x400) ++ unitEscape (0xDC00 + code % 0x400)

/-- The text between double quotes, in ASCII. -/
def escaped (text : Text) : Text :=
  '\x22' :: text.flatMap escapedChar ++ ['\x22']

end Indentation.Text
