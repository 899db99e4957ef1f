/-!
# Texts

Lines, delimiters and bracket spellings are sequences of characters, and every offset counts
characters. A *spelling* is a text that is looked for in another one. The empty spelling stands
nowhere, so an empty delimiter never opens or closes anything; only a plain search for the empty
text succeeds, and does so at once.

## Main definitions

* `Text` — a sequence of characters
* `Text.slice` — the characters between two offsets
* `Text.beginsWith` — whether a non-empty spelling stands at the front
* `Text.find?` — the offset of the first occurrence
* `Text.eraseAll` — the text without the occurrences of a spelling
* `Text.ofInt` — the decimal digits of an integer
-/

namespace Indentation

/-- A sequence of characters. -/
abbrev Text := List Char

namespace Text

/-- The characters at the offsets from `start` up to but not including `stop`. -/
def slice (text : Text) (start stop : Nat) : Text :=
  (text.take stop).drop start

/-- Whether `spelling` is not empty and stands at the front of `text`. -/
def beginsWith (text spelling : Text) : Bool :=
  !spelling.isEmpty && spelling.isPrefixOf text

/-- The offset of the first occurrence of `needle`. The empty text occurs at offset 0. -/
def find? (needle : Text) : Text → Option Nat
  | [] => if needle.isEmpty then some 0 else none
  | c :: cs =>
    if needle.isPrefixOf (c :: cs) then some 0 else (find? needle cs).map (· + 1)

/-- Erases the occurrences of `spelling` after passing over the next `skip` characters, which
belong to an occurrence that is being erased. -/
def eraseAfter (spelling : Text) : Nat → Text → Text
  | _, [] => []
  | skip + 1, _ :: cs => eraseAfter spelling skip cs
  | 0, c :: cs =>
    if spelling.isPrefixOf (c :: cs) then
      eraseAfter spelling (spelling.length - 1) cs
    else
      c :: eraseAfter spelling 0 cs

/-- The text without the occurrences of a non-empty spelling, found from left to right and not
overlapping. What is left may hold new occurrences, and these stay. -/
def eraseAll (spelling text : Text) : Text :=
  eraseAfter spelling 0 text

/-- The decimal digits of an integer, with a minus sign in front of a negative one. -/
def ofInt : Int → Text
  | .ofNat n => Nat.toDigits 10 n
  | .negSucc n => '-' :: Nat.toDigits 10 (n + 1)

end Text

end Indentation
