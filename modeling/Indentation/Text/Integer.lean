import Indentation.Character.Blank
import Indentation.Character.Numeral
import Indentation.Text.Basic

/-!
# Reading and writing integers

A written integer is a sign, if any, and decimal digits of any script, with single low lines allowed
between digits and white space allowed around the whole. A number with more than 4300 digits is
neither read nor written.

## Main definitions

* `Text.toInt?` — the integer that a text spells
* `Text.ofInt?` — the decimal digits of an integer, if there are not too many
-/

namespace Indentation.Text

/-- The most digits that a written integer may have. -/
def maxIntegerDigits : Nat := 4300

/-- The decimal digits of an integer, unless there are too many of them. -/
def ofInt? (number : Int) : Option Text :=
  if (Nat.toDigits 10 number.natAbs).length ≤ maxIntegerDigits then some (ofInt number) else none

/-- White space around a written integer. The information separators do not count. -/
def isIntegerMargin (c : Char) : Bool :=
  Character.isBlank c && !(0x1C ≤ c.toNat && c.toNat ≤ 0x1F)

/-- The values of the digits of a number, where a low line stands only between two digits. The flag
says whether the character before was a digit. -/
def digitValues? (afterDigit : Bool) : Text → Option (List Nat)
  | [] => if afterDigit then some [] else none
  | c :: cs =>
    if c == '_' then
      if afterDigit then digitValues? false cs else none
    else do
      let value ← Character.decimalValue? c
      return value :: (← digitValues? true cs)

/-- The number with the given decimal digits, most significant first. -/
def ofDigitValues (values : List Nat) : Nat :=
  values.foldl (fun number value => 10 * number + value) 0

/-- The number that a text without sign and margin spells. -/
def toNat? (text : Text) : Option Nat := do
  let values ← digitValues? false text
  if values.length ≤ maxIntegerDigits then some (ofDigitValues values) else none

/-- The integer that a text spells. -/
def toInt? (text : Text) : Option Int :=
  let inner := ((text.dropWhile isIntegerMargin).reverse.dropWhile isIntegerMargin).reverse
  match inner with
  | '-' :: digits => (toNat? digits).map fun n : Nat => -(n : Int)
  | '+' :: digits => (toNat? digits).map fun n : Nat => (n : Int)
  | digits => (toNat? digits).map fun n : Nat => (n : Int)

end Indentation.Text
