import Indentation.Toml.Reader

/-!
# Reading TOML: numbers, dates and times

Each reader looks at the front of a text and says how many characters belong to what it looks for.
Digits are those of ASCII, and single low lines may stand between them.

## Main definitions

* `Toml.dateSize?` — a date, with or without a time, and whether there is such a day
* `Toml.timeSize?` — a time of day
* `Toml.numberSize?` — a number, and its value if it is an integer that is not too long
-/

namespace Indentation.Toml

/-- The number that the first `count` characters spell, if all of them are digits. -/
def fixedDigits? (count : Nat) (text : Text) : Option Nat :=
  let digits := text.take count
  if digits.length = count && digits.all Char.isDigit then
    some (digits.foldl (fun number c => 10 * number + (c.toNat - 48)) 0)
  else
    none

/-- A number of two digits between two bounds. -/
def twoDigits? (low high : Nat) (text : Text) : Option Nat :=
  (fixedDigits? 2 text).filter fun number => low ≤ number && number ≤ high

/-- Whether a text goes on with a character at an offset. -/
def hasAt (text : Text) (offset : Nat) (isMember : Char → Bool) : Bool :=
  text[offset]?.any isMember

/-- The size of a time of day: hours, minutes and seconds, and a fraction if there is one. -/
def timeSize? (text : Text) : Option Nat := do
  let _ ← twoDigits? 0 23 text
  let _ ← twoDigits? 0 59 (text.drop 3)
  let _ ← twoDigits? 0 59 (text.drop 6)
  if !(hasAt text 2 (· == ':') && hasAt text 5 (· == ':')) then
    none
  else
    let fraction := ((text.drop 9).takeWhile Char.isDigit).length
    if hasAt text 8 (· == '.') && fraction != 0 then some (9 + fraction) else some 8

/-- The size of a time offset: the letter Z, or hours and minutes with a sign. -/
def offsetSize (text : Text) : Nat :=
  if hasAt text 0 fun c => c == 'Z' || c == 'z' then 1
  else if hasAt text 0 (fun c => c == '+' || c == '-') && (twoDigits? 0 23 (text.drop 1)).isSome
      && hasAt text 3 (· == ':') && (twoDigits? 0 59 (text.drop 4)).isSome then 6
  else 0

/-- The number of days of a month. -/
def daysOf (year month : Nat) : Nat :=
  if month = 2 then
    if year % 4 = 0 && (year % 100 != 0 || year % 400 = 0) then 29 else 28
  else if month = 4 || month = 6 || month = 9 || month = 11 then 30
  else 31

/-- The size of a date, with or without a time of day behind it, and whether there is such a day.
Years count from 1. -/
def dateSize? (text : Text) : Option (Nat × Bool) := do
  let year ← fixedDigits? 4 text
  let month ← twoDigits? 1 12 (text.drop 5)
  let day ← twoDigits? 1 31 (text.drop 8)
  if !(hasAt text 4 (· == '-') && hasAt text 7 (· == '-')) then
    none
  else
    let exists? := year != 0 && day ≤ daysOf year month
    let isJoint := hasAt text 10 fun c => c == 'T' || c == 't' || c == ' '
    match if isJoint then timeSize? (text.drop 11) else none with
    | none => some (10, exists?)
    | some size => some (11 + size + offsetSize (text.drop (11 + size)), exists?)

/-- The size of digits with single low lines between them. -/
def digitRun (isMember : Char → Bool) : Text → Nat
  | [] => 0
  | [c] => if isMember c then 1 else 0
  | c :: d :: cs =>
    if !isMember c then 0
    else if d == '_' && cs.head?.any isMember then digitRun isMember cs + 2
    else digitRun isMember (d :: cs) + 1

/-- The number that digits spell in a base, low lines left out. -/
def numberOf (base : Nat) (digits : Text) : Nat :=
  (digits.filterMap Character.hexValue?).foldl (fun number value => base * number + value) 0

/-- The size of a fraction: a point and digits. -/
def fractionSize (text : Text) : Nat :=
  let digits := digitRun Char.isDigit (text.drop 1)
  if hasAt text 0 (· == '.') && digits != 0 then 1 + digits else 0

/-- The size of an exponent: the letter E, a sign if there is one, and digits. -/
def exponentSize (text : Text) : Nat :=
  let mark := if hasAt text 1 fun c => c == '+' || c == '-' then 2 else 1
  let digits := digitRun Char.isDigit (text.drop mark)
  if hasAt text 0 (fun c => c == 'e' || c == 'E') && digits != 0 then mark + digits else 0

/-- What a number is: an integer, one that has too many digits, or none. -/
inductive Number where
  | integer (value : Int)
  | tooLong (count : Nat)
  | other
  deriving DecidableEq, Repr

/-- The size and value of an integer in another base, which a zero and a letter introduce. -/
def basedInteger? (text : Text) : Option (Nat × Number) :=
  let read (base : Nat) (isMember : Char → Bool) : Option (Nat × Number) :=
    let size := digitRun isMember (text.drop 2)
    if size = 0 then none
    else some (2 + size, .integer (numberOf base ((text.drop 2).take size)))
  match text with
  | '0' :: 'x' :: _ => read 16 fun c => (Character.hexValue? c).isSome
  | '0' :: 'b' :: _ => read 2 fun c => c == '0' || c == '1'
  | '0' :: 'o' :: _ => read 8 fun c => '0' ≤ c && c ≤ '7'
  | _ => none

/-- The integer that decimal digits spell. Low lines do not count as digits. -/
def decimalInteger (isNegative : Bool) (digits : Text) : Number :=
  let count := digits.countP Char.isDigit
  if Text.maxIntegerDigits < count then
    .tooLong count
  else
    let number : Int := numberOf 10 digits
    .integer (if isNegative then -number else number)

/-- The size of a decimal number, and its value if it has neither fraction nor exponent. No zero
stands in front of other digits. -/
def decimal? (text : Text) : Option (Nat × Number) :=
  let sign := if hasAt text 0 fun c => c == '+' || c == '-' then 1 else 0
  let digits := text.drop sign
  let whole := if hasAt digits 0 (· == '0') then 1 else digitRun Char.isDigit digits
  if whole = 0 then
    none
  else
    let fraction := fractionSize (digits.drop whole)
    let exponent := exponentSize (digits.drop (whole + fraction))
    let number :=
      if fraction + exponent = 0 then decimalInteger (text.head? = some '-') (digits.take whole)
      else .other
    some (sign + whole + fraction + exponent, number)

/-- The size of a number, and its value if it is an integer. -/
def numberSize? (text : Text) : Option (Nat × Number) :=
  basedInteger? text <|> decimal? text

/-- The size of an infinity or of a number that is none. -/
def specialSize? (text : Text) : Option Nat :=
  let names := ["inf", "nan", "-inf", "+inf", "-nan", "+nan"]
  (names.find? fun name => name.toList.isPrefixOf text).map String.length

end Indentation.Toml
