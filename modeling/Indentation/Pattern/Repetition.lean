import Indentation.Pattern.Escape

/-!
# Repetitions in patterns

A question mark, an asterisk, a plus sign or two bounds in braces repeat the item before them. A
second question mark makes the repetition lazy, a plus sign possessive. The reader breaks down at a
bound that is too large.

## Main definitions

* `Pattern.readBound` — a bound
* `Pattern.readBraces` — bounds in braces
* `Pattern.repeatLast` — repeats the last item
-/

namespace Indentation.Pattern

/-- How often an item is repeated: at least and, unless unlimited, at most. -/
abbrev Bounds := Nat × Option Nat

/-- The bound with the given digits. -/
def readBound (digits : Text) : Reader Nat := do
  if Text.maxIntegerDigits < digits.length then
    throw (.breakdown (.tooManyDigits digits.length))
  let bound := numberOf 10 digits
  if maxRepetition < bound then
    throw (.breakdown .repetitionTooLarge)
  return bound

/-- The bounds in braces, after the opening one; `none` if what follows has not this form, and then
the reader has not moved. -/
def readBraces : Reader (Option Bounds) := do
  let before ← get
  if (← peek) = some (.plain '\x7d') then
    return none
  let low ← nextAll Char.isDigit
  let high ← if ← accept ',' then nextAll Char.isDigit else pure low
  if !(← accept '\x7d') then
    set before
    return none
  let least ← readBound low
  if high.isEmpty then
    return some (least, none)
  let most ← readBound high
  if most < least then fail .leastAboveMost ((← get).position - before.position)
  return some (least, some most)

/-- Repeats the last item, the first of `items`, after a sign that began at `start`. -/
def repeatLast (items : List Node) (start : Nat) (bounds : Bounds) : Reader (List Node) := do
  let back := (← get).position - start
  match items with
  | [] | .anchor _ :: _ => fail .nothingToRepeat back
  | .repetition .. :: _ => fail .multipleRepeat back
  | item :: items =>
    -- a plus sign is looked at only if no question mark has been taken
    let isLazy ← accept '?'
    let isPossessive ← if isLazy then pure false else accept '+'
    let greed : Greed := if isLazy then .lazy else if isPossessive then .possessive else .greedy
    return .repetition greed bounds.1 bounds.2 item :: items

end Indentation.Pattern
