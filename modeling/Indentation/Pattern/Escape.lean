import Indentation.Character.Hex
import Indentation.Pattern.Progress

/-!
# Escapes in patterns

A backslash with a character stands for a control character, a class of characters, a place, a
character given by its number, or what a group has matched. Inside a set it cannot stand for a place
or a group.

## Main definitions

* `Pattern.readEscape` — an escape outside a set
* `Pattern.readSetEscape` — an escape in a set
-/

namespace Indentation.Pattern

/-- An octal digit. -/
def isOctalDigit (c : Char) : Bool :=
  '0' ≤ c && c ≤ '7'

/-- The number with the given digits in a base up to ten. -/
def numberOf (base : Nat) (digits : Text) : Nat :=
  digits.foldl (fun number c => base * number + (c.toNat - 48)) 0

/-- The character with exactly `count` hexadecimal digits, which follow the escape of `letter`. -/
def readHexEscape (letter : Char) (count : Nat) : Reader Nat := do
  let digits ← nextWhile (fun c => (Character.hexValue? c).isSome) count
  let escape := '\\' :: letter :: digits
  if digits.length ≠ count then fail (.incompleteEscape escape) escape.length
  let code := Character.ofHexValues (digits.filterMap Character.hexValue?)
  if 0x110000 ≤ code then fail (.badEscape escape) escape.length
  return code

/-- The characters that an escape stands for by its letter. -/
def controlEscape? : Char → Option Nat
  | 'a' => some 7
  | 'b' => some 8
  | 'f' => some 12
  | 'n' => some 10
  | 'r' => some 13
  | 't' => some 9
  | 'v' => some 11
  | '\\' => some 92
  | _ => none

/-- The class of characters that an escape stands for, and whether it is negated. -/
def categoryEscape? : Char → Option (Category × Bool)
  | 'd' => some (.digit, false)
  | 'D' => some (.digit, true)
  | 's' => some (.space, false)
  | 'S' => some (.space, true)
  | 'w' => some (.word, false)
  | 'W' => some (.word, true)
  | _ => none

/-- The place that an escape stands for. -/
def anchorEscape? : Char → Option Anchor
  | 'A' => some .textStart
  | 'b' => some .wordBoundary
  | 'B' => some .notWordBoundary
  | 'Z' => some .textEnd
  | _ => none

/-- An escape with hexadecimal digits or a character name, or of a character that is no letter. -/
def readCommonEscape (c : Char) : Reader Nat := do
  match c with
  | 'x' => readHexEscape 'x' 2
  | 'u' => readHexEscape 'u' 4
  | 'U' => readHexEscape 'U' 8
  | 'N' =>
    if !(← accept '\x7b') then fail .missingBrace
    let name ← nextName '\x7d' "character name"
    match (← get).characterNames name with
    | some code => return code
    | none => fail (.undefinedCharacter name) (name.length + 4)
  | _ =>
    if c.isAlpha then fail (.badEscape ['\\', c]) 2
    return c.toNat

/-- A member of a set that is written with a backslash and `c`. -/
def readSetEscape (c : Char) : Reader SetItem := do
  if let some code := controlEscape? c then
    return .code code
  else if let some (category, negated) := categoryEscape? c then
    return .category category negated
  else if isOctalDigit c then
    let escape := '\\' :: c :: (← nextWhile isOctalDigit 2)
    let code := numberOf 8 escape.tail
    if 0o377 < code then fail (.octalTooLarge escape) escape.length
    return .code code
  else if c.isDigit then
    fail (.badEscape ['\\', c]) 2
  else
    return .code (← readCommonEscape c)

/-- A reference to the group with the number `digits`. -/
def readReference (digits : Text) : Reader Node := do
  let index := numberOf 10 digits
  if index < (← groupCount) then
    match ← closedWidth? index with
    | none => fail .openGroupReference (digits.length + 1)
    | some width =>
      checkLookBehind index
      return .backreference index width
  else
    fail (.invalidGroupReference index) digits.length

/-- A digit after a backslash begins an octal number if it is 0 or the first of three octal digits,
and the number of a group otherwise. -/
def readDigitEscape (c : Char) : Reader Node := do
  if c == '0' then
    return .code (numberOf 8 (c :: (← nextWhile isOctalDigit 2))) false
  let second ← nextWhile Char.isDigit 1
  let third ←
    if isOctalDigit c && !second.isEmpty && second.all isOctalDigit then
      nextWhile isOctalDigit 1
    else
      pure []
  if third.isEmpty then
    readReference (c :: second)
  else
    let escape := '\\' :: c :: second ++ third
    let code := numberOf 8 escape.tail
    if 0o377 < code then fail (.octalTooLarge escape) escape.length
    return .code code false

/-- An item outside a set that is written with a backslash and `c`. -/
def readEscape (c : Char) : Reader Node := do
  if let some anchor := anchorEscape? c then
    return .anchor anchor
  else if let some (category, negated) := categoryEscape? c then
    return .set [.category category negated] false
  else if let some code := controlEscape? c then
    return .code code false
  else if c.isDigit then
    readDigitEscape c
  else
    return .code (← readCommonEscape c) false

end Indentation.Pattern
