import Indentation.Pattern.Escape

/-!
# Sets in patterns

A set stands in square brackets and lists characters, ranges and classes.

## Main definitions

* `Pattern.readSet` — a set, after its opening bracket
-/

namespace Indentation.Pattern

/-- A member of a set that begins with the lexeme. -/
def readSetItem : Lexeme → Reader SetItem
  | .plain c => return .code c.toNat
  | .escape c => readSetEscape c

/-- Fails at the bracket that opened the set at `start`. -/
def failSet {α : Type} (start : Nat) : Reader α := do
  fail .unterminatedSet ((← get).position - start)

/-- The members of a set that opened at `start`, after `items`, up to its closing bracket. A bracket
that comes first is a member. -/
def readSetFrom (start : Nat) (items : List SetItem) : Nat → Reader (List SetItem)
  | 0 => failSet start
  | fuel + 1 => do
    match ← next with
    | none => failSet start
    | some first =>
      if first = .plain ']' && !items.isEmpty then
        return items
      let low ← readSetItem first
      if !(← accept '-') then
        readSetFrom start (items ++ [low]) fuel
      else
        match ← next with
        | none => failSet start
        | some second =>
          if second = .plain ']' then
            return items ++ [low, .code '-'.toNat]
          let high ← readSetItem second
          let size := first.text.length + 1 + second.text.length
          match low, high with
          | .code low, .code high =>
            if high < low then
              fail (.badRange first.text second.text) size
            else
              readSetFrom start (items ++ [.range low high]) fuel
          | _, _ => fail (.badRange first.text second.text) size

/-- A set, after its opening bracket. A set of one character is that character. -/
def readSet : Reader Node := do
  let start := (← get).position - 1
  let negated ← accept '^'
  let items ← readSetFrom start [] ((← remaining) + 1)
  match items.eraseDups with
  | [.code code] => return .code code negated
  | items => return .set items negated

end Indentation.Pattern
