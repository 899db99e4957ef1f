import Indentation.Breakdown
import Indentation.Character.Identifier
import Indentation.Pattern.Fault
import Indentation.Pattern.Node

/-!
# Reading a pattern step by step

A pattern is read in lexemes: a backslash with the character after it, or any other character. The
next lexeme is always looked at before the one in front of it is acted upon, so a backslash at the
end of the pattern is found as soon as it comes next.

The reader keeps what it has learnt about groups: the numbers of the named ones, the widths of the
closed ones, how many there were when the outermost look-behind opened, and where conditionals
mention a group by number.

## Main definitions

* `Pattern.Lexeme` — a unit of a pattern
* `Pattern.CharacterNames` — the characters that can be given by their names
* `Pattern.Progress` — what is known between two lexemes
* `Pattern.Reader` — a step of reading
* `Pattern.next`, `Pattern.accept`, `Pattern.nextName` — taking lexemes, a character and a name
* `Pattern.openGroup`, `Pattern.closeGroup` — keeping account of groups
-/

namespace Indentation.Pattern

/-- A unit of a pattern: a plain character, or a backslash with the character after it. -/
inductive Lexeme where
  | plain (c : Char)
  | escape (c : Char)
  deriving DecidableEq, Repr

/-- The characters of a lexeme. -/
def Lexeme.text : Lexeme → Text
  | plain c => [c]
  | escape c => ['\\', c]

/-- The characters that can be given by their names. -/
abbrev CharacterNames := Text → Option Nat

/-- What the reader knows between two lexemes. -/
structure Progress where
  characterNames : CharacterNames
  /-- What has not been read yet. -/
  rest : Text
  /-- How many characters have been read. -/
  position : Nat
  flags : List Flag
  /-- The named groups with their numbers. -/
  names : List (Text × Nat)
  /-- The widths of the groups in the order of their numbers; an open group has none yet. -/
  widths : List (Option Width)
  /-- The number of the first group inside the outermost open look-behind. -/
  lookBehind : Option Nat
  /-- The groups that conditionals mention by number, each with the place of the first mention. -/
  mentions : List (Nat × Nat)

/-- A step of reading: it may move on, fail with a fault and its position, or break down. -/
abbrev Reader := StateT Progress (Except (Failed (Fault × Nat)))

/-- Fails with a fault that lies `back` characters before the next lexeme. -/
def fail {α : Type} (fault : Fault) (back : Nat := 0) : Reader α := do
  throw (.cause (fault, (← get).position - back))

/-- The next lexeme, if there is one. -/
def peek : Reader (Option Lexeme) := do
  match (← get).rest with
  | [] => return none
  | '\\' :: c :: _ => return some (.escape c)
  | c :: _ => return some (.plain c)

/-- Stops at a backslash at the end of the pattern, where a lexeme would have to begin. -/
def checkNext : Reader Unit := do
  if (← get).rest = ['\\'] then fail .escapeAtEnd

/-- The next lexeme, if there is one. The reader moves past it. -/
def next : Reader (Option Lexeme) := do
  let lexeme? ← peek
  match lexeme? with
  | none => return none
  | some lexeme =>
    let size := lexeme.text.length
    modify fun s => { s with rest := s.rest.drop size, position := s.position + size }
    checkNext
    return some lexeme

/-- Moves past the character `c` if it comes next, and says whether it did. -/
def accept (c : Char) : Reader Bool := do
  if (← peek) = some (.plain c) then
    let _ ← next
    return true
  else
    return false

/-- Moves past at most `most` characters of a class and returns them. -/
def nextWhile (isMember : Char → Bool) : Nat → Reader Text
  | 0 => return []
  | most + 1 => do
    match ← peek with
    | some (.plain c) =>
      if isMember c then
        let _ ← next
        return c :: (← nextWhile isMember most)
      else
        return []
    | _ => return []

/-- The length of what has not been read, which bounds every loop. -/
def remaining : Reader Nat := do
  return (← get).rest.length

/-- Moves past all characters of a class that come next and returns them. -/
def nextAll (isMember : Char → Bool) : Reader Text := do
  nextWhile isMember (← remaining)

/-- The text up to `terminator`, after `before` has been read of it. -/
def nameFrom (terminator : Char) (what : String) (before : Text) : Nat → Reader Text
  | 0 => fail (.missingName what)
  | fuel + 1 => do
    match ← next with
    | none =>
      if before.isEmpty then
        fail (.missingName what)
      else
        fail (.unterminatedName terminator) before.length
    | some lexeme =>
      if lexeme = .plain terminator then
        if before.isEmpty then fail (.missingName what) 1 else return before
      else
        nameFrom terminator what (before ++ lexeme.text) fuel

/-- The name up to `terminator`, past which the reader moves. -/
def nextName (terminator : Char) (what : String) : Reader Text := do
  nameFrom terminator what [] ((← remaining) + 1)

/-! ### Groups -/

/-- The number of groups opened so far, the whole match included. -/
def groupCount : Reader Nat := do
  return (← get).widths.length + 1

/-- The width of a group that has been closed. -/
def closedWidth? (index : Nat) : Reader (Option Width) := do
  if index = 0 then
    return none
  else
    return ((← get).widths[index - 1]?).join

/-- Refuses a mention of a group that stands in the same look-behind. -/
def checkLookBehind (index : Nat) : Reader Unit := do
  match (← get).lookBehind with
  | none => return ()
  | some bound =>
    if (← closedWidth? index).isNone then fail .openGroupReference
    if bound ≤ index then fail .groupOfSameLookBehind

/-- Opens a group and returns its number. -/
def openGroup (name? : Option Text) : Reader Nat := do
  let index ← groupCount
  modify fun s => { s with widths := s.widths ++ [none] }
  match name? with
  | none => return index
  | some name =>
    match (← get).names.lookup name with
    | some before => fail (.redefinedGroup name index before) (name.length + 1)
    | none =>
      modify fun s => { s with names := s.names ++ [(name, index)] }
      return index

/-- Closes a group whose content has been read. -/
def closeGroup (index : Nat) (body : Node) : Reader Unit :=
  modify fun s => { s with widths := s.widths.set (index - 1) (some body.width) }

/-- Refuses a group name that is no identifier. -/
def checkGroupName (name : Text) : Reader Unit := do
  if !isIdentifier name then fail (.badGroupName name) (name.length + 1)

end Indentation.Pattern
