import Indentation.Breakdown
import Indentation.Character.Hex
import Indentation.Toml.Value

/-!
# Reading TOML: keys, strings and blanks

The reader holds what has not been read yet. A fault is placed by how much of the document was left
when it was found.

## Main definitions

* `Toml.Reader` — reading with the rest of the document
* `Toml.readKey` — names joined by dots
* `Toml.readString` — a string of any of the four kinds
* `Toml.skipBlanks`, `Toml.skipComment`, `Toml.skipLines` — what may stand between
-/

namespace Indentation.Toml

/-- A step of reading: it takes from the rest of the document, or fails with a fault and the length
of the rest where it was found, or breaks down. -/
abbrev Reader := StateT Text (Except (Failed (Fault × Nat)))

/-- Fails at the given rest. -/
def failAt {α : Type} (fault : Fault) (rest : Text) : Reader α :=
  throw (.cause (fault, rest.length))

/-- Fails where the reader stands. -/
def fail {α : Type} (fault : Fault) : Reader α := do
  failAt fault (← get)

/-- The next character. -/
def peek : Reader (Option Char) := do
  return (← get).head?

/-- Moves past `count` characters. -/
def skip (count : Nat) : Reader Unit :=
  modify (·.drop count)

/-- Whether the rest begins with `spelling`. -/
def sees (spelling : String) : Reader Bool := do
  return spelling.toList.isPrefixOf (← get)

/-- Moves past `spelling` if the rest begins with it, and says whether it did. -/
def accept (spelling : String) : Reader Bool := do
  if ← sees spelling then
    skip spelling.length
    return true
  else
    return false

/-- Moves past all characters of a class that come next, and returns them. -/
def takeWhile (isMember : Char → Bool) : Reader Text := do
  let rest ← get
  set (rest.dropWhile isMember)
  return rest.takeWhile isMember

/-! ### Blanks and comments -/

/-- A space or a tab. -/
def isBlank (c : Char) : Bool :=
  c == ' ' || c == '\t'

/-- A control character that may stand nowhere on a line. -/
def isControl (c : Char) : Bool :=
  (c.toNat < 32 && c != '\t') || c.toNat == 127

/-- Moves past spaces and tabs. -/
def skipBlanks : Reader Unit := do
  let _ ← takeWhile isBlank

/-- Fails at the first character that may not stand in `passage`, with which the rest begins. -/
def checkCharacters (isBad : Char → Bool) (passage : Text) : Reader Unit := do
  match passage.dropWhile fun c => !isBad c with
  | [] => return ()
  | bad :: after =>
    throw (.cause (.invalidCharacter bad, (← get).length - (passage.length - after.length - 1)))

/-- Moves past a comment, if there is one, up to the end of the line. -/
def skipComment : Reader Unit := do
  if ← accept "#" then
    let comment := (← get).takeWhile (· != '\n')
    checkCharacters isControl comment
    skip comment.length

/-- Moves past blanks, line ends and comments. -/
def skipLinesFrom : Nat → Reader Unit
  | 0 => return ()
  | fuel + 1 => do
    let before := (← get).length
    let _ ← takeWhile fun c => isBlank c || c == '\n'
    skipComment
    if (← get).length != before then skipLinesFrom fuel

/-- Moves past blanks, line ends and comments. -/
def skipLines : Reader Unit := do
  skipLinesFrom ((← get).length + 1)

/-! ### Strings -/

/-- The text up to `close`, which ends a string without escapes. -/
def readUntil (close : String) (isBad : Char → Bool) : Reader Text := do
  let rest ← get
  match Text.find? close.toList rest with
  | none => failAt (.expected close.toList) []
  | some offset =>
    let content := rest.take offset
    checkCharacters isBad content
    skip (offset + close.length)
    return content

/-- A character given by `count` hexadecimal digits. -/
def readHex (count : Nat) : Reader Text := do
  let digits := (← get).take count
  match digits.mapM Character.hexValue? with
  | none => fail .invalidHex
  | some values =>
    if values.length ≠ count then fail .invalidHex
    skip count
    let code := Character.ofHexValues values
    if h : code.isValidChar then return [Char.ofNatAux code h] else fail .noScalar

/-- The characters that an escape stands for by its letter. -/
def escapeLetter? : Char → Option Char
  | 'b' => some '\x08'
  | 't' => some '\t'
  | 'n' => some '\n'
  | 'f' => some '\x0c'
  | 'r' => some '\r'
  | '\x22' => some '\x22'
  | '\\' => some '\\'
  | _ => none

/-- An escape, at the backslash. In a string of several lines a backslash at the end of a line takes
away all blanks and line ends up to the next other character. -/
def readEscape (multiline : Bool) : Reader Text := do
  let letter? := (← get).tail.head?
  skip 2
  match letter? with
  | none => fail .unescapedBackslash
  | some c =>
    if multiline && (isBlank c || c == '\n') then
      if c != '\n' then
        skipBlanks
        match ← peek with
        | none => return []
        | some '\n' => skip 1
        | some _ => fail .unescapedBackslash
      let _ ← takeWhile fun c => isBlank c || c == '\n'
      return []
    else if c == 'u' then
      readHex 4
    else if c == 'U' then
      readHex 8
    else
      match escapeLetter? c with
      | some c => return [c]
      | none => fail .unescapedBackslash

/-- The rest of a string with escapes, with its closing quotes. -/
def readBasic (multiline : Bool) : Nat → Reader Text
  | 0 => fail .unterminatedString
  | fuel + 1 => do
    match ← peek with
    | none => fail .unterminatedString
    | some '\x22' =>
      if !multiline then
        skip 1
        return []
      else if ← accept "\"\"\"" then
        return []
      else
        skip 1
        return '\x22' :: (← readBasic multiline fuel)
    | some '\\' =>
      let piece ← readEscape multiline
      return piece ++ (← readBasic multiline fuel)
    | some c =>
      if isControl c && !(multiline && c == '\n') then fail (.illegalCharacter c)
      skip 1
      return c :: (← readBasic multiline fuel)

/-- The rest of a string with escapes. -/
def readBasicRest (multiline : Bool) : Reader Text := do
  readBasic multiline ((← get).length + 1)

/-- Up to two quotes directly behind the three that close a string belong to it. -/
def readExtraQuotes (quote : String) : Reader Text := do
  if !(← accept quote) then return []
  if !(← accept quote) then return quote.toList
  return quote.toList ++ quote.toList

/-- A string of several lines, behind its opening quotes. A line end that comes first is dropped. -/
def readMultiline (literal : Bool) : Reader Text := do
  let _ ← accept "\n"
  if literal then
    let content ← readUntil "'''" fun c => isControl c && c != '\n'
    return content ++ (← readExtraQuotes "'")
  else
    let content ← readBasicRest true
    return content ++ (← readExtraQuotes "\"")

/-- A string on one line, behind its opening quote. -/
def readLine (literal : Bool) : Reader Text :=
  if literal then readUntil "'" isControl else readBasicRest false

/-- A string of any kind, if one comes next. -/
def readString? : Reader (Option Text) := do
  if ← accept "\"\"\"" then
    return some (← readMultiline false)
  else if ← accept "\"" then
    return some (← readLine false)
  else if ← accept "'''" then
    return some (← readMultiline true)
  else if ← accept "'" then
    return some (← readLine true)
  else
    return none

/-! ### Keys -/

/-- A character of a name without quotes. -/
def isBare (c : Char) : Bool :=
  c.isAlphanum || c == '-' || c == '_'

/-- A name, with or without quotes. -/
def readName : Reader String := do
  match ← peek with
  | some c =>
    if isBare c then
      return String.ofList (← takeWhile isBare)
    else if c == '\x27' then
      skip 1
      return String.ofList (← readLine true)
    else if c == '\x22' then
      skip 1
      return String.ofList (← readLine false)
    else
      fail .invalidKeyStart
  | none => fail .invalidKeyStart

/-- The rest of a key, after a name. -/
def readKeyRest : Nat → Reader Key
  | 0 => return []
  | fuel + 1 => do
    skipBlanks
    if ← accept "." then
      skipBlanks
      let name ← readName
      return name :: (← readKeyRest fuel)
    else
      return []

/-- Names joined by dots, and the blanks behind them. -/
def readKey : Reader Key := do
  let name ← readName
  return name :: (← readKeyRest ((← get).length + 1))

end Indentation.Toml
