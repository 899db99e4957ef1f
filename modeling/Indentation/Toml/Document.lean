import Indentation.Toml.Number

/-!
# TOML documents

A document is a sequence of statements, one a line: a key with a value, or the heading of a table or
of one more table of an array. A heading says below which table the entries after it stand.

No table may be declared twice, and what a value in brackets holds is *frozen*: nothing can be added
to it. Tables that dotted keys have made on the way count as declared as soon as the next heading
comes.

## Main definitions

* `Toml.readValue` — a value
* `Toml.Progress` — the entries read so far, and what may not be changed any more
* `Toml.readStatement` — a statement
* `Toml.read` — a whole document
-/

namespace Indentation.Toml

/-! ### Values -/

/-- Whether one of the keys is `key` or leads to it. -/
def covers (keys : List Key) (key : Key) : Bool :=
  keys.any (·.isPrefixOf key)

/-- Whether a value is written in brackets. -/
def Value.isBracketed : Value → Bool
  | .array _ | .table _ => true
  | _ => false

/-- Passes a fault of a change on, where the reader stands. -/
def guard {α : Type} : Except Fault α → Reader α
  | .ok result => return result
  | .error fault => fail fault

/-- A number, a date, a time or a special number. -/
def readScalar : Reader Value := do
  let rest ← get
  if let some (size, isDay) := dateSize? rest then
    if !isDay then fail .invalidDate
    skip size
    return .other
  else if let some size := timeSize? rest then
    skip size
    return .other
  else if let some (size, number) := numberSize? rest then
    skip size
    match number with
    | .integer value => return .integer value
    | .tooLong count => throw (.breakdown (.tooManyDigits count))
    | .other => return .other
  else if let some size := specialSize? rest then
    skip size
    return .other
  else
    fail .invalidValue

mutual

/-- A value. -/
def readValue : Nat → Reader Value
  | 0 => fail .invalidValue
  | fuel + 1 => do
    if let some content ← readString? then
      return .text content
    else if ← accept "true" then
      return .boolean true
    else if ← accept "false" then
      return .boolean false
    else if ← accept "[" then
      skipLines
      if ← accept "]" then return .array [] else return .array (← readItems fuel)
    else if ← accept "\x7b" then
      skipBlanks
      if ← accept "\x7d" then return .table [] else return .table (← readEntries [] [] fuel)
    else
      readScalar

/-- The items of an array, up to its closing bracket. A comma may follow the last one. -/
def readItems : Nat → Reader (List Value)
  | 0 => fail .unclosedArray
  | fuel + 1 => do
    let item ← readValue fuel
    skipLines
    if ← accept "]" then
      return [item]
    else if ← accept "," then
      skipLines
      if ← accept "]" then return [item] else return item :: (← readItems fuel)
    else
      fail .unclosedArray

/-- The entries of a table in braces, up to its closing brace. -/
def readEntries (table : Table) (frozen : List Key) : Nat → Reader Table
  | 0 => fail .unclosedTable
  | fuel + 1 => do
    let (key, value) ← readPair fuel
    if covers frozen key then fail (.immutable key)
    let name := key.getLastD ""
    let add (inner : Table) : Except Fault Table :=
      if (inner.lookup name).isSome then .error (.duplicateKey name)
      else .ok (inner.put name value)
    let table ← guard (table.update false add key.dropLast)
    skipBlanks
    if ← accept "\x7d" then
      return table
    else if ← accept "," then
      skipBlanks
      readEntries table (if value.isBracketed then key :: frozen else frozen) fuel
    else
      fail .unclosedTable

/-- A key and its value. -/
def readPair : Nat → Reader (Key × Value)
  | 0 => fail .expectedEquals
  | fuel + 1 => do
    let key ← readKey
    if !(← accept "=") then fail .expectedEquals
    skipBlanks
    let value ← readValue fuel
    return (key, value)

end

/-! ### Statements -/

/-- What has been read: the entries, the heading in force, the declared and the frozen keys, and the
keys that count as declared from the next heading on. -/
structure Progress where
  table : Table := []
  heading : Key := []
  declared : List Key := []
  frozen : List Key := []
  pending : List Key := []

namespace Progress

/-- What is known when a heading comes. -/
def settle (progress : Progress) : Progress :=
  { progress with declared := progress.pending ++ progress.declared, pending := [] }

/-- Makes the table that a heading names. -/
def openTable (key : Key) (progress : Progress) : Except Fault Progress := do
  if progress.declared.contains key || covers progress.frozen key then
    throw (.declaredTwice key)
  let table ← progress.table.update true .ok key
  return { progress with table, heading := key, declared := key :: progress.declared }

/-- Adds a table to the array that a heading names. What is known of tables below it concerned the
table before. -/
def openItem (key : Key) (progress : Progress) : Except Fault Progress := do
  if covers progress.frozen key then
    throw (.immutable key)
  let name := key.getLastD ""
  let add (inner : Table) : Except Fault Table :=
    match inner.lookup name with
    | none => .ok (inner.put name (.array [.table []]))
    | some (.array items) => .ok (inner.put name (.array (items ++ [.table []])))
    | some _ => .error .overwrite
  let table ← progress.table.update true add key.dropLast
  let keep := fun other : Key => !key.isPrefixOf other
  return { progress with
    table
    heading := key
    declared := key :: progress.declared.filter keep
    frozen := progress.frozen.filter keep }

/-- Adds an entry below the heading in force. -/
def addEntry (key : Key) (value : Value) (progress : Progress) : Except Fault Progress := do
  let ways :=
    (List.range (key.length - 1)).map fun count => progress.heading ++ key.take (count + 1)
  match ways.find? progress.declared.contains with
  | some way => throw (.redefined way)
  | none =>
    let parent := progress.heading ++ key.dropLast
    if covers progress.frozen parent then
      throw (.immutable parent)
    let name := key.getLastD ""
    let add (inner : Table) : Except Fault Table :=
      if (inner.lookup name).isSome then .error .overwrite else .ok (inner.put name value)
    let table ← progress.table.update true add parent
    let frozen :=
      if value.isBracketed then (progress.heading ++ key) :: progress.frozen else progress.frozen
    return { progress with table, frozen, pending := ways ++ progress.pending }

end Progress

/-- A heading, at its opening bracket. -/
def readHeading (progress : Progress) : Reader Progress := do
  let progress := progress.settle
  if ← accept "[[" then
    skipBlanks
    let key ← readKey
    let progress ← guard (progress.openItem key)
    if !(← accept "]]") then fail .expectedArrayEnd
    return progress
  else
    skip 1
    skipBlanks
    let key ← readKey
    let progress ← guard (progress.openTable key)
    if !(← accept "]") then fail .expectedTableEnd
    return progress

/-- What stands on a line before a comment, if anything. -/
def readStatement (progress : Progress) : Reader Progress := do
  match ← peek with
  | none | some '#' => return progress
  | some '[' => readHeading progress
  | some c =>
    if isBare c || c == '\x22' || c == '\x27' then
      let (key, value) ← readPair (3 * (← get).length + 3)
      guard (progress.addEntry key value)
    else
      fail .invalidStatement

/-- The statements of a document. -/
def readStatements (progress : Progress) : Nat → Reader Progress
  | 0 => return progress
  | fuel + 1 => do
    skipBlanks
    if ← accept "\n" then
      readStatements progress fuel
    else
      let progress ← readStatement progress
      skipBlanks
      skipComment
      match ← peek with
      | none => return progress
      | some '\n' =>
        skip 1
        readStatements progress fuel
      | some _ => fail .expectedLineEnd

/-- The text with a line feed for every pair of a carriage return and a line feed. -/
def joinLineEnds : Text → Text
  | [] => []
  | '\r' :: '\n' :: cs => '\n' :: joinLineEnds cs
  | c :: cs => c :: joinLineEnds cs

/-- The table that a document spells. -/
def read (text : Text) : Except (Failed Error) Table :=
  let source := joinLineEnds text
  match (readStatements {} (source.length + 1)).run' source with
  | .ok progress => .ok progress.table
  | .error failed =>
    .error (failed.map fun (fault, left) => ⟨source, fault, source.length - left⟩)

end Indentation.Toml
