import Indentation.Text.Lines
import Indentation.Text.Quoted

/-!
# TOML values

The values of a TOML document, and why a text is no such document. A table keeps its entries in the
order in which they were written. Numbers with a fraction or an exponent, dates and times are read
but not told apart, since nothing depends on them.

## Main definitions

* `Toml.Value`, `Toml.Table` — values and tables
* `Toml.Key` — the names on the way to an entry
* `Toml.Table.update` — changes a table below another one
* `Toml.Fault`, `Toml.Error` — what is wrong, and where
-/

namespace Indentation.Toml

/-- A value. -/
inductive Value where
  | text (content : Text)
  | integer (number : Int)
  | boolean (holds : Bool)
  | array (items : List Value)
  | table (entries : List (String × Value))
  /-- A number that is no integer, a date or a time. -/
  | other
  deriving Inhabited

/-- The entries of a table, in the order in which they were written. -/
abbrev Table := List (String × Value)

/-- The names on the way to an entry. -/
abbrev Key := List String

/-- What is wrong with a document. -/
inductive Fault where
  | invalidStatement
  | expectedLineEnd
  | expectedEquals
  | invalidKeyStart
  | expectedTableEnd
  | expectedArrayEnd
  | declaredTwice (key : Key)
  | redefined (key : Key)
  | immutable (key : Key)
  | duplicateKey (name : String)
  | overwrite
  | invalidValue
  | invalidDate
  | unclosedArray
  | unclosedTable
  | unterminatedString
  | illegalCharacter (c : Char)
  | unescapedBackslash
  | invalidHex
  | noScalar
  | expected (text : Text)
  | invalidCharacter (c : Char)
  deriving DecidableEq, Repr

/-- The names of a key in parentheses, with a comma behind a single one. -/
def Key.show (key : Key) : Text :=
  let names := key.map fun name => Text.quoted name.toList
  let close := if names.length = 1 then ",)" else ")"
  '(' :: List.intercalate ", ".toList names ++ close.toList

/-- The wording of a fault, without its place. -/
def Fault.message : Fault → Text
  | invalidStatement => "Invalid statement".toList
  | expectedLineEnd => "Expected newline or end of document after a statement".toList
  | expectedEquals => "Expected '=' after a key in a key/value pair".toList
  | invalidKeyStart => "Invalid initial character for a key part".toList
  | expectedTableEnd => "Expected ']' at the end of a table declaration".toList
  | expectedArrayEnd => "Expected ']]' at the end of an array declaration".toList
  | declaredTwice key => "Cannot declare ".toList ++ key.show ++ " twice".toList
  | redefined key => "Cannot redefine namespace ".toList ++ key.show
  | immutable key => "Cannot mutate immutable namespace ".toList ++ key.show
  | duplicateKey name => "Duplicate inline table key ".toList ++ Text.quoted name.toList
  | overwrite => "Cannot overwrite a value".toList
  | invalidValue => "Invalid value".toList
  | invalidDate => "Invalid date or datetime".toList
  | unclosedArray => "Unclosed array".toList
  | unclosedTable => "Unclosed inline table".toList
  | unterminatedString => "Unterminated string".toList
  | illegalCharacter c => "Illegal character ".toList ++ Text.quoted [c]
  | unescapedBackslash => "Unescaped '\\' in a string".toList
  | invalidHex => "Invalid hex value".toList
  | noScalar => "Escaped character is not a Unicode scalar value".toList
  | expected text => "Expected ".toList ++ text.quoted
  | invalidCharacter c => "Found invalid character ".toList ++ Text.quoted [c]

/-- A fault in the document `source`, with the offset where it was found. -/
structure Error where
  source : Text
  fault : Fault
  offset : Nat
  deriving DecidableEq, Repr

/-- The wording of an error: the fault, and its line and column or the end of the document. -/
def Error.message (error : Error) : Text :=
  let place :=
    if error.source.length ≤ error.offset then
      "end of document".toList
    else
      let (line, column) := error.source.lineAndColumn error.offset
      "line ".toList ++ Text.ofInt line ++ ", column ".toList ++ Text.ofInt column
  error.fault.message ++ " (at ".toList ++ place ++ ")".toList

namespace Table

/-- Sets an entry: an old one keeps its place, a new one comes last. -/
def put (name : String) (value : Value) (table : Table) : Table :=
  if (table.lookup name).isSome then
    table.map fun entry => if entry.1 = name then (name, value) else entry
  else
    table ++ [(name, value)]

/-- Changes the table that the names lead to. A missing table on the way is made; an array of tables
stands for its last one, if arrays are to be entered; any other value on the way is a fault. -/
def update (enterArrays : Bool) (change : Table → Except Fault Table) :
    Key → Table → Except Fault Table
  | [], table => change table
  | name :: names, table =>
    match table.lookup name with
    | none => do
      return table.put name (.table (← update enterArrays change names []))
    | some (.table inner) => do
      return table.put name (.table (← update enterArrays change names inner))
    | some (.array items) =>
      match enterArrays, items.getLast? with
      | true, some (.table last) => do
        let last ← update enterArrays change names last
        return table.put name (.array (items.dropLast ++ [.table last]))
      | _, _ => .error .overwrite
    | some _ => .error .overwrite

end Table

end Indentation.Toml
