import Indentation.Breakdown
import Indentation.Config.Fault
import Indentation.Language

/-!
# Changes to a language

A table of the configuration changes a language: each of its keys replaces one component, and
components without a key stay. Decoding checks the entries in a fixed order; a key that is not known
is reported only if the known ones are right. What reads patterns is given, and may break down.

## Main definitions

* `Config.Changes` — the components that a table replaces
* `Config.decodeChanges` — the changes that a table spells
* `Config.Changes.apply` — a language with some components replaced
-/

namespace Indentation.Config

open Toml (Value Table)

/-- Decoding, which may find a problem or break down. -/
abbrev Decode := Except (Failed Problem)

/-- Reports a fault in the entry `key`. -/
def problem {α : Type} (fault : Fault) (key : String) : Decode α :=
  .error (.cause ⟨fault, some key⟩)

/-- The items of an array. -/
def decodeArray (key : String) : Value → Decode (List Value)
  | .array items => .ok items
  | _ => problem (.notArray key) key

/-- A text that is not empty. -/
def nonEmptyText? : Value → Option Text
  | .text (c :: cs) => some (c :: cs)
  | _ => none

/-- The items of an array of texts that are not empty. -/
def decodeTexts (key : String) (value : Value) : Decode (List Text) := do
  let items ← decodeArray key value
  match items.mapM nonEmptyText? with
  | some texts => return texts
  | none => problem (.notStrings key) key

/-- The spellings of one side of a bracket: a text, or an array of at least one. -/
def bracketSide? : Value → Option (List Text)
  | .array [] => none
  | .array items => items.mapM nonEmptyText?
  | value => (nonEmptyText? value).map fun text => [text]

/-- A bracket pair. -/
def decodeBracketPair (key : String) : Value → Decode BracketPair
  | .array [opens, closes] =>
    match bracketSide? opens, bracketSide? closes with
    | some opens, some closes => .ok ⟨opens, closes⟩
    | _, _ => problem .badBracketSide key
  | _ => problem .badBracketPair key

/-- Bracket pairs. An empty array switches brackets off. -/
def decodeBrackets (key : String) (value : Value) : Decode (Option (List BracketPair)) := do
  let pairs ← (← decodeArray key value).mapM (decodeBracketPair key)
  return if pairs.isEmpty then none else some pairs

/-- An extension in lowercase, with a dot in front. -/
def normalExtension (text : Text) : Text :=
  let lower := lowercase text
  if lower.head? = some '.' then lower else '.' :: lower

/-- Extensions. -/
def decodeExtensions (key : String) (value : Value) : Decode (List Text) := do
  return (← decodeTexts key value).map normalExtension

/-- The delimiters of a block comment. -/
def decodeBlockComment (key : String) : Value → Decode BlockComment
  | .array [opening, closing] =>
    match nonEmptyText? opening, nonEmptyText? closing with
    | some opening, some closing => .ok ⟨opening, closing⟩
    | _, _ => problem .badBlockComment key
  | _ => problem .badBlockComment key

/-- The delimiters of block comments. -/
def decodeBlockComments (key : String) (value : Value) : Decode (List BlockComment) := do
  (← decodeArray key value).mapM (decodeBlockComment key)

/-- Quotes, each of one character. -/
def decodeQuotes (key : String) (value : Value) : Decode (List Text) := do
  let quotes ← decodeTexts key value
  if quotes.all (·.length = 1) then return quotes else problem .badQuote key

/-- A condition. -/
def decodeBoolean (key : String) : Value → Decode Bool
  | .boolean holds => .ok holds
  | _ => problem .notBoolean key

/-- A text that is not empty, in an entry of a table. -/
def textEntry? (table : Table) (name : String) : Option Text :=
  (table.lookup name).bind nonEmptyText?

/-- An embedded region. -/
def decodeEmbedding (key : String) : Value → Decode Embedding
  | .table table =>
    match textEntry? table "open", textEntry? table "close", textEntry? table "language" with
    | some opening, some closing, some language => .ok ⟨opening, closing, String.ofList language⟩
    | _, _, _ => problem .badEmbedding key
  | _ => problem .badEmbedding key

/-- Embedded regions. -/
def decodeEmbedded (key : String) (value : Value) : Decode (List Embedding) := do
  (← decodeArray key value).mapM (decodeEmbedding key)

/-- The first of some names in alphabetical order. -/
def leastName? : List String → Option String
  | [] => none
  | name :: names =>
    some (names.foldl (fun least other => if other < least then other else least) name)

/-- The first name of a table in alphabetical order that is not among the known ones. -/
def unknownName? (known : List String) (table : Table) : Option String :=
  leastName? ((table.map (·.1)).filter fun name => !known.contains name)

/-- The names of the indentation rules. -/
def ruleNames : List String :=
  ["increase", "decrease", "indent_next_line", "unindented_line"]

/-- The pattern of a rule, if the table has one. -/
def decodeRule (key : String) (table : Table) (name : String) : Decode (Option Text) :=
  match table.lookup name with
  | none => .ok none
  | some (.text pattern) => .ok (some pattern)
  | some _ => problem (.ruleNotString name) s!"{key}.{name}"

/-- Indentation rules. All patterns are checked to be texts before the first is read. -/
def decodeRules (compiler : Pattern.Compiler) (key : String) : Value → Decode IndentRules
  | .table table => do
    if let some name := unknownName? ruleNames table then
      problem (.unknownRule name) key
    let increase ← decodeRule key table "increase"
    let decrease ← decodeRule key table "decrease"
    let indentNextLine ← decodeRule key table "indent_next_line"
    let unindentedLine ← decodeRule key table "unindented_line"
    match IndentRules.compile compiler
      { increase, decrease, indentNextLine, unindentedLine } with
    | .ok rules => return rules
    | .error failed => .error (failed.map fun error => ⟨.badPattern error, some key⟩)
  | _ => problem (.notTable key) key

/-- The components of a language that a table replaces. -/
structure Changes where
  brackets : Option (Option (List BracketPair)) := none
  extensions : Option (List Text) := none
  lineComments : Option (List Text) := none
  blockComments : Option (List BlockComment) := none
  quotes : Option (List Text) := none
  regexLiterals : Option Bool := none
  embedded : Option (List Embedding) := none
  rules : Option IndentRules := none

/-- The keys of a table that changes a language. -/
def languageKeys : List String :=
  ["brackets", "extensions", "line_comments", "block_comments", "quotes", "regex_literals",
    "embedded", "indentation"]

/-- Decodes an entry, if the table has it. -/
def decodeEntry {α : Type} (key : String) (table : Table) (name : String)
    (decode : String → Value → Decode α) : Decode (Option α) :=
  match table.lookup name with
  | none => .ok none
  | some value => (decode s!"{key}.{name}" value).map some

/-- The changes that the table at `key` spells. -/
def decodeChanges (compiler : Pattern.Compiler) (key : String) (table : Table) :
    Decode Changes := do
  let brackets ← decodeEntry key table "brackets" decodeBrackets
  let extensions ← decodeEntry key table "extensions" decodeExtensions
  let lineComments ← decodeEntry key table "line_comments" decodeTexts
  let blockComments ← decodeEntry key table "block_comments" decodeBlockComments
  let quotes ← decodeEntry key table "quotes" decodeQuotes
  let regexLiterals ← decodeEntry key table "regex_literals" decodeBoolean
  let embedded ← decodeEntry key table "embedded" decodeEmbedded
  let rules ← decodeEntry key table "indentation" (decodeRules compiler)
  match unknownName? languageKeys table with
  | some name => problem (.unknownKey name) key
  | none =>
    return { brackets, extensions, lineComments, blockComments, quotes, regexLiterals, embedded,
             rules }

/-- The language with the components that are given replaced. -/
def Changes.apply (changes : Changes) (language : Language) : Language :=
  { id := language.id
    brackets := changes.brackets.getD language.brackets
    grammar :=
      { lineComments := changes.lineComments.getD language.grammar.lineComments
        blockComments := changes.blockComments.getD language.grammar.blockComments
        quotes := changes.quotes.getD language.grammar.quotes
        regexLiterals := changes.regexLiterals.getD language.grammar.regexLiterals
        embedded := changes.embedded.getD language.grammar.embedded }
    rules := changes.rules <|> language.rules
    extensions := changes.extensions.getD language.extensions }

end Indentation.Config
