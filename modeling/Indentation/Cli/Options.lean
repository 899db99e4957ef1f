import Indentation.Character.Numeral
import Indentation.Text.Integer
import Indentation.Text.Quoted

/-!
# Command-line options

The command line names an input file and options. A word that begins with a dash is an option: in
full, as an unambiguous beginning of a long spelling, or as a short spelling with something attached
to it. A value follows its option as the next word or behind an equals sign. Negative numbers, words
with a space and all words behind two dashes are no options.

The words are first told apart, which finds ambiguous spellings, and then taken from left to right.

## Main definitions

* `Cli.OptionName` — the options
* `Cli.Word` — a word of the command line, told apart
* `Cli.Arguments` — what a command line says
* `Cli.readArguments` — reads a command line
* `Cli.UsageFault` — why a command line is refused
-/

namespace Indentation.Cli

/-- The options of the command line. -/
inductive OptionName where
  | help
  | line
  | column
  | endLine
  | endColumn
  | indent
  | language
  | config
  | json
  | debug
  deriving DecidableEq, Repr

namespace OptionName

/-- All options, in the order in which they are listed. -/
def all : List OptionName :=
  [help, line, column, endLine, endColumn, indent, language, config, json, debug]

/-- The spellings of an option. -/
def spellings : OptionName → List String
  | help => ["-h", "--help"]
  | line => ["-l", "--line"]
  | column => ["-c", "--column"]
  | endLine => ["--end-line"]
  | endColumn => ["--end-column"]
  | indent => ["--indent"]
  | language => ["--language"]
  | config => ["--config"]
  | json => ["--json"]
  | debug => ["--debug"]

/-- Whether an option takes a value. -/
def takesValue : OptionName → Bool
  | help | json | debug => false
  | _ => true

/-- The name of an option in messages. -/
def title (name : OptionName) : String :=
  "/".intercalate name.spellings

end OptionName

/-- Every spelling with its option, in the order of the options. -/
def spellingTable : List (Text × OptionName) :=
  OptionName.all.flatMap fun name => name.spellings.map fun spelling => (spelling.toList, name)

/-- Why a command line is refused. -/
inductive UsageFault where
  | ambiguous (word : Text) (spellings : List Text)
  | missingValue (name : OptionName)
  | badInteger (name : OptionName) (value : Text)
  | ignoredValue (name : OptionName) (value : Text)
  | required (names : List String)
  | unrecognized (words : List Text)
  deriving DecidableEq, Repr

/-- The wording of a refusal. -/
def UsageFault.message : UsageFault → Text
  | ambiguous word spellings =>
    "ambiguous option: ".toList ++ word ++ " could match ".toList
      ++ List.intercalate ", ".toList spellings
  | missingValue name => s!"argument {name.title}: expected one argument".toList
  | badInteger name value => s!"argument {name.title}: invalid int value: ".toList ++ value.quoted
  | ignoredValue name value =>
    s!"argument {name.title}: ignored explicit argument ".toList ++ value.quoted
  | required names =>
    "the following arguments are required: ".toList ++ (", ".intercalate names).toList
  | unrecognized words => "unrecognized arguments: ".toList ++ List.intercalate [' '] words

/-! ### Words -/

/-- A word of the command line, told apart. -/
inductive Word where
  | plain (text : Text)
  /-- An option, in the spelling it stands for, and what is attached to it. -/
  | known (name : OptionName) (spelling : Text) (attached : Option Text)
  | unknown (text : Text)
  /-- Two dashes, behind which no option stands. -/
  | separator
  deriving DecidableEq, Repr

/-- The parts of a word before and behind its first equals sign, if it has one. -/
def splitEquals (word : Text) : Text × Option Text :=
  match word.dropWhile (· != '=') with
  | [] => (word, none)
  | _ :: value => (word.takeWhile (· != '='), some value)

/-- What a word can stand for if it is no full spelling: the long spellings that begin with it, or a
short spelling with the rest attached. -/
def candidates (word : Text) : List (Text × OptionName × Option Text) :=
  if ['-', '-'].isPrefixOf word then
    let (beginning, attached) := splitEquals word
    (spellingTable.filter fun (spelling, _) => beginning.isPrefixOf spelling).map
      fun (spelling, name) => (spelling, name, attached)
  else
    spellingTable.filterMap fun (spelling, name) =>
      if spelling = word.take 2 then some (spelling, name, some (word.drop 2))
      else if word.isPrefixOf spelling then some (spelling, name, none)
      else none

/-- A negative number: a dash and digits, with or without a point among them. A line feed may end
it. -/
def isNegativeNumber (word : Text) : Bool :=
  let word := if word.getLast? = some '\n' then word.dropLast else word
  match word with
  | '-' :: number =>
    let whole := number.takeWhile Character.isDecimal
    match number.drop whole.length with
    | [] => !whole.isEmpty
    | '.' :: fraction => !fraction.isEmpty && fraction.all Character.isDecimal
    | _ => false
  | _ => false

/-- Tells a word in front of the separator apart. -/
def Word.ofText (text : Text) : Except UsageFault Word :=
  if text.head? ≠ some '-' then
    .ok (.plain text)
  else if let some name := spellingTable.lookup text then
    .ok (.known name text none)
  else if text.length = 1 then
    .ok (.plain text)
  else
    let (beginning, attached) := splitEquals text
    match attached.bind fun _ => spellingTable.lookup beginning with
    | some name => .ok (.known name beginning attached)
    | none =>
      match candidates text with
      | [(spelling, name, attached)] => .ok (.known name spelling attached)
      | [] =>
        .ok (if isNegativeNumber text || text.contains ' ' then .plain text else .unknown text)
      | several => .error (.ambiguous text (several.map (·.1)))

/-- Tells the words of a command line apart. -/
def Word.ofTexts : List Text → Except UsageFault (List Word)
  | [] => .ok []
  | text :: texts =>
    if text = ['-', '-'] then
      .ok (.separator :: texts.map .plain)
    else do
      let word ← Word.ofText text
      return word :: (← ofTexts texts)

/-- The text of a word. -/
def Word.text : Word → Text
  | plain text | unknown text => text
  | known _ spelling attached => spelling ++ attached.getD []
  | separator => ['-', '-']

/-! ### Arguments -/

/-- What a command line says. -/
structure Arguments where
  input : Option Text := none
  line : Option Int := none
  column : Option Int := none
  endLine : Option Int := none
  endColumn : Option Int := none
  indent : Option Text := none
  language : Option Text := none
  config : Option Text := none
  json : Bool := false
  debug : Bool := false
  /-- The words that no argument takes. -/
  extras : List Text := []
  deriving DecidableEq, Repr

/-- Why reading a command line stops early: the help is asked for, or it is refused. -/
inductive Stop where
  | help
  | refused (fault : UsageFault)
  deriving DecidableEq, Repr

/-- The integer value of an option. -/
def readInteger (name : OptionName) (value : Text) : Except Stop Int :=
  match Text.toInt? value with
  | some number => .ok number
  | none => .error (.refused (.badInteger name value))

/-- Takes an option with its value. Two dashes as a value count as none. -/
def Arguments.set (arguments : Arguments) (name : OptionName) (value : Text) :
    Except Stop Arguments :=
  let value? := if value = ['-', '-'] then none else some value
  let integer? := value?.mapM (readInteger name)
  match name with
  | .help => .error .help
  | .line => integer?.map fun line => { arguments with line }
  | .column => integer?.map fun column => { arguments with column }
  | .endLine => integer?.map fun endLine => { arguments with endLine }
  | .endColumn => integer?.map fun endColumn => { arguments with endColumn }
  | .indent => .ok { arguments with indent := value? }
  | .language => .ok { arguments with language := value? }
  | .config => .ok { arguments with config := value? }
  | .json => .ok { arguments with json := true }
  | .debug => .ok { arguments with debug := true }

/-- Options with their values. -/
abbrev Settings := List (OptionName × Text)

/-- The options that a word stands for, with their values, and the words behind them. A short
spelling without a value may have other short spellings attached to it. The options found so far are
in `before`. -/
def takeOption (before : Settings) (name : OptionName) (isShort : Bool) :
    (attached : Option Text) → List Word → Nat → Except Stop (Settings × List Word)
  | _, words, 0 => .ok (before, words)
  | none, words, _ + 1 =>
    if name.takesValue then
      match words with
      | .plain value :: words => .ok (before ++ [(name, value)], words)
      | _ => .error (.refused (.missingValue name))
    else
      .ok (before ++ [(name, [])], words)
  | some attached, words, fuel + 1 =>
    if name.takesValue then
      .ok (before ++ [(name, attached)], words)
    else
      match isShort, attached with
      | true, c :: rest =>
        match spellingTable.lookup ['-', c] with
        | some next =>
          takeOption (before ++ [(name, [])]) next true (if rest = [] then none else some rest)
            words fuel
        | none => .error (.refused (.ignoredValue name attached))
      | _, _ => .error (.refused (.ignoredValue name attached))

/-- Whether a word is an option. -/
def Word.isOption : Word → Bool
  | known .. | unknown _ => true
  | plain _ | separator => false

/-- Takes the words behind the last option. The first plain word is the input if there is none yet,
and a separator next to it is dropped. -/
def takeLast (arguments : Arguments) (words : List Word) : Arguments :=
  let extras := fun words : List Word => arguments.extras ++ words.map Word.text
  match arguments.input, words with
  | none, .plain input :: .separator :: words | none, .separator :: .plain input :: words
  | none, .plain input :: words => { arguments with input := some input, extras := extras words }
  | _, words => { arguments with extras := extras words }

/-- Takes the words of a command line from left to right. -/
def takeWords (arguments : Arguments) : List Word → Nat → Except Stop Arguments
  | _, 0 => .ok arguments
  | words, fuel + 1 =>
    if !words.any Word.isOption then
      .ok (takeLast arguments words)
    else
      match words with
      | [] => .ok arguments
      | .known name spelling attached :: words => do
        let isShort := !(spelling.take 2 == ['-', '-'])
        let (settings, words) ←
          takeOption [] name isShort attached words (attached.getD []).length.succ
        let arguments ← settings.foldlM (fun arguments (name, value) => arguments.set name value)
          arguments
        takeWords arguments words fuel
      | word :: words =>
        match word, arguments.input with
        | .plain input, none => takeWords { arguments with input := some input } words fuel
        | _, _ => takeWords { arguments with extras := arguments.extras ++ [word.text] } words fuel

/-- Reads a command line. An input and a line have to be named. -/
def readArguments (argv : List Text) : Except Stop Arguments := do
  let words ←
    match Word.ofTexts argv with
    | .ok words => pure words
    | .error fault => throw (.refused fault)
  let arguments ← takeWords {} words (words.length + 1)
  let missing :=
    (if arguments.input.isNone then ["input"] else [])
      ++ (if arguments.line.isNone then [OptionName.line.title] else [])
  if !missing.isEmpty then
    throw (.refused (.required missing))
  if !arguments.extras.isEmpty then
    throw (.refused (.unrecognized arguments.extras))
  return arguments

end Indentation.Cli
