import Indentation.Cli.Help
import Indentation.Cli.Indent
import Indentation.Cli.Options
import Indentation.Config
import Indentation.Context
import Indentation.Decisions
import Indentation.Report

/-!
# The command line

The command line asks about one line of a file: what the indentation rules decide about it, and the
context of a caret or a selection that starts on it. The languages come from the built-in ones and a
configuration file, by default the one beside the input.

The program is a function of the file system and the words of the command line. It looks at two
paths only, that of the configuration and that of the input. What reads configurations is given; if
it breaks down, so does the program.

## Main definitions

* `Cli.Request` — a command line that has been accepted
* `Cli.Failure` — why no report is made
* `Cli.selectRange` — the caret or selection that a request asks about
* `Cli.buildReport` — the report on a line
* `Cli.run` — the whole program
-/

namespace Indentation.Cli

/-- A command line that has been accepted: its arguments, with the input and the line. -/
structure Request where
  arguments : Arguments
  input : Text
  line : Int
  deriving DecidableEq, Repr

/-- Reads a command line as a request. -/
def readRequest (argv : List Text) : Except Stop Request := do
  let arguments ← readArguments argv
  match arguments.input, arguments.line with
  | some input, some line => return { arguments, input, line }
  | none, _ => throw (.refused (.required ["input"]))
  | _, none => throw (.refused (.required [OptionName.line.title]))

namespace Request

variable (request : Request)

/-- The path of the input. -/
def inputPath : Path :=
  .ofText request.input

/-- The configuration file that is asked for. An empty name asks for none. -/
def configPath? : Option Path :=
  (request.arguments.config.filter (!·.isEmpty)).map .ofText

/-- The configuration file: the one asked for, or the one beside the input. -/
def configPath : Path :=
  request.configPath?.getD (request.inputPath.parent.join Config.fileName)

end Request

/-- Why no report is made. -/
inductive Failure where
  | config (error : Config.Error)
  | unknownLanguage (id : Text)
  | indent (fault : IndentFault)
  | lineOutOfRange (fault : Document.Fault)
  | reversed
  | unreadable (fault : FileFault)
  | breakdown (reason : Breakdown)
  deriving DecidableEq, Repr

/-- A failure to load a configuration. -/
def Failure.ofConfig : Failed Config.Error → Failure
  | .cause error => .config error
  | .breakdown reason => .breakdown reason

/-- A failure to read the input. -/
def Failure.ofFile : Failed FileFault → Failure
  | .cause fault => .unreadable fault
  | .breakdown reason => .breakdown reason

variable (tools : Config.Tools)

/-- The registry for a request. -/
def loadRegistry (files : FileSystem) (request : Request) : Except Failure Registry :=
  match files.obstacle? request.configPath with
  | some fault => .error (.unreadable fault)
  | none =>
    match Config.load tools files request.configPath? request.inputPath.parent with
    | .error failed => .error (.ofConfig failed)
    | .ok config =>
      match Config.buildRegistry tools.compiler config (some request.configPath) with
      | .error failed => .error (.ofConfig failed)
      | .ok registry => .ok registry

/-- The language of the input: the one asked for, or the one of its extension. -/
def chooseLanguage (registry : Registry) (request : Request) : Except Failure String :=
  match request.arguments.language with
  | some id =>
    if registry.contains (String.ofList id) then .ok (String.ofList id)
    else .error (.unknownLanguage id)
  | none => .ok ((registry.languageForPath request.inputPath).getD "plaintext")

/-- The indentation that the line is to have, if one is given. -/
def chooseIndent (request : Request) : Except Failure (Option Text) :=
  match request.arguments.indent with
  | none => .ok none
  | some text =>
    match readIndent text with
    | .ok indent => .ok (some indent)
    | .error fault => .error (.indent fault)

/-- The text of the input, with every line end as a line feed. -/
def readInput (files : FileSystem) (request : Request) : Except Failure Text :=
  match files.read request.inputPath with
  | .error failed => .error (.ofFile failed)
  | .ok bytes =>
    match Text.ofUtf8 bytes with
    | .error fault => .error (.breakdown (.encoding fault))
    | .ok text => .ok text.unifyLineEnds

/-- Passes a fault about a line on. -/
def checkLine {α : Type} : Except Document.Fault α → Except Failure α
  | .ok result => .ok result
  | .error fault => .error (.lineOutOfRange fault)

/-- The caret or selection that a request asks about. It is a caret if no end is given. A missing
column is the one behind the last character, a missing end line the line itself. -/
def selectRange (document : Document) (request : Request) : Except Failure Range := do
  let arguments := request.arguments
  let line := request.line
  let endLine := arguments.endLine.getD line
  let maxColumn ← checkLine (document.maxColumn line)
  let maxEndColumn ← checkLine (document.maxColumn endLine)
  if endLine < line then
    throw .reversed
  let column := arguments.column.getD maxColumn
  if arguments.endLine.isNone && arguments.endColumn.isNone then
    return .caret line column
  else
    let endColumn := arguments.endColumn.getD maxEndColumn
    if endLine = line ∧ endColumn < column then
      throw .reversed
    return .between line column endLine endColumn

/-- A report, with the listing of the tokens and the scope that it rests on. -/
structure Answer where
  report : Report
  listing : Text
  deriving DecidableEq, Repr

/-- Asks a document about a line and a range. -/
def askDocument (registry : Registry) (line : Int) (indent? : Option Text) (range : Range) :
    Fetch Document.Fault Document Answer := do
  let decisions ← decideLine Document.source registry line indent?
  let context ← extractContext Document.source registry range
  let tokens ← Document.tokens line
  let text ← (← get).content line
  return {
    report :=
      { line
        text
        sanitized := decisions.text
        increase := decisions.increase
        decrease := decisions.decrease
        ignore := decisions.ignore
        indentNextLine := decisions.indentNextLine
        before := context.before
        after := context.after
        previousLine := context.previousLine }
    listing := tokens.listing line ++ (tokens.scopeAt (range.start.column - 1)).listing }

/-- The answer to a request. -/
def buildReport (files : FileSystem) (request : Request) : Except Failure Answer := do
  let registry ← loadRegistry tools files request
  let language ← chooseLanguage registry request
  let indent? ← chooseIndent request
  let text ← readInput files request
  let document := Document.ofText text language registry
  let range ← selectRange document request
  checkLine ((askDocument registry request.line indent? range).answer document)

/-! ### The program -/

/-- How the program ends. -/
inductive Exit where
  | returned (code : Nat)
  /-- The command line was not taken as a request. -/
  | stopped (code : Nat)
  /-- A breakdown is not reported but breaks the program off. -/
  | broken (reason : Breakdown)
  deriving DecidableEq, Repr

/-- What the program leaves behind: how it ended and what it wrote. -/
structure Outcome where
  exit : Exit
  output : Text := []
  errors : Text := []
  deriving DecidableEq, Repr

/-- The outcome of a command line that is not taken as a request. -/
def Stop.outcome : Stop → Outcome
  | .help => { exit := .stopped 0, output := helpText.toList }
  | .refused fault =>
    { exit := .stopped 2
      errors := usageText.toList ++ "indentscope: error: ".toList ++ fault.message ++ ['\n'] }

/-- The outcome of a request that fails. -/
def Failure.outcome (input : Text) : Failure → Outcome
  | .config error =>
    { exit := .returned 1, errors := error.diagnostic.format ++ ['\n'] }
  | .unknownLanguage id =>
    refuse ("unknown language '".toList ++ id ++ ['\x27'])
  | .indent fault => refuse fault.message
  | .lineOutOfRange fault => refuse fault.message.toList
  | .reversed => refuse "selection end is before its start".toList
  | .unreadable fault =>
    refuse ("cannot read ".toList ++ input ++ ": ".toList ++ fault.message.toList)
  | .breakdown reason => { exit := .broken reason }
where
  refuse (message : Text) : Outcome :=
    { exit := .returned 2, errors := formatUsage message ++ ['\n'] }

/-- The outcome of a request that is answered. The listing is written before the report is. -/
def Answer.outcome (arguments : Arguments) (answer : Answer) : Outcome :=
  let errors := if arguments.debug then answer.listing else []
  match if arguments.json then answer.report.toJson else answer.report.toText with
  | .ok output => { exit := .returned 0, output, errors }
  | .error reason => { exit := .broken reason, errors }

/-- The program: from the files and the words of the command line to what it leaves behind. -/
def run (files : FileSystem) (argv : List Text) : Outcome :=
  match readRequest argv with
  | .error stop => stop.outcome
  | .ok request =>
    match buildReport tools files request with
    | .error failure => failure.outcome request.input
    | .ok answer => answer.outcome request.arguments

end Indentation.Cli
