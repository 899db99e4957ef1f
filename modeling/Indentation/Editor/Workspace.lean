import Indentation.Config
import Indentation.Context
import Indentation.Decisions
import Indentation.Editor.Units
import Indentation.Editor.Uri

/-!
# The workspace of an editor

An editor opens documents and asks about their lines. Lines and characters are counted from 0 here.
A document that is not open is read from its file. The configuration is read again for each command,
from the root of the workspace. What reads configurations is given.

## Main definitions

* `Editor.Workspace` — the open documents, the root and the codec
* `Editor.contextCommand` — the context of a caret or a selection
* `Editor.lineCommand` — the decisions about a line
* `Editor.Fault` — why a command fails
-/

namespace Indentation.Editor

/-- An open document. -/
structure OpenDocument where
  language : String
  text : Text
  deriving DecidableEq, Repr

/-- The open documents by their addresses with percent signs resolved, the address of the root, and
the codec for positions. -/
structure Workspace where
  documents : List (Text × OpenDocument) := []
  root : Option Text := none
  codec : Codec := Encoding.utf16.codec

namespace Workspace

/-- Closes a document, if it is open. -/
def close (uri : Text) (workspace : Workspace) : Workspace :=
  let key := percentDecode uri
  { workspace with documents := workspace.documents.filter (·.1 != key) }

/-- Opens a document, or replaces an open one. -/
def put (uri : Text) (document : OpenDocument) (workspace : Workspace) : Workspace :=
  let others := (workspace.close uri).documents
  { workspace with documents := (percentDecode uri, document) :: others }

/-- The open document with an address. -/
def find? (uri : Text) (workspace : Workspace) : Option OpenDocument :=
  workspace.documents.lookup (percentDecode uri)

/-- The directory of the root. A root that is no file stands for the current directory. -/
def rootPath (workspace : Workspace) : Path :=
  match workspace.root.map Uri.ofText with
  | some uri => if uri.scheme = Uri.fileScheme then .ofText uri.filePath else .here
  | none => .here

end Workspace

/-- A command of the editor. -/
inductive Command where
  | context
  | processLine
  deriving DecidableEq, Repr

/-- What a command expects. -/
def Command.expectation : Command → String
  | context => "indentscope.context expects uri, line, character[, end line, end character]"
  | processLine => "indentscope.processLine expects uri, line[, indentation]"

/-- Why a command fails. -/
inductive Fault where
  | badArguments (command : Command)
  | lineOutOfRange (line : Int) (count : Nat)
  | config (error : Config.Error)
  | unreadable (fault : FileFault)
  | document (fault : Document.Fault)
  | breakdown (reason : Breakdown)
  deriving DecidableEq, Repr

/-- A failure to load a configuration. -/
def Fault.ofConfig : Failed Config.Error → Fault
  | .cause error => .config error
  | .breakdown reason => .breakdown reason

/-- A failure to read a document. -/
def Fault.ofFile : Failed FileFault → Fault
  | .cause fault => .unreadable fault
  | .breakdown reason => .breakdown reason

/-- The wording of a fault. -/
def Fault.message : Fault → Text
  | badArguments command => command.expectation.toList
  | lineOutOfRange line count =>
    let last : Int := count - 1
    s!"line {line} is out of range (0-{last})".toList
  | config error => error.diagnostic.message
  | unreadable fault => fault.message.toList
  | document fault => fault.message.toList
  | breakdown reason => reason.message

/-- An argument of a command. -/
inductive Argument where
  | text (content : Text)
  | integer (number : Int)
  | missing
  deriving DecidableEq, Repr

variable (tools : Config.Tools) (files : FileSystem) (workspace : Workspace)

/-- The registry of the workspace. -/
def loadRegistry : Except Fault Registry :=
  let base := workspace.rootPath
  match files.obstacle? (base.join Config.fileName) with
  | some fault => .error (.unreadable fault)
  | none =>
    match Config.load tools files none base with
    | .error failed => .error (.ofConfig failed)
    | .ok config =>
      match Config.buildRegistry tools.compiler config (some (base.join Config.fileName)) with
      | .error failed => .error (.ofConfig failed)
      | .ok registry => .ok registry

/-- The language of a document: the one it was opened with if it is known, or the one of the
extension of its address. -/
def chooseLanguage (registry : Registry) (uri : Text) : String :=
  match (workspace.find? uri).map (·.language) |>.filter registry.contains with
  | some language => language
  | none =>
    let name := (uri.reverse.takeWhile (· != '/')).reverse
    (registry.languageForPath (.ofText name)).getD "plaintext"

/-- Reads the file of an address. An empty path leads to no file, and one that ends like that of a
directory to none either. -/
def readFile (uri : Text) : Except (Failed FileFault) (List UInt8) := do
  let path := (Uri.ofText uri).filePath
  if path.isEmpty then
    throw (.cause .notFound)
  let bytes ← files.read (.ofText path)
  if Path.namesDirectory path then
    throw (.cause .notDirectory)
  return bytes

/-- The text of a document that is open or in a file, where every line end is a line feed. -/
def readText (uri : Text) : Except Fault Text :=
  match workspace.find? uri with
  | some document => .ok document.text
  | none =>
    match readFile files uri with
    | .error failed => .error (.ofFile failed)
    | .ok bytes =>
      match Text.ofUtf8 bytes with
      | .error fault => .error (.breakdown (.encoding fault))
      | .ok text => .ok text.unifyLineEnds

/-- Refuses a line that a document has not; the others become an index. -/
def checkLine (document : Document) (line : Int) : Except Fault Nat :=
  if 0 ≤ line ∧ line < document.lineCount then .ok line.toNat
  else .error (.lineOutOfRange line document.lineCount)

/-- The column, counted from 1, of a character, which is counted in units. -/
def findColumn (codec : Codec) (text : Text) (line : Nat) (character : Int) : Except Fault Int :=
  match codec text line character with
  | .ok characters => .ok (characters + 1)
  | .error reason => .error (.breakdown reason)

/-- Passes the fault of a document on. -/
def askDocument {α : Type} (document : Document) (question : Fetch Document.Fault Document α) :
    Except Fault α :=
  match question.answer document with
  | .ok answer => .ok answer
  | .error fault => .error (.document fault)

/-- The context of a caret, or of a selection if both numbers of its end are given. -/
def findContext (uri : Text) (line character : Int) (endLine? endCharacter? : Option Int) :
    Except Fault Context := do
  let registry ← loadRegistry tools files workspace
  let text ← readText files workspace uri
  let document := Document.ofText text (chooseLanguage workspace registry uri) registry
  let start ← checkLine document line
  let range ←
    match endLine?, endCharacter? with
    | some endLine, some endCharacter => do
      let stop ← checkLine document endLine
      let column ← findColumn workspace.codec text start character
      let endColumn ← findColumn workspace.codec text stop endCharacter
      pure (Range.between (line + 1) column (endLine + 1) endColumn)
    | _, _ => do
      let column ← findColumn workspace.codec text start character
      pure (Range.caret (line + 1) column)
  askDocument document (extractContext Document.source registry range)

/-- The decisions about a line, with `indent?` as its margin if given. -/
def processLine (uri : Text) (line : Int) (indent? : Option Text) : Except Fault Decisions := do
  let registry ← loadRegistry tools files workspace
  let text ← readText files workspace uri
  let document := Document.ofText text (chooseLanguage workspace registry uri) registry
  let _ ← checkLine document line
  askDocument document (decideLine Document.source registry (line + 1) indent?)

/-- A number that may be missing. -/
def Argument.integer? : Argument → Option Int
  | integer number => some number
  | _ => none

/-- A text that may be missing. -/
def Argument.text? : Argument → Option Text
  | text content => some content
  | _ => none

/-- The command for the context of a range. -/
def contextCommand : List Argument → Except Fault Context
  | [.text uri, .integer line, .integer character] =>
    findContext tools files workspace uri line character none none
  | [.text uri, .integer line, .integer character, endLine, endCharacter] =>
    findContext tools files workspace uri line character endLine.integer? endCharacter.integer?
  | _ => .error (.badArguments .context)

/-- The command for the decisions about a line. -/
def lineCommand : List Argument → Except Fault Decisions
  | [.text uri, .integer line] => processLine tools files workspace uri line none
  | [.text uri, .integer line, indent] => processLine tools files workspace uri line indent.text?
  | _ => .error (.badArguments .processLine)

end Indentation.Editor
