import Indentation.Character.LetterCase
import Indentation.Text.Basic

/-!
# File paths

A path is a sequence of names, below the current directory or below the root. Writing a path down
and reading it back drops repeated separators, separators at the end and parts that stand for the
directory itself; parts that stand for the directory above are kept. Two separators in front are
kept as they are, since they may have a meaning of their own.

## Main definitions

* `Path` — a path
* `Path.ofText`, `Path.toText` — reading and writing
* `Path.namesDirectory` — whether a text spells the path of a directory only
* `Path.parent`, `Path.join` — the directory of a path and a path below it
* `Path.suffix` — the extension of the last name
-/

namespace Indentation

/-- A path: the separators in front and the names. -/
structure Path where
  root : Text
  names : List Text
  deriving DecidableEq, Repr

namespace Path

/-- The pieces of a text between separators. -/
def splitSeparators : Text → List Text
  | [] => [[]]
  | '/' :: cs => [] :: splitSeparators cs
  | c :: cs =>
    match splitSeparators cs with
    | [] => [[c]]
    | piece :: pieces => (c :: piece) :: pieces

/-- The path that a text spells. -/
def ofText (text : Text) : Path :=
  let slashes := (text.takeWhile (· == '/')).length
  { root := if slashes == 2 then ['/', '/'] else if slashes == 0 then [] else ['/']
    names := (splitSeparators text).filter fun name => !name.isEmpty && name != ['.'] }

/-- Whether a text can spell the path of a directory only: it ends in a separator, or in a part that
stands for the directory itself. -/
def namesDirectory (text : Text) : Bool :=
  (splitSeparators text).getLast?.any fun name => name.isEmpty || name == ['.']

/-- The text of a path; the current directory is a dot. -/
def toText (path : Path) : Text :=
  match path.root ++ List.intercalate ['/'] path.names with
  | [] => ['.']
  | text => text

/-- The current directory. -/
def here : Path := ⟨[], []⟩

/-- The directory that holds the last name. A path without names is its own parent. -/
def parent (path : Path) : Path :=
  { path with names := path.names.dropLast }

/-- The path of a name in the directory `path`. -/
def join (path : Path) (name : Text) : Path :=
  { path with names := path.names ++ [name] }

/-- The extension of a name, from its last dot on. A dot at either end of the name does not begin
an extension. -/
def extension (name : Text) : Text :=
  let tail := name.reverse.takeWhile (· != '.')
  if tail.isEmpty || name.length ≤ tail.length + 1 then [] else '.' :: tail.reverse

/-- The extension of the last name of a path. -/
def suffix (path : Path) : Text :=
  extension (path.names.getLast?.getD [])

end Path

end Indentation
