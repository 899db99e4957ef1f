import Indentation.Breakdown
import Indentation.Path

/-!
# Files

What the program asks of a file system: what stands at a path. A *file tree* is a file system in
memory, seen from its current directory. Nothing is known of what lies outside it but that the
directories above exist.

No name holds a null character. The file system is not asked about a path with one: looking for a
file there finds none, and reading one breaks down.

## Main definitions

* `FileSystem` — what stands at each path
* `FileTree` — files and directories below a current directory
* `FileTree.toFileSystem` — a file tree as a file system
-/

namespace Indentation

/-- What stands at a path. -/
inductive FileEntry where
  | file (bytes : List UInt8)
  | directory
  deriving DecidableEq, Repr

/-- Why a file cannot be read. -/
inductive FileFault where
  | notFound
  | isDirectory
  | notDirectory
  /-- Links that lead round in a circle. -/
  | linkLoop
  | badDescriptor
  /-- Any other reason, in the words of the system. -/
  | other (reason : String)
  deriving DecidableEq, Repr

/-- The wording of a fault. -/
def FileFault.message : FileFault → String
  | notFound => "No such file or directory"
  | isDirectory => "Is a directory"
  | notDirectory => "Not a directory"
  | linkLoop => "Too many levels of symbolic links"
  | badDescriptor => "Bad file descriptor"
  | other reason => reason

/-- Whether a fault means that there is no file. -/
def FileFault.isAbsence : FileFault → Bool
  | other _ => false
  | _ => true

/-- What stands at each path. -/
abbrev FileSystem := Path → Except FileFault FileEntry

namespace FileSystem

variable (files : FileSystem) (path : Path)

/-- Reads a file. -/
def read : Except (Failed FileFault) (List UInt8) :=
  if path.toText.contains '\x00' then
    .error (.breakdown .nullInPath)
  else
    match files path with
    | .ok (.file bytes) => .ok bytes
    | .ok .directory => .error (.cause .isDirectory)
    | .error fault => .error (.cause fault)

/-- Reads a file if there is one at the path. -/
def read? : Option (List UInt8) :=
  (files.read path).toOption

/-- Why it cannot be told whether there is a file at the path. -/
def obstacle? : Option FileFault :=
  match files.read path with
  | .error (.cause fault) => if fault.isAbsence then none else some fault
  | _ => none

end FileSystem

/-- Files and directories, by the names that lead to them from the current directory. -/
structure FileTree where
  entries : List (List Text × FileEntry) := []
  deriving Repr

namespace FileTree

/-- Sets what stands at the end of some names. -/
def put (names : List Text) (entry : FileEntry) (tree : FileTree) : FileTree :=
  ⟨(names, entry) :: tree.entries.filter (·.1 != names)⟩

/-- Makes a directory and all directories above it. -/
def addDirectory (path : Path) (tree : FileTree) : FileTree :=
  (List.range path.names.length).foldl
    (fun tree count => tree.put (path.names.take (count + 1)) .directory) tree

/-- Writes a file and makes all directories above it. -/
def addFile (path : Path) (bytes : List UInt8) (tree : FileTree) : FileTree :=
  (tree.addDirectory path.parent).put path.names (.file bytes)

/-- What stands above the current directory: directories only. -/
def lookOutside (names : List Text) : Except FileFault FileEntry :=
  if names.all (· == ['.', '.']) then .ok .directory else .error .notFound

/-- What stands at the end of some names, from the directory that `base` leads to. -/
def look (tree : FileTree) (base : List Text) : List Text → Except FileFault FileEntry
  | [] => .ok .directory
  | name :: names =>
    if name = ['.', '.'] then
      if base = [] then lookOutside names else tree.look base.dropLast names
    else
      match tree.entries.lookup (base ++ [name]) with
      | none => .error .notFound
      | some .directory => tree.look (base ++ [name]) names
      | some (.file bytes) => if names = [] then .ok (.file bytes) else .error .notDirectory

/-- The file tree as a file system. -/
def toFileSystem (tree : FileTree) : FileSystem := fun path =>
  if path.root = [] then tree.look [] path.names else lookOutside path.names

/-- Removes a file. -/
def delete (path : Path) (tree : FileTree) : Except (Failed FileFault) FileTree := do
  let _ ← tree.toFileSystem.read path
  return ⟨tree.entries.filter (·.1 != path.names)⟩

end FileTree

end Indentation
