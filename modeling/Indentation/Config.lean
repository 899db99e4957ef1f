import Indentation.Builtin
import Indentation.Config.Changes
import Indentation.FileSystem
import Indentation.Text.Utf8
import Indentation.Toml.Document

/-!
# Configurations

A configuration is a TOML document whose tables under `languages` change the built-in languages or
add new ones. An embedded region may name a language that is defined later, so the languages of
regions are checked at the end.

What reads TOML documents and patterns is given. It may break down, and so may decoding the file.

## Main definitions

* `Config.Tools` — what reads documents and patterns
* `Config.load` — the configuration in a file; no file is the empty one
* `Config.buildRegistry` — the built-in registry with a configuration applied
-/

namespace Indentation.Config

open Toml (Value Table)

/-- The name of the file in which a configuration is looked for. -/
def fileName : Text :=
  "indentscope.toml".toList

/-- What reads TOML documents and patterns. -/
structure Tools where
  readToml : Text → Except (Failed Toml.Error) Table
  compiler : Pattern.Compiler

/-- The readers of this library, which know the characters with the given names. -/
def Tools.standard (characterNames : Pattern.CharacterNames := fun _ => none) : Tools where
  readToml := Toml.read
  compiler := Pattern.compile characterNames

/-- The configuration in the file at `path?`, or in the file with the usual name in the directory
`base`. Without such a file the configuration is empty. A file that is no text is a breakdown. -/
def load (tools : Tools) (files : FileSystem) (path? : Option Path) (base : Path) :
    Except (Failed Error) Table :=
  let path := path?.getD (base.join fileName)
  match files.read? path with
  | none => .ok []
  | some bytes =>
    match Text.ofUtf8 bytes with
    | .error fault => .error (.breakdown (.encoding fault))
    | .ok text =>
      match tools.readToml text with
      | .error failed => .error (failed.map fun error => ⟨⟨.badToml error, none⟩, some path⟩)
      | .ok table => .ok table

/-- The key of the table of a language. -/
def languageKey (id : String) : String :=
  s!"languages.{id}"

/-- Applies the table of a language. -/
def applyTable (compiler : Pattern.Compiler) (registry : Registry) (id : String) (value : Value) :
    Decode Registry :=
  match value with
  | .table table => do
    let changes ← decodeChanges compiler (languageKey id) table
    return registry.register (changes.apply ((registry.get? id).getD { id }))
  | _ => problem (.notTable (languageKey id)) (languageKey id)

/-- Checks that the embedded regions of a language name languages of the registry. -/
def checkEmbedded (registry : Registry) (id : String) : Decode Unit :=
  match (registry.grammar id).embedded.find? fun region => !registry.contains region.language with
  | none => .ok ()
  | some region => problem (.unknownEmbedded region.language) s!"{languageKey id}.embedded"

/-- The built-in registry with the tables of some languages applied. -/
def applyTables (compiler : Pattern.Compiler) (languages : Table) : Decode Registry := do
  let registry ← languages.foldlM
    (fun registry (id, value) => applyTable compiler registry id value) .builtin
  languages.forM fun (id, _) => checkEmbedded registry id
  return registry

/-- The tables of the languages in a configuration. -/
def languageTables (config : Table) : Decode Table :=
  match config.lookup "languages" with
  | none => .ok []
  | some (.table languages) => .ok languages
  | some _ => problem (.notTable "languages") "languages"

/-- The built-in registry with a configuration applied. The path is for errors only. -/
def buildRegistry (compiler : Pattern.Compiler) (config : Table) (path : Option Path) :
    Except (Failed Error) Registry :=
  match languageTables config >>= applyTables compiler with
  | .ok registry => .ok registry
  | .error failed => .error (failed.map fun problem => ⟨problem, path⟩)

end Indentation.Config
