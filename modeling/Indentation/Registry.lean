import Indentation.Language
import Indentation.Path
import Std.Data.ExtTreeMap

/-!
# The registry of languages

A registry knows languages by their ids. Registering a language replaces the one with the same id.
Where the order of the languages shows, it is the order of their ids.

## Main definitions

* `Registry` — languages by id
* `Registry.register`, `Registry.get?` — adding and looking up a language
* `Registry.brackets?`, `Registry.grammar`, `Registry.rules?` — what is known of an id
* `Registry.languageForPath` — the language that a file's extension stands for
-/

namespace Indentation

/-- Languages by their ids. -/
structure Registry where
  languages : Std.ExtTreeMap String Language

namespace Registry

/-- The registry without languages. -/
def empty : Registry := ⟨∅⟩

/-- Adds a language, in the place of one with the same id. -/
def register (registry : Registry) (language : Language) : Registry :=
  ⟨registry.languages.insert language.id language⟩

/-- A registry of several languages. -/
def ofList (languages : List Language) : Registry :=
  languages.foldl register empty

variable (registry : Registry)

/-- The language with a given id. -/
def get? (id : String) : Option Language :=
  registry.languages[id]?

/-- Whether there is a language with a given id. -/
def contains (id : String) : Bool :=
  (registry.get? id).isSome

/-- The ids of all languages, in ascending order. -/
def ids : List String :=
  registry.languages.keys

/-- The bracket pairs of a language, if it has any. -/
def brackets? (id : String) : Option (List BracketPair) :=
  ((registry.get? id).bind (·.brackets)).filter (!·.isEmpty)

/-- The indentation rules of a language, if it has any. -/
def rules? (id : String) : Option IndentRules :=
  (registry.get? id).bind (·.rules)

/-- The lexical rules of a language; an unknown one has none. -/
def grammar (id : String) : Grammar :=
  ((registry.get? id).map (·.grammar)).getD {}

/-- The first language, by id, whose extensions hold the extension of the path in lowercase. -/
def languageForPath (path : Path) : Option String :=
  let suffix := lowercase path.suffix
  if suffix.isEmpty then
    none
  else
    registry.ids.find? fun id => (registry.get? id).any (·.extensions.contains suffix)

end Registry

end Indentation
