import Indentation.Pattern.Match
import Indentation.Pattern.Reader

/-!
# Patterns

A pattern is a regular expression that is looked for anywhere in a line. It is kept with the text it
was read from.

## Main definitions

* `Pattern` — a pattern that has been read
* `Pattern.compile` — reads a pattern
* `Pattern.isFoundIn` — whether a text holds a match
-/

namespace Indentation

/-- A pattern, with the text it was read from. -/
structure Pattern where
  source : Text
  node : Pattern.Node
  modes : Pattern.Modes
  deriving Repr

namespace Pattern

/-- What reads patterns. -/
abbrev Compiler := Text → Except (Failed Error) Pattern

/-- Reads a pattern, in which characters may be given by their names. -/
def compile (characterNames : CharacterNames) : Compiler := fun source => do
  let (node, flags) ← read characterNames source
  return ⟨source, node, .ofFlags flags⟩

/-- Whether the pattern matches somewhere in the text. -/
def isFoundIn (pattern : Pattern) (text : Text) : Bool :=
  pattern.node.isFoundIn pattern.modes text

end Pattern

end Indentation
