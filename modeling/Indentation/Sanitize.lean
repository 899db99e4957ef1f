import Indentation.LineSource
import Indentation.Registry
import Indentation.Text.Margin

/-!
# Lines without literal brackets

Indentation patterns look at brackets, so brackets in strings, comments and regular expressions must
not be seen. Sanitizing a line erases the brackets of its language from these tokens and keeps the
others as they are. The language is that of the first token; if it has no brackets, the line stays
as it is.

## Main definitions

* `BracketPair.spellings` — all spellings of some brackets, in the order they are erased
* `Text.stripSpellings` — a text without the spellings
* `Registry.sanitize` — a line without literal brackets
* `sanitizeLine` — the same for a line of a source, with another margin if one is given
-/

namespace Indentation

/-- The spellings of all opening brackets and then of all closing ones, without empty ones. -/
def BracketPair.spellings (pairs : List BracketPair) : List Text :=
  (pairs.flatMap (·.opens) ++ pairs.flatMap (·.closes)).filter (!·.isEmpty)

/-- The text after erasing one spelling after the other. -/
def Text.stripSpellings (spellings : List Text) (text : Text) : Text :=
  spellings.foldl (fun text spelling => Text.eraseAll spelling text) text

/-- What is kept of a token: the text of a literal without the spellings, other text as it is. -/
def Label.keep (spellings : List Text) (label : Label) (text : Text) : Text :=
  if label.kind.isLiteral then text.stripSpellings spellings else text

/-- The line without the brackets of its first token's language in its literals. -/
def Registry.sanitize (registry : Registry) (line : TokenizedLine) : Text :=
  match registry.brackets? line.first.language with
  | none => line.text
  | some pairs =>
    let spellings := BracketPair.spellings pairs
    line.pieces.flatMap fun (label, text) => label.keep spellings text

/-- A line of a source without literal brackets, and with `indent?` as its margin if given. -/
def sanitizeLine {ε σ : Type} (source : LineSource ε σ) (registry : Registry) (line : Int)
    (indent? : Option Text) : Fetch ε σ Text := do
  return (registry.sanitize (← source.tokens line)).reindent? indent?

end Indentation
