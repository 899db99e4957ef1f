import Indentation.IndentRules

/-!
# Languages

What is known of a language: its brackets, the lexical rules by which its lines are cut into tokens,
its indentation rules and the extensions of its files. Delimiters and spellings are arbitrary texts,
the empty one included.

## Main definitions

* `BracketPair` — the spellings of an opening and of a closing bracket
* `Grammar` — comments, quotes, regular expressions and embedded regions
* `Language` — everything known of one language
-/

namespace Indentation

/-- An opening and a closing bracket, each with one or more spellings. -/
structure BracketPair where
  opens : List Text
  closes : List Text
  deriving DecidableEq, Repr

/-- The delimiters of a block comment. -/
structure BlockComment where
  opening : Text
  closing : Text
  deriving DecidableEq, Repr

/-- A region of another language between two delimiters. -/
structure Embedding where
  opening : Text
  closing : Text
  language : String
  deriving DecidableEq, Repr

/-- The lexical rules of a language. Only a quote of one character can open a string. -/
structure Grammar where
  lineComments : List Text := []
  blockComments : List BlockComment := []
  quotes : List Text := []
  regexLiterals : Bool := false
  embedded : List Embedding := []
  deriving DecidableEq, Repr

/-- A language. Without brackets its lines are taken as they are. -/
structure Language where
  id : String
  brackets : Option (List BracketPair) := none
  grammar : Grammar := {}
  rules : Option IndentRules := none
  extensions : List Text := []
  deriving Repr

end Indentation
