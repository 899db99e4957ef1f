import Indentation.Text.Basic

/-!
# Tokens

A token is a run of a line that carries a *label*: what kind of text it is, and in which language.
It is given by the offset where it starts and ends where the next one starts, the last one at the
end of the line.

## Main definitions

* `TokenKind` — plain text, comment, string or regular expression
* `TokenKind.isLiteral` — whether brackets inside such a token are data rather than structure
* `Label` — a kind and a language
* `Token` — a label with the offset where it starts
-/

namespace Indentation

/-- What kind of text a token holds. -/
inductive TokenKind where
  | other
  | comment
  | string
  | regex
  deriving DecidableEq, Repr, Inhabited

namespace TokenKind

/-- Comments, strings and regular expressions, whose text is data rather than structure. -/
def isLiteral : TokenKind → Bool
  | other => false
  | comment | string | regex => true

/-- The name of a kind in listings. -/
def name : TokenKind → String
  | other => "OTHER"
  | comment => "COMMENT"
  | string => "STRING"
  | regex => "REGEX"

/-- The number of a kind in listings. -/
def number : TokenKind → Nat
  | other => 1
  | comment => 2
  | string => 3
  | regex => 4

/-- The kind of a given name. -/
def ofName? (name : String) : Option TokenKind :=
  [other, comment, string, regex].find? (·.name == name)

end TokenKind

/-- What a token says of its characters: their kind and the id of their language. -/
structure Label where
  kind : TokenKind
  language : String
  deriving DecidableEq, Repr

/-- A label that holds from the offset `start` on. -/
structure Token extends Label where
  start : Nat
  deriving DecidableEq, Repr

end Indentation
