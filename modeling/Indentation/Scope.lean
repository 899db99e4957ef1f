import Indentation.TokenizedLine

/-!
# Language scopes

A line may hold text of several languages. The *scope* at an offset is the run of neighbouring
tokens around it that share its language: it grows to the left and to the right for as long as the
tokens carry the same language. A scope is a span of tokens and a span of characters, both given by
their first element and the one after their last.

## Main definitions

* `Scope` — a run of tokens of one language in a line
* `TokenizedLine.scopeAt` — the scope at an offset
* `Scope.offsetWithin` — an offset of the line counted from the start of the scope
* `Scope.sliceLine` — the part of a line that stands in the character span of the scope
-/

namespace Indentation

/-- A run of tokens of one language, as a span of tokens and a span of characters of its line. -/
structure Scope where
  line : TokenizedLine
  language : String
  firstToken : Nat
  stopToken : Nat
  firstChar : Nat
  stopChar : Nat
  deriving DecidableEq, Repr

/-- The scope of the token at `offset`. -/
def TokenizedLine.scopeAt (line : TokenizedLine) (offset : Int) : Scope :=
  let index := line.find offset
  let language := (line.labelAt index).language
  let before := (line.tokens.take index).reverse.takeWhile (·.language = language)
  let after := (line.tokens.drop (index + 1)).takeWhile (·.language = language)
  let firstToken := index - before.length
  let stopToken := index + 1 + after.length
  { line, language, firstToken, stopToken
    firstChar := line.startAt firstToken
    stopChar := line.startAt stopToken }

namespace Scope

variable (scope : Scope)

/-- The number of characters between the first and the last one. It is negative if the tokens start
past the end of the text. -/
def length : Int :=
  (scope.stopChar : Int) - scope.firstChar

/-- Whether the scope opens at the first character of its line. -/
def startsLine : Bool :=
  scope.firstChar == 0

/-- The characters of the scope. -/
def text : Text :=
  scope.line.text.slice scope.firstChar scope.stopChar

/-- An offset of the line, counted from the start of the scope and moved into it. -/
def offsetWithin (offset : Int) : Int :=
  min (max (offset - scope.firstChar) 0) scope.length

/-- The part of `line` between two offsets that count from the start of the scope and are moved
into it; `stop?` is the end of the scope unless given. The line need not be the one of the scope. -/
def sliceLine (line : TokenizedLine) (start : Int := 0) (stop? : Option Int := none) :
    TokenizedLine :=
  let start := min (max start 0) scope.length
  let stop := min (max (stop?.getD scope.length) start) scope.length
  line.slice (scope.firstChar + start) (scope.firstChar + stop)

end Scope

end Indentation
