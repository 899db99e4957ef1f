import Indentation.Builtin
import Indentation.Document
import Indentation.Sanitize

/-!
# Decisions about a line

A line without literal brackets is put to the indentation rules of the language of its first token.
The line may be given another margin first.

## Main definitions

* `Question` — one of the four questions
* `askLine` — the answer of given rules to a question about a line of a source
* `Decisions` — the text of a line and the answers to the four questions
* `decideLine` — the decisions about a line of a source
* `decideText` — the decisions about a line of a text
-/

namespace Indentation

/-- A question about a line. -/
inductive Question where
  | increase
  | decrease
  | ignore
  | indentNextLine
  deriving DecidableEq, Repr

/-- The answer of the rules to a question about a text. -/
def IndentRules.answer (rules : IndentRules) (text : Text) : Question → Bool
  | .increase => rules.increases text
  | .decrease => rules.decreases text
  | .ignore => rules.ignores text
  | .indentNextLine => rules.indentsNextLine text

/-- The answer of given rules to a question about a line of a source, with `indent?` as its margin
if given. -/
def askLine {ε σ : Type} (source : LineSource ε σ) (registry : Registry) (rules : IndentRules)
    (question : Question) (line : Int) (indent? : Option Text) : Fetch ε σ Bool := do
  return rules.answer (← sanitizeLine source registry line indent?) question

/-- The text that was put to the rules, and their four answers. -/
structure Decisions where
  text : Text
  increase : Bool
  decrease : Bool
  ignore : Bool
  indentNextLine : Bool
  deriving DecidableEq, Repr

/-- The answers of the rules for a text. -/
def IndentRules.decide (rules : IndentRules) (text : Text) : Decisions :=
  { text
    increase := rules.answer text .increase
    decrease := rules.answer text .decrease
    ignore := rules.answer text .ignore
    indentNextLine := rules.answer text .indentNextLine }

/-- The decisions about a line of a source, with `indent?` as its margin if given. A language
without rules answers no to everything. -/
def decideLine {ε σ : Type} (source : LineSource ε σ) (registry : Registry) (line : Int)
    (indent? : Option Text) : Fetch ε σ Decisions := do
  let tokens ← source.demand line
  let rules := (registry.rules? tokens.first.language).getD {}
  return rules.decide (← sanitizeLine source registry line indent?)

/-- The decisions about a line of a text. -/
def decideText (text : Text) (line : Int) (language : String) (registry : Registry)
    (indent? : Option Text) : Except Document.Fault Decisions :=
  (decideLine Document.source registry line indent?).answer (Document.ofText text language registry)

end Indentation
