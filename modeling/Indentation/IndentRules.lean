import Indentation.Pattern

/-!
# Indentation rules

Four patterns answer the four questions about a line: whether the lines after it go one level in,
whether it goes one level out itself, whether only the next line goes in, and whether it keeps its
indentation whatever the others say. A missing pattern never matches.

## Main definitions

* `RuleTexts` — the patterns as they are written
* `IndentRules` — the patterns after reading
* `IndentRules.compile` — reads the patterns, in a fixed order
-/

namespace Indentation

/-- Indentation patterns as they are written. -/
structure RuleTexts where
  increase : Option Text := none
  decrease : Option Text := none
  indentNextLine : Option Text := none
  unindentedLine : Option Text := none
  deriving DecidableEq, Repr

/-- Indentation patterns. -/
structure IndentRules where
  increase : Option Pattern := none
  decrease : Option Pattern := none
  indentNextLine : Option Pattern := none
  unindentedLine : Option Pattern := none
  deriving Repr

namespace IndentRules

/-- Reads the patterns, `increase` first and `unindentedLine` last. The first bad one is the
error. -/
def compile (compiler : Pattern.Compiler) (texts : RuleTexts) :
    Except (Failed Pattern.Error) IndentRules := do
  let increase ← texts.increase.mapM compiler
  let decrease ← texts.decrease.mapM compiler
  let indentNextLine ← texts.indentNextLine.mapM compiler
  let unindentedLine ← texts.unindentedLine.mapM compiler
  return { increase, decrease, indentNextLine, unindentedLine }

/-- The patterns as they are written. -/
def texts (rules : IndentRules) : RuleTexts :=
  { increase := rules.increase.map (·.source)
    decrease := rules.decrease.map (·.source)
    indentNextLine := rules.indentNextLine.map (·.source)
    unindentedLine := rules.unindentedLine.map (·.source) }

variable (rules : IndentRules) (text : Text)

/-- Whether the lines after `text` go one level in. -/
def increases : Bool :=
  rules.increase.any (·.isFoundIn text)

/-- Whether `text` itself goes one level out. -/
def decreases : Bool :=
  rules.decrease.any (·.isFoundIn text)

/-- Whether `text` keeps its indentation whatever the other rules say. -/
def ignores : Bool :=
  rules.unindentedLine.any (·.isFoundIn text)

/-- Whether only the line after `text` goes one level in. -/
def indentsNextLine : Bool :=
  rules.indentNextLine.any (·.isFoundIn text)

end IndentRules

end Indentation
