import Indentation.Text.Margin
import Indentation.Text.Quoted

/-!
# Indentation given on the command line

An indentation is written with spaces, tabs and the two characters backslash and t, which stand for
a tab.

## Main definitions

* `Cli.readIndent` — the indentation that a text spells
-/

namespace Indentation.Cli

/-- The text with a tab for each backslash that is followed by the letter t. -/
def expandTabs : Text → Text
  | [] => []
  | '\\' :: 't' :: cs => '\t' :: expandTabs cs
  | c :: cs => c :: expandTabs cs

/-- A text that spells no indentation. -/
structure IndentFault where
  text : Text
  deriving DecidableEq, Repr

/-- The wording of a fault. -/
def IndentFault.message (fault : IndentFault) : Text :=
  "invalid indentation (expected spaces or tabs): ".toList ++ fault.text.quoted

/-- The indentation that a text spells. -/
def readIndent (text : Text) : Except IndentFault Text :=
  let indent := expandTabs text
  if indent.all isMarginChar then .ok indent else .error ⟨text⟩

end Indentation.Cli
