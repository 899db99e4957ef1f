import Indentation.Text.Basic

/-!
# The state between two lines

Lines are cut into tokens one at a time. What a line leaves open is carried to the next one: the
embedded regions, one inside the other, and the block comment.

## Main definitions

* `Region` — an open region of an embedded language
* `LineState` — the language of the document, the open regions and the open comment
-/

namespace Indentation

/-- An open region of an embedded language and the delimiter that closes it. -/
structure Region where
  language : String
  close : Text
  deriving DecidableEq, Repr

/-- What is open between two lines. The innermost region comes first. An open comment is given by
the delimiter that closes it. -/
structure LineState where
  document : String
  regions : List Region := []
  commentClose : Option Text := none
  deriving DecidableEq, Repr

namespace LineState

/-- The state before the first line of a document. -/
def initial (language : String) : LineState :=
  { document := language }

variable (state : LineState)

/-- The language of the text that follows. -/
def language : String :=
  (state.regions.head?.map (·.language)).getD state.document

/-- The delimiter that closes the innermost region. -/
def close? : Option Text :=
  state.regions.head?.map (·.close)

/-- The delimiter that closes the innermost region, or the empty text, which stands nowhere. -/
def close : Text :=
  state.close?.getD []

/-- The state after the comment has ended. -/
def endComment : LineState :=
  { state with commentClose := none }

end LineState

end Indentation
