import Indentation.Diagnostic
import Indentation.Pattern.Fault
import Indentation.Toml.Value

/-!
# Faults in configurations

What can be wrong with a configuration, and in which entry.

## Main definitions

* `Config.Fault` — what is wrong
* `Config.Problem` — a fault with the key of its entry
* `Config.Error` — a problem with the file it stands in
* `Config.Error.diagnostic` — the wording of an error, with its place
-/

namespace Indentation.Config

/-- What is wrong with a configuration. -/
inductive Fault where
  | badToml (error : Toml.Error)
  | notTable (key : String)
  | notArray (key : String)
  | notStrings (key : String)
  | badBracketPair
  | badBracketSide
  | badBlockComment
  | badQuote
  | notBoolean
  | badEmbedding
  | unknownKey (name : String)
  | unknownRule (name : String)
  | ruleNotString (name : String)
  | badPattern (error : Pattern.Error)
  | unknownEmbedded (language : String)
  deriving DecidableEq, Repr

/-- The wording of a fault. -/
def Fault.message : Fault → Text
  | badToml error => "invalid TOML: ".toList ++ error.message
  | notTable key => s!"'{key}' must be a table".toList
  | notArray key => s!"'{key}' must be an array".toList
  | notStrings key => s!"'{key}' must hold non-empty strings".toList
  | badBracketPair => "brackets must be [open, close] pairs".toList
  | badBracketSide => "bracket sides must be non-empty strings or lists of them".toList
  | badBlockComment => "block comments must be [open, close] string pairs".toList
  | badQuote => "quotes must be single characters".toList
  | notBoolean => "'regex_literals' must be a boolean".toList
  | badEmbedding => "embedded regions need non-empty 'open', 'close' and 'language'".toList
  | unknownKey name => s!"unknown key '{name}'".toList
  | unknownRule name => s!"unknown indentation rule '{name}'".toList
  | ruleNotString name => s!"'{name}' must be a string".toList
  | badPattern error => "invalid pattern: ".toList ++ error.message
  | unknownEmbedded language => s!"unknown embedded language '{language}'".toList

/-- A fault and the key of the entry it is in. -/
structure Problem where
  fault : Fault
  key : Option String
  deriving DecidableEq, Repr

/-- A problem and the file it stands in, if that is known. -/
structure Error where
  problem : Problem
  path : Option Path
  deriving DecidableEq, Repr

/-- The wording of an error, with its place. -/
def Error.diagnostic (error : Error) : Diagnostic :=
  { message := error.problem.fault.message
    path := error.path
    key := error.problem.key.map String.toList }

end Indentation.Config
