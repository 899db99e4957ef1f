import Indentation.Text.Lines
import Indentation.Text.Quoted

/-!
# Faults in patterns

Why a text is no pattern, and where. The position is an offset in the pattern. The rules for
look-behind and for templates are checked on the whole pattern and have no position.

## Main definitions

* `Pattern.Fault` — what is wrong
* `Pattern.Error` — a fault with its place
* `Pattern.Error.message` — the wording, with line and column if the pattern has several lines
-/

namespace Indentation.Pattern

/-- What is wrong with a pattern. -/
inductive Fault where
  | escapeAtEnd
  | badEscape (escape : Text)
  | incompleteEscape (escape : Text)
  | octalTooLarge (escape : Text)
  | missingBrace
  | missingName (what : String)
  | unterminatedName (terminator : Char)
  | undefinedCharacter (name : Text)
  | openGroupReference
  | invalidGroupReference (index : Nat)
  | groupOfSameLookBehind
  | unterminatedSet
  | badRange (low high : Text)
  | leastAboveMost
  | nothingToRepeat
  | multipleRepeat
  | unexpectedEnd
  | badGroupName (name : Text)
  | unknownGroupName (name : Text)
  | redefinedGroup (name : Text) (index before : Nat)
  | badGroupNumber
  | unknownExtension (extension : Text)
  | unterminatedComment
  | unterminatedGroup
  | moreThanTwoBranches
  | flagsNotAtStart
  | unknownFlag
  | missingFlagsEnd
  | missingFlag
  | missingColon
  | localeFlag
  | incompatibleFlags
  | globalFlagOn
  | alphabetFlagOff
  | globalFlagOff
  | flagOnAndOff
  | unbalancedParenthesis
  | lookBehindNotFixed
  | lookBehindTooFar
  | repetitionInTemplate (operator : String)
  deriving DecidableEq, Repr

/-- The wording of a fault, without its place. -/
def Fault.message : Fault → Text
  | escapeAtEnd => "bad escape (end of pattern)".toList
  | badEscape escape => "bad escape ".toList ++ escape
  | incompleteEscape escape => "incomplete escape ".toList ++ escape
  | octalTooLarge escape =>
    "octal escape value ".toList ++ escape ++ " outside of range 0-0o377".toList
  | missingBrace => "missing \x7b".toList
  | missingName what => "missing ".toList ++ what.toList
  | unterminatedName terminator => "missing ".toList ++ terminator :: ", unterminated name".toList
  | undefinedCharacter name => "undefined character name ".toList ++ name.quoted
  | openGroupReference => "cannot refer to an open group".toList
  | invalidGroupReference index => "invalid group reference ".toList ++ Text.ofInt index
  | groupOfSameLookBehind =>
    "cannot refer to group defined in the same lookbehind subpattern".toList
  | unterminatedSet => "unterminated character set".toList
  | badRange low high => "bad character range ".toList ++ low ++ '-' :: high
  | leastAboveMost => "min repeat greater than max repeat".toList
  | nothingToRepeat => "nothing to repeat".toList
  | multipleRepeat => "multiple repeat".toList
  | unexpectedEnd => "unexpected end of pattern".toList
  | badGroupName name => "bad character in group name ".toList ++ name.quoted
  | unknownGroupName name => "unknown group name ".toList ++ name.quoted
  | redefinedGroup name index before =>
    "redefinition of group name ".toList ++ name.quoted ++ " as group ".toList
      ++ Text.ofInt index ++ "; was group ".toList ++ Text.ofInt before
  | badGroupNumber => "bad group number".toList
  | unknownExtension extension => "unknown extension ?".toList ++ extension
  | unterminatedComment => "missing ), unterminated comment".toList
  | unterminatedGroup => "missing ), unterminated subpattern".toList
  | moreThanTwoBranches => "conditional backref with more than two branches".toList
  | flagsNotAtStart => "global flags not at the start of the expression".toList
  | unknownFlag => "unknown flag".toList
  | missingFlagsEnd => "missing -, : or )".toList
  | missingFlag => "missing flag".toList
  | missingColon => "missing :".toList
  | localeFlag => "bad inline flags: cannot use 'L' flag with a str pattern".toList
  | incompatibleFlags => "bad inline flags: flags 'a', 'u' and 'L' are incompatible".toList
  | globalFlagOn => "bad inline flags: cannot turn on global flag".toList
  | alphabetFlagOff => "bad inline flags: cannot turn off flags 'a', 'u' and 'L'".toList
  | globalFlagOff => "bad inline flags: cannot turn off global flag".toList
  | flagOnAndOff => "bad inline flags: flag turned on and off".toList
  | unbalancedParenthesis => "unbalanced parenthesis".toList
  | lookBehindNotFixed => "look-behind requires fixed-width pattern".toList
  | lookBehindTooFar => "looks too much behind".toList
  | repetitionInTemplate operator =>
    "internal: unsupported template operator ".toList ++ operator.toList

/-- A fault in the pattern `source`, with its position if it has one. -/
structure Error where
  source : Text
  fault : Fault
  position : Option Nat
  deriving DecidableEq, Repr

/-- The wording of an error: the fault, its position and, in a pattern of several lines, its line
and column. -/
def Error.message (error : Error) : Text :=
  match error.position with
  | none => error.fault.message
  | some position =>
    let place := error.fault.message ++ " at position ".toList ++ Text.ofInt position
    if error.source.contains '\n' then
      let (line, column) := error.source.lineAndColumn position
      place ++ " (line ".toList ++ Text.ofInt line ++ ", column ".toList ++ Text.ofInt column
        ++ ")".toList
    else
      place

end Indentation.Pattern
