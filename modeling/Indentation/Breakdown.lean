import Indentation.Text.Integer
import Indentation.Text.Utf8

/-!
# Breakdowns

What can go wrong is handled, and reported, only if the program has foreseen it. A failure that it
has not foreseen breaks it off: no code is returned and nothing is written. Such failures come from
what the program is built on: decoding files, reading numbers, TOML documents and patterns, and
positions of an editor.

## Main definitions

* `Breakdown` — a failure that is not handled
* `Failed` — a failure of one or the other kind
-/

namespace Indentation

/-- A failure that is not handled. -/
inductive Breakdown where
  /-- A file holds bytes that are those of no text. -/
  | encoding (fault : Text.Utf8.Fault)
  /-- A path holds a null character. -/
  | nullInPath
  /-- A number has too many digits to be read, and how many, or to be written. -/
  | tooManyDigits (count? : Option Nat)
  /-- A pattern repeats something too often. -/
  | repetitionTooLarge
  /-- A pattern sets flags that choose different alphabets. -/
  | flagsIncompatible
  /-- A position has a character that no position can have. -/
  | badCharacter (character : Int)
  /-- Something is nested too deep. -/
  | tooDeep
  /-- Any other failure, in words of its own. -/
  | other (reason : Text)
  deriving DecidableEq, Repr

/-- The wording of a breakdown. -/
def Breakdown.message : Breakdown → Text
  | encoding fault => fault.message
  | nullInPath => "embedded null byte".toList
  | tooManyDigits count? =>
    let count := count?.map fun count => ": value has ".toList ++ Text.ofInt count ++
      " digits".toList
    "Exceeds the limit (".toList ++ Text.ofInt Text.maxIntegerDigits
      ++ " digits) for integer string conversion".toList ++ count.getD []
      ++ "; use sys.set_int_max_str_digits() to increase the limit".toList
  | repetitionTooLarge => "the repetition number is too large".toList
  | flagsIncompatible => "ASCII and UNICODE flags are incompatible".toList
  | badCharacter character =>
    s!"Position.character should be in range [0:2147483647], but was {character}.".toList
  | tooDeep => "maximum recursion depth exceeded".toList
  | other reason => reason

/-- A failure with a cause that is handled, or a breakdown. -/
inductive Failed (ε : Type) where
  | cause (cause : ε)
  | breakdown (reason : Breakdown)
  deriving DecidableEq, Repr

namespace Failed

variable {ε ε' : Type}

/-- The failure with another cause. A breakdown stays one. -/
def map (f : ε → ε') : Failed ε → Failed ε'
  | cause e => .cause (f e)
  | breakdown b => .breakdown b

end Failed

end Indentation
