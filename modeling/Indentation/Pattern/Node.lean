import Indentation.Text.Basic

/-!
# The parts of a pattern

A pattern describes the texts in which it is found. This module holds the tree of a pattern and the
widths of what a part can match, on which the rule for look-behind rests.

Flags are kept by the parts they are set for, because the flags of the whole pattern are known only
when all of it has been read.

## Main definitions

* `Pattern.Flag` — a mode of matching
* `Pattern.Category`, `Pattern.SetItem` — classes of characters and the members of a set
* `Pattern.Node` — a part of a pattern
* `Pattern.Node.width` — the least and the greatest number of characters a part can match
-/

namespace Indentation.Pattern

/-- A mode of matching. -/
inductive Flag where
  | ascii
  | dotAll
  | ignoreCase
  | locale
  | multiline
  | template
  | unicode
  | verbose
  deriving DecidableEq, Repr

/-- The letter of a flag in a pattern. -/
def Flag.ofLetter? : Char → Option Flag
  | 'a' => some .ascii
  | 's' => some .dotAll
  | 'i' => some .ignoreCase
  | 'L' => some .locale
  | 'm' => some .multiline
  | 't' => some .template
  | 'u' => some .unicode
  | 'x' => some .verbose
  | _ => none

/-- The flags that choose the alphabet. At most one of them can be set. -/
def Flag.isAlphabet : Flag → Bool
  | .ascii | .locale | .unicode => true
  | _ => false

/-- A class of characters with a name of its own. -/
inductive Category where
  | digit
  | space
  | word
  deriving DecidableEq, Repr

/-- A member of a set of characters. -/
inductive SetItem where
  | code (code : Nat)
  | range (low high : Nat)
  | category (category : Category) (negated : Bool)
  deriving DecidableEq, Repr

/-- A place in a text. -/
inductive Anchor where
  | textStart
  | textEnd
  | lineStart
  | lineEnd
  | wordBoundary
  | notWordBoundary
  deriving DecidableEq, Repr

/-- How a repetition chooses between more and fewer rounds. -/
inductive Greed where
  | greedy
  | lazy
  | possessive
  deriving DecidableEq, Repr

/-- The name of the operator of a repetition. -/
def Greed.operator : Greed → String
  | greedy => "MAX_REPEAT"
  | lazy => "MIN_REPEAT"
  | possessive => "POSSESSIVE_REPEAT"

/-- The least and the greatest number of characters. -/
structure Width where
  least : Nat
  greatest : Nat
  deriving DecidableEq, Repr

/-- A part of a pattern. -/
inductive Node where
  /-- Matches nothing but the empty text. -/
  | empty
  /-- Matches the character, or every other character if negated. -/
  | code (code : Nat) (negated : Bool)
  | anyChar
  | set (items : List SetItem) (negated : Bool)
  | anchor (anchor : Anchor)
  | sequence (first second : Node)
  | choice (first second : Node)
  | repetition (greed : Greed) (least : Nat) (most : Option Nat) (body : Node)
  /-- A group with its number, if it captures, and the flags it turns on and off. -/
  | group (index : Option Nat) (on off : List Flag) (body : Node)
  /-- A group that is left at its first match only. -/
  | atomic (body : Node)
  | ahead (negated : Bool) (body : Node)
  | behind (negated : Bool) (body : Node)
  /-- Matches what the group matched, whose width is kept with it. -/
  | backreference (index : Nat) (width : Width)
  | conditional (index : Nat) (yes no : Node)
  deriving Repr

/-- The greatest number that may stand in braces. -/
def maxRepetition : Nat := 4294967294

/-- The greatest number of characters that a look-behind may look at. -/
def maxLookBehind : Nat := 4294967295

/-- The bound above which widths are not told apart. -/
def maxWidth : Nat := 18446744073709551616

namespace Width

/-- The width of one character. -/
def one : Width := ⟨1, 1⟩

/-- The width of the empty text. -/
def zero : Width := ⟨0, 0⟩

/-- The width with its numbers cut at the bound. -/
def capped (width : Width) : Width :=
  ⟨min width.least maxWidth, min width.greatest maxWidth⟩

/-- The width of one part after another. -/
def add (first second : Width) : Width :=
  capped ⟨first.least + second.least, first.greatest + second.greatest⟩

/-- The width of one part or another. -/
def join (first second : Width) : Width :=
  ⟨min first.least second.least, max first.greatest second.greatest⟩

/-- The width of a repeated part. -/
def times (least : Nat) (most : Option Nat) (width : Width) : Width :=
  capped ⟨width.least * least, width.greatest * most.getD maxWidth⟩

/-- Whether all matches have the same number of characters. -/
def isFixed (width : Width) : Bool :=
  width.least == width.greatest

end Width

namespace Node

/-- The least and the greatest number of characters that a part can match. -/
def width : Node → Width
  | empty | anchor _ | ahead .. | behind .. => .zero
  | code .. | anyChar | set .. => .one
  | sequence first second => first.width.add second.width
  | choice first second => first.width.join second.width
  | repetition _ least most body => body.width.times least most
  | group _ _ _ body | atomic body => body.width
  | backreference _ width => width
  | conditional _ yes no => yes.width.join no.width

/-- The parts one after another. -/
def ofList (parts : List Node) : Node :=
  parts.foldr sequence empty

end Node

end Indentation.Pattern
