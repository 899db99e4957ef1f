import Indentation.Character.Blank
import Indentation.Character.LetterCase
import Indentation.Character.Numeral
import Indentation.Pattern.Node

/-!
# Which characters a pattern admits

A character of a pattern is compared as it is, or without regard to case. Without regard to case the
simple lowercase forms are compared, and lowercase letters that share their uppercase form count as
the same letter. A character that has no case is always compared as it is.

The members of a set are lowercased too, and the set is asked for the lowercase form of a character
as soon as one of its members has case. Beyond U+FFFF a single member of a set is taken as it is
written, and a range is asked for the lowercase and for the uppercase form.

## Main definitions

* `Pattern.Modes` — the flags that decide what matches
* `Pattern.Modes.admits` — whether a character of the pattern admits a character of the text
* `Pattern.Modes.admitsSet` — whether a set admits a character of the text
-/

namespace Indentation.Pattern

/-- The flags that decide what matches. -/
structure Modes where
  ascii : Bool
  dotAll : Bool
  ignoreCase : Bool
  multiline : Bool
  deriving DecidableEq, Repr

namespace Modes

/-- The modes that flags for the whole pattern set. -/
def ofFlags (flags : List Flag) : Modes :=
  { ascii := flags.contains .ascii
    dotAll := flags.contains .dotAll
    ignoreCase := flags.contains .ignoreCase
    multiline := flags.contains .multiline }

variable (modes : Modes)

/-- The modes inside a group that turns flags on and off. -/
def adjust (on off : List Flag) : Modes :=
  { ascii := if on.any Flag.isAlphabet then on.contains .ascii else modes.ascii
    dotAll := (modes.dotAll || on.contains .dotAll) && !off.contains .dotAll
    ignoreCase := (modes.ignoreCase || on.contains .ignoreCase) && !off.contains .ignoreCase
    multiline := (modes.multiline || on.contains .multiline) && !off.contains .multiline }

/-- Whether a character belongs to a named class. -/
def inCategory (category : Category) (c : Char) : Bool :=
  match category with
  | .digit => if modes.ascii then c.isDigit else Character.isDecimal c
  | .space =>
    if modes.ascii then c == ' ' || (9 ≤ c.toNat && c.toNat ≤ 13) else Character.isBlank c
  | .word => if modes.ascii then c.isAlphanum || c == '_' else Character.isWord c

/-- The lowercase form in the alphabet of the pattern. -/
def lower (code : Nat) : Nat :=
  if modes.ascii && 128 ≤ code then code else Character.toLower code

/-- Whether a character has case in the alphabet of the pattern. -/
def isCased (code : Nat) : Bool :=
  if modes.ascii then code < 128 && Character.isCased code else Character.isCased code

/-- The lowercase letters that count as the same as the lowercase letter `code`, itself included. -/
def lowerClass (code : Nat) : List Nat :=
  if modes.ascii then [code] else code :: Character.twins code

/-- Whether the character `code` of a pattern admits the character `c` of a text. -/
def admits (code : Nat) (c : Char) : Bool :=
  if modes.ignoreCase && modes.isCased code then
    (modes.lowerClass (modes.lower code)).contains (modes.lower c.toNat)
  else
    code == c.toNat

/-- Whether a member of a set has case. -/
def itemIsCased : SetItem → Bool
  | .code code => modes.isCased code || 0xFFFF < modes.lower code
  | .range low high =>
    (if modes.ascii then low < 128 && Character.hasCased low (min high 127)
      else Character.hasCased low high) || 0xFFFF < high
  | .category .. => false

/-- Whether the lowercase form of a member of the range from `low` to `high` is `code`. -/
def lowersInto (low high code : Nat) : Bool :=
  let sources :=
    (if modes.lower code == code then [code] else [])
      ++ (Character.capitals code).filter fun source => modes.lower source == code
  code ≤ 0xFFFF && sources.any fun source => low ≤ source && source ≤ high

/-- Whether a member of a set, without regard to case, admits the code point `code`. -/
def itemAdmitsFolded (code : Nat) : SetItem → Bool
  | .code member =>
    let lower := modes.lower member
    if 0xFFFF < lower then member == code else (modes.lowerClass lower).contains code
  | .range low high =>
    (modes.lowerClass code).any (modes.lowersInto low high)
      || (0xFFFF < high
        && ((low ≤ code && code ≤ high)
          || (low ≤ Character.toUpper code && Character.toUpper code ≤ high)))
  | .category category negated => modes.inCategory category (Char.ofNat code) != negated

/-- Whether a member of a set admits the character `c` as it is. -/
def itemAdmits (c : Char) : SetItem → Bool
  | .code code => code == c.toNat
  | .range low high => low ≤ c.toNat && c.toNat ≤ high
  | .category category negated => modes.inCategory category c != negated

/-- Whether a set admits the character `c` of a text. -/
def admitsSet (items : List SetItem) (negated : Bool) (c : Char) : Bool :=
  let found :=
    if modes.ignoreCase && items.any modes.itemIsCased then
      items.any (modes.itemAdmitsFolded (modes.lower c.toNat))
    else
      items.any (modes.itemAdmits c)
  found != negated

end Modes

end Indentation.Pattern
