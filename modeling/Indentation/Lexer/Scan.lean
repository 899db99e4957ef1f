import Indentation.Character.Letter
import Indentation.Text.Basic

/-!
# Where literals end

How many characters of a line belong to a string or a regular expression that has been opened, and
where a region closes. An *item* of a literal is a backslash with the character after it, or any
other character.

## Main definitions

* `Text.closeOffset?` — where the close of a region is found
* `Text.stringSize` — the characters of a string behind its opening quote
* `Text.regexBodySize?` — the characters of a regular expression before its closing slash
* `Text.regexSize?` — the characters of a regular expression with its slashes and flags
-/

namespace Indentation.Text

/-- The offset where a non-empty delimiter is first found. -/
def closeOffset? (close rest : Text) : Option Nat :=
  if close.isEmpty then none else find? close rest

/-- The number of characters of a string behind its opening quote: up to and with the first item
that is the quote, or up to an item before which the region closes, or all. -/
def stringSize (close : Text) (quote : Char) : Text → Nat
  | [] => 0
  | [c] => if beginsWith [c] close then 0 else 1
  | c :: d :: cs =>
    if beginsWith (c :: d :: cs) close then 0
    else if c = '\\' then stringSize close quote cs + 2
    else if c = quote then 1
    else stringSize close quote (d :: cs) + 1

/-- The number of characters before the slash that closes a regular expression: the first slash that
is an item of its own and not in a class, which brackets open and close. -/
def regexBodySize? (inClass : Bool) : Text → Option Nat
  | [] => none
  | [c] => if c = '/' ∧ inClass = false then some 0 else none
  | c :: d :: cs =>
    if c = '\\' then (regexBodySize? inClass cs).map (· + 2)
    else if c = '/' ∧ inClass = false then some 0
    else if c = '[' then (regexBodySize? true (d :: cs)).map (· + 1)
    else if c = ']' then (regexBodySize? false (d :: cs)).map (· + 1)
    else (regexBodySize? inClass (d :: cs)).map (· + 1)

/-- The number of characters of a regular expression that opens with the slash in front of `rest`:
the slashes, a body that is not empty, and the letters behind it. -/
def regexSize? (rest : Text) : Option Nat :=
  match regexBodySize? false rest with
  | none | some 0 => none
  | some body =>
    some (body + 2 + ((rest.drop (body + 1)).takeWhile Character.isLetter).length)

end Indentation.Text
