import Indentation.Scope
import Indentation.Text.Quoted

/-!
# Listings of tokens and scopes

Readable listings of the tokens of a line and of a scope. A token takes one row: the offsets where
it starts and ends, its kind, its language and its text, in columns.

## Main definitions

* `TokenizedLine.listing` — one row per token
* `TokenizedLine.summary` — a line and its tokens on one row
* `Scope.listing` — the language, the spans and the text of a scope
-/

namespace Indentation

namespace Text

/-- The text with spaces in front up to a width. -/
def alignRight (width : Nat) (text : Text) : Text :=
  List.replicate (width - text.length) ' ' ++ text

/-- The text with spaces behind up to a width. -/
def alignLeft (width : Nat) (text : Text) : Text :=
  text ++ List.replicate (width - text.length) ' '

/-- A condition in listings. -/
def ofCondition (condition : Bool) : Text :=
  if condition then "True".toList else "False".toList

end Text

namespace TokenizedLine

variable (line : TokenizedLine)

/-- The row of the token at `index`. -/
def listingRow (index : Nat) : Text :=
  let label := line.labelAt index
  "  [".toList ++ Text.alignRight 3 (Text.ofInt (line.startAt index)) ++ ":".toList
    ++ Text.alignLeft 3 (Text.ofInt (line.startAt (index + 1))) ++ "] ".toList
    ++ Text.alignLeft 7 label.kind.name.toList ++ " ".toList
    ++ Text.alignLeft 12 label.language.toList ++ " ".toList
    ++ (line.textAt index).quoted ++ "\n".toList

/-- A heading with the number of the line, and a row for each token. -/
def listing (number : Int) : Text :=
  "Line ".toList ++ Text.ofInt number ++ " (".toList ++ Text.ofInt line.count
    ++ " tokens)\n".toList ++ (List.range line.count).flatMap line.listingRow

/-- A token with its start, kind and language. -/
def tokenSummary (token : Token) : Text :=
  "Token(start=".toList ++ Text.ofInt token.start ++ ", type=<StandardTokenType.".toList
    ++ token.kind.name.toList ++ ": ".toList ++ Text.ofInt token.kind.number
    ++ ">, language_id=".toList ++ Text.quoted token.language.toList ++ ")".toList

/-- The text and the tokens of the line on one row. -/
def summary : Text :=
  "LineTokens(".toList ++ line.text.quoted ++ ", [".toList
    ++ List.intercalate ", ".toList (line.tokens.map tokenSummary) ++ "])".toList

end TokenizedLine

/-- The language, the spans and the text of a scope, in two rows. -/
def Scope.listing (scope : Scope) : Text :=
  "Scope ".toList ++ scope.language.toList ++ " [".toList ++ Text.ofInt scope.firstChar
    ++ ":".toList ++ Text.ofInt scope.stopChar ++ "] tokens ".toList
    ++ Text.ofInt scope.firstToken ++ "..".toList ++ Text.ofInt (scope.stopToken - 1)
    ++ " starts_at_zero=".toList ++ Text.ofCondition scope.startsLine ++ "\n  ".toList
    ++ scope.text.quoted ++ "\n".toList

end Indentation
