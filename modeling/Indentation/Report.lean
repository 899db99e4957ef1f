import Indentation.Breakdown
import Indentation.Listing
import Indentation.Text.Escaped

/-!
# Reports

A report holds everything that is told of a line: its number, its text, the text without literal
brackets, the four decisions and the context. It is written as aligned text, one field per line, or
as a JSON object. Both have the fields in the same order and the same values. Writing breaks down at
a number with too many digits.

## Main definitions

* `Report` — what is told of a line
* `Report.fields` — the names and values of the fields, in order
* `Report.toText` — one field per line, with the values in a column
* `Report.toJson` — a JSON object
-/

namespace Indentation

/-- What is told of a line. -/
structure Report where
  line : Int
  text : Text
  sanitized : Text
  increase : Bool
  decrease : Bool
  ignore : Bool
  indentNextLine : Bool
  before : Text
  after : Text
  previousLine : Text
  deriving DecidableEq, Repr

namespace Report

/-- The value of a field. -/
inductive Value where
  | integer (number : Int)
  | text (content : Text)
  | condition (holds : Bool)
  deriving DecidableEq, Repr

/-- The written form of a value. -/
def Value.render : Value → Except Breakdown Text
  | integer number =>
    match Text.ofInt? number with
    | some digits => .ok digits
    | none => .error (.tooManyDigits none)
  | text content => .ok content.escaped
  | condition holds => .ok (if holds then "true".toList else "false".toList)

/-- The names and values of the fields, in the order in which they are written. -/
def fields (report : Report) : List (String × Value) :=
  [("line", .integer report.line),
    ("text", .text report.text),
    ("sanitized", .text report.sanitized),
    ("increase", .condition report.increase),
    ("decrease", .condition report.decrease),
    ("ignore", .condition report.ignore),
    ("indent_next_line", .condition report.indentNextLine),
    ("before", .text report.before),
    ("after", .text report.after),
    ("previous_line", .text report.previousLine)]

/-- The width of the column of names: the longest name, a colon and a space. -/
def nameWidth (fields : List (String × Value)) : Nat :=
  (fields.map (·.1.length)).foldl max 0 + 2

/-- One field per line: its name, padded to a column, and its value. -/
def toText (report : Report) : Except Breakdown Text := do
  let rows ← report.fields.mapM fun (name, value) => do
    return Text.alignLeft (nameWidth report.fields) (name.toList ++ [':']) ++ (← value.render)
      ++ ['\n']
  return rows.flatten

/-- A JSON object with one field per line. -/
def toJson (report : Report) : Except Breakdown Text := do
  let rows ← report.fields.mapM fun (name, value) => do
    return "  ".toList ++ Text.escaped name.toList ++ ": ".toList ++ (← value.render)
  return "\x7b\n".toList ++ List.intercalate ",\n".toList rows ++ "\n\x7d\n".toList

end Report

end Indentation
