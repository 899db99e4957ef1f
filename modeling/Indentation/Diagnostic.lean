import Indentation.Path

/-!
# Diagnostics

An error in a configuration is reported with the file it stands in and the key of the entry, an
error in a request without a place.

## Main definitions

* `Diagnostic` — a message with its place
* `Diagnostic.format` — the message and, on a line of its own, the place
* `formatUsage` — a message without a place
-/

namespace Indentation

/-- A message about an entry of a configuration: the file and the key, if they are known. -/
structure Diagnostic where
  message : Text
  path : Option Path := none
  key : Option Text := none
  deriving DecidableEq, Repr

/-- A message about a request. -/
def formatUsage (message : Text) : Text :=
  "error: ".toList ++ message

/-- The message, and the file and the key it is about. An empty key is left out. -/
def Diagnostic.format (diagnostic : Diagnostic) : Text :=
  let file := (diagnostic.path.map Path.toText).getD "<config>".toList
  let key :=
    match diagnostic.key with
    | none | some [] => []
    | some key => ": ".toList ++ key
  formatUsage diagnostic.message ++ "\n  --> ".toList ++ file ++ key

end Indentation
