import Indentation.Pattern.Node

/-!
# Alternatives in patterns

Alternatives are first brought into a simpler form: items that all of them begin with are taken out,
and alternatives of one character each become a set.

## Main definitions

* `Pattern.Node.ofChoice` — the node of some alternatives
-/

namespace Indentation.Pattern

/-- Whether two items match the same text in one way only, so that alternatives which both begin
with them can share them. -/
def Node.sameAtom : Node → Node → Bool
  | .anyChar, .anyChar => true
  | .code a n, .code b m => a == b && n == m
  | .set xs n, .set ys m => xs == ys && n == m
  | .anchor a, .anchor b => a == b
  | .backreference a _, .backreference b _ => a == b
  | _, _ => false

/-- The members of the set that an alternative of one character stands for. -/
def setItems? : List Node → Option (List SetItem)
  | [.code code false] => some [.code code]
  | [.set items false] => some items
  | _ => none

/-- One of several nodes, the first ones preferred. -/
def Node.choices : List Node → Node
  | [] => .empty
  | [node] => node
  | node :: nodes => .choice node (choices nodes)

/-- One of several alternatives. Alternatives of one character each make a set. -/
def joinAlternatives (alternatives : List (List Node)) : Node :=
  match alternatives.mapM setItems? with
  | some sets => .set sets.flatten.eraseDups false
  | none => .choices (alternatives.map .ofList)

/-- One of several alternatives, where up to `fuel` items that all of them begin with are shared. -/
def ofAlternatives : Nat → List (List Node) → Node
  | fuel + 1, (item :: items) :: others =>
    if others.all fun other => other.head?.any item.sameAtom then
      .sequence item (ofAlternatives fuel (items :: others.map List.tail))
    else
      joinAlternatives ((item :: items) :: others)
  | _, alternatives => joinAlternatives alternatives

/-- The node of alternatives, given by their items. -/
def Node.ofChoice : List (List Node) → Node
  | [] => .empty
  | [items] => .ofList items
  | items :: others => ofAlternatives items.length (items :: others)

end Indentation.Pattern
