import Indentation.Pattern.CharClass

/-!
# Finding a pattern in a text

A part of a pattern is matched from a place in the text. What has to match behind it is handed to it
as a function, its *sequel*: the part tries its ways to match in order of preference and gives the
place after each to the sequel, until the sequel succeeds.

A repetition that has done its least number of rounds stops when a round has not moved, so it does
at most one round more than there are characters left. This bounds the count that its loop runs on.

## Main definitions

* `Pattern.Place` — a position in the text and the marks of the groups
* `Pattern.Node.run` — matching a part, followed by a sequel
* `Pattern.Node.isFoundIn` — whether a part matches from some position on
-/

namespace Indentation.Pattern

/-- A position in the text, with the positions where groups last started and stopped. -/
structure Place where
  position : Nat
  starts : List (Nat × Nat)
  stops : List (Nat × Nat)
  deriving Repr

/-- What has to match behind a part. -/
abbrev Sequel := Place → Option Place

/-- A way to match from a place on, followed by a sequel. -/
abbrev Run := Place → Sequel → Option Place

namespace Place

/-- The place `count` characters further on. -/
def advance (place : Place) (count : Nat) : Place :=
  { place with position := place.position + count }

/-- The place with the start of a group marked. -/
def markStart (index : Nat) (place : Place) : Place :=
  { place with starts := (index, place.position) :: place.starts }

/-- The place with the end of a group marked. -/
def markStop (index : Nat) (place : Place) : Place :=
  { place with stops := (index, place.position) :: place.stops }

/-- The span of a group, if it has matched. -/
def span? (index : Nat) (place : Place) : Option (Nat × Nat) := do
  let start ← place.starts.lookup index
  let stop ← place.stops.lookup index
  if start ≤ stop then some (start, stop) else none

end Place

/-! ### Repetitions -/

/-- As many rounds as possible, and fewer if the sequel fails. `count` rounds have been done, and
the last round that was not needed began at `last`. -/
def runGreedy (round : Run) (least : Nat) (most : Option Nat) (sequel : Sequel) :
    Nat → Nat → Option Nat → Sequel
  | 0, _, _, _ => none
  | fuel + 1, count, last, place =>
    if count < least then
      round place (runGreedy round least most sequel fuel (count + 1) last)
    else if most.all (count < ·) && last != some place.position then
      round place (runGreedy round least most sequel fuel (count + 1) (some place.position))
        <|> sequel place
    else
      sequel place

/-- As few rounds as possible, and more if the sequel fails. -/
def runLazy (round : Run) (least : Nat) (most : Option Nat) (sequel : Sequel) :
    Nat → Nat → Option Nat → Sequel
  | 0, _, _, _ => none
  | fuel + 1, count, last, place =>
    if count < least then
      round place (runLazy round least most sequel fuel (count + 1) last)
    else
      sequel place <|>
        if most.all (count < ·) && last != some place.position then
          round place (runLazy round least most sequel fuel (count + 1) (some place.position))
        else
          none

/-- As many rounds as possible, each in the way it matches first. -/
def runPossessive (round : Run) (least : Nat) (most : Option Nat) :
    Nat → Nat → Option Nat → Sequel
  | 0, _, _, _ => none
  | fuel + 1, count, last, place =>
    if count < least then
      (round place some).bind (runPossessive round least most fuel (count + 1) last)
    else if most.all (count < ·) && last != some place.position then
      match round place some with
      | none => some place
      | some after =>
        runPossessive round least most fuel (count + 1) (some place.position) after
    else
      some place

/-! ### Places -/

/-- Whether the character at `position` belongs to a word. -/
def wordAt (text : Array Char) (modes : Modes) (position : Nat) : Bool :=
  text[position]?.any (modes.inCategory .word)

/-- Whether exactly one side of a position belongs to a word. -/
def atBoundary (text : Array Char) (modes : Modes) (position : Nat) : Bool :=
  (position != 0 && wordAt text modes (position - 1)) != wordAt text modes position

/-- Whether a position is the place that an anchor stands for. The end of a line is also the place
before a line feed that ends the text. An empty text has neither word boundaries nor other places
inside words. -/
def isAt (text : Array Char) (modes : Modes) (anchor : Anchor) (position : Nat) : Bool :=
  match anchor with
  | .textStart => position == 0
  | .textEnd => position == text.size
  | .lineStart =>
    position == 0 || (modes.multiline && text[position - 1]? == some '\n')
  | .lineEnd =>
    position == text.size
      || (text[position]? == some '\n' && (modes.multiline || position + 1 == text.size))
  | .wordBoundary => !text.isEmpty && atBoundary text modes position
  | .notWordBoundary => !text.isEmpty && !atBoundary text modes position

/-- The place behind one character that the condition admits. -/
def runChar (text : Array Char) (admits : Char → Bool) : Run := fun place sequel =>
  if text[place.position]?.any admits then sequel (place.advance 1) else none

/-- Whether the text goes on at `position` with what stands between `start` and `stop`. -/
def repeats (text : Array Char) (modes : Modes) (start stop position : Nat) : Bool :=
  (List.range (stop - start)).all fun i =>
    match text[start + i]?, text[position + i]? with
    | some a, some b =>
      if modes.ignoreCase then modes.lower a.toNat == modes.lower b.toNat else a == b
    | _, _ => false

/-- Goes on from the first match of `run`, which is not tried again. -/
def runOnce (run : Run) : Run := fun place sequel =>
  (run place some).bind sequel

/-- Goes on from `place` if `run` matches at `start`, or if it does not and `negated` is set. The
marks of a match are kept. -/
def runLook (run : Run) (negated : Bool) (start : Option Nat) : Run := fun place sequel =>
  let found := start.bind fun position => run { place with position } some
  match found, negated with
  | some after, false => sequel { after with position := place.position }
  | none, true => sequel place
  | _, _ => none

namespace Node

/-- Matches a part and then the sequel. -/
def run (text : Array Char) : Node → Modes → Run
  | empty, _ => fun place sequel => sequel place
  | code member negated, modes => runChar text fun c => modes.admits member c != negated
  | anyChar, modes => runChar text fun c => modes.dotAll || c != '\n'
  | set items negated, modes => runChar text (modes.admitsSet items negated)
  | anchor kind, modes => fun place sequel =>
    if isAt text modes kind place.position then sequel place else none
  | sequence first second, modes => fun place sequel =>
    first.run text modes place fun after => second.run text modes after sequel
  | choice first second, modes => fun place sequel =>
    first.run text modes place sequel <|> second.run text modes place sequel
  | repetition .greedy least most body, modes => fun place sequel =>
    runGreedy (body.run text modes) least most sequel (least + text.size + 3) 0 none place
  | repetition .lazy least most body, modes => fun place sequel =>
    runLazy (body.run text modes) least most sequel (least + text.size + 3) 0 none place
  | repetition .possessive least most body, modes => fun place sequel =>
    (runPossessive (body.run text modes) least most (least + text.size + 3) 0 none place).bind
      sequel
  | group none on off body, modes => body.run text (modes.adjust on off)
  | group (some index) on off body, modes => fun place sequel =>
    body.run text (modes.adjust on off) (place.markStart index) fun after =>
      sequel (after.markStop index)
  | atomic body, modes => runOnce (body.run text modes)
  | ahead negated body, modes => fun place =>
    runLook (body.run text modes) negated (some place.position) place
  | behind negated body, modes => fun place =>
    let back := body.width.least
    runLook (body.run text modes) negated
      (if back ≤ place.position then some (place.position - back) else none) place
  | backreference index _, modes => fun place sequel =>
    match place.span? index with
    | none => none
    | some (start, stop) =>
      if repeats text modes start stop place.position then
        sequel (place.advance (stop - start))
      else
        none
  | conditional index yes no, modes => fun place =>
    if (place.span? index).isSome then yes.run text modes place else no.run text modes place

/-- Whether the part matches from some position of the text on. -/
def isFoundIn (node : Node) (modes : Modes) (text : Text) : Bool :=
  let chars := text.toArray
  (List.range (chars.size + 1)).any fun position =>
    (node.run chars modes ⟨position, [], []⟩ some).isSome

end Node

end Indentation.Pattern
