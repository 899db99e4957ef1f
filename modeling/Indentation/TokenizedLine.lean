import Indentation.Token

/-!
# The tokens of a line

A tokenized line is a text with its tokens. There is always a first token, and it starts at offset
0, so that an empty line has a language too. A token boundary belongs to the token that starts
there. Nothing else is required: several tokens may start at one offset, which leaves all but the
last of them empty, and tokens may start past the end of the text.

## Main definitions

* `TokenizedLine` — a text with its tokens
* `TokenizedLine.ofTokens` — a line from its tokens, if the first one is there and starts at 0
* `TokenizedLine.ofFront` — a line from tokens that are known to start at 0
* `TokenizedLine.ofRuns` — a line from pieces of text with their labels
* `TokenizedLine.ofLabels` — a line from the labels of its characters, one token per maximal run
* `TokenizedLine.find` — the index of the token at an offset
* `TokenizedLine.slice` — the tokens of a part of the line, with offsets counted from its start
-/

namespace Indentation

/-- A line and its tokens. The first token starts at offset 0, so only its label is kept. -/
structure TokenizedLine where
  text : Text
  first : Label
  rest : List Token
  deriving DecidableEq, Repr

namespace TokenizedLine

/-- Why tokens do not make a line. -/
inductive Fault where
  | noTokens
  | badStart (start : Int)
  deriving DecidableEq, Repr

/-- The wording of a fault. -/
def Fault.message : Fault → String
  | noTokens => "a line needs at least one token"
  | badStart start => s!"first token must start at offset 0, not {start}"

/-- A line with one token. -/
def single (text : Text) (label : Label) : TokenizedLine :=
  ⟨text, label, []⟩

/-- A line from its tokens: the label of the first one with the offset where it starts, if there is
any, and the others. -/
def ofTokens (text : Text) (first? : Option (Int × Label)) (rest : List Token) :
    Except Fault TokenizedLine :=
  match first? with
  | none => .error .noTokens
  | some (start, label) => if start = 0 then .ok ⟨text, label, rest⟩ else .error (.badStart start)

/-- A line from its tokens, the first of which is there and starts at 0. -/
def ofFront (text : Text) (tokens : List Token) (h : tokens.head?.map (·.start) = some 0) :
    TokenizedLine :=
  match tokens, h with
  | first :: rest, _ => ⟨text, first.toLabel, rest⟩

/-- The tokens of labelled pieces of text, the first of which starts at `start`. -/
def runTokens (start : Nat) : List (Text × Label) → List Token
  | [] => []
  | (piece, label) :: pieces =>
    { label with start := start } :: runTokens (start + piece.length) pieces

/-- A line from pieces of text with their labels. An empty piece gives an empty token. -/
def ofRuns : List (Text × Label) → Except Fault TokenizedLine
  | [] => .error .noTokens
  | (piece, label) :: pieces =>
    .ok ⟨piece ++ pieces.flatMap (·.1), label, runTokens piece.length pieces⟩

/-- The tokens that start where the labels, the first of which stands at `offset`, change from
`previous` on. -/
def changes (previous : Label) (offset : Nat) : List Label → List Token
  | [] => []
  | label :: labels =>
    if label = previous then
      changes previous (offset + 1) labels
    else
      { label with start := offset } :: changes label (offset + 1) labels

/-- A line from the labels of its characters: one token for each maximal run of equal labels. A
line without characters gets the label `blank`. -/
def ofLabels (text : Text) (blank : Label) : List Label → TokenizedLine
  | [] => single text blank
  | label :: labels => ⟨text, label, changes label 1 labels⟩

variable (line : TokenizedLine)

/-- All tokens of the line. -/
def tokens : List Token :=
  { line.first with start := 0 } :: line.rest

@[simp] theorem tokens_ofFront (text : Text) (tokens : List Token)
    (h : tokens.head?.map (·.start) = some 0) : (ofFront text tokens h).tokens = tokens := by
  cases tokens with
  | nil => cases h
  | cons first rest =>
    have hstart : first.start = 0 := Option.some.inj h
    rw [ofFront, TokenizedLine.tokens, ← hstart]

/-- The number of tokens. -/
def count : Nat :=
  line.tokens.length

/-- The label of the token at `index`; past the last token, that of the first one. -/
def labelAt (index : Nat) : Label :=
  (line.tokens[index]?.map (·.toLabel)).getD line.first

/-- The offset where the token at `index` starts; past the last token, the length of the text. -/
def startAt (index : Nat) : Nat :=
  (line.tokens[index]?.map (·.start)).getD line.text.length

/-- The text of the token at `index`. -/
def textAt (index : Nat) : Text :=
  line.text.slice (line.startAt index) (line.startAt (index + 1))

/-- The labels of the tokens, each with the text it covers. -/
def pieces : List (Label × Text) :=
  (List.range line.count).map fun index => (line.labelAt index, line.textAt index)

/-- The index of the token at `offset`: the last one that starts at or before it. An offset before
the line belongs to the first token. -/
def find (offset : Int) : Nat :=
  (line.rest.takeWhile fun token => token.start ≤ offset).length

/-- The label of the character at `offset`. -/
def labelOf (offset : Int) : Label :=
  line.labelAt (line.find offset)

/-- The last token of each run of neighbouring tokens that start at one offset. -/
def lastOfEach : List Token → List Token
  | token :: next :: tokens =>
    if token.start = next.start then
      lastOfEach (next :: tokens)
    else
      token :: lastOfEach (next :: tokens)
  | tokens => tokens

/-- An offset moved into the line. -/
def clampOffset (offset : Int) : Nat :=
  min offset.toNat line.text.length

/-- The part of the line from offset `start` up to but not including `stop`, with its tokens. The
offsets are first moved into the line, and `stop` at least to `start`. An empty part keeps the label
at `start`. -/
def slice (start stop : Int) : TokenizedLine :=
  let start := line.clampOffset start
  let stop := max start (line.clampOffset stop)
  let index := line.find start
  let inside := (line.rest.drop index).takeWhile fun token => token.start < stop
  { text := line.text.slice start stop
    first := line.labelAt index
    rest := (lastOfEach inside).map fun token => { token with start := token.start - start } }

/-! ### Tokens counted from either end -/

/-- The token at `index`, where -1 stands for the last token, -2 for the one before it and so on. -/
def token? (index : Int) : Option Token :=
  if 0 ≤ index then
    line.tokens[index.toNat]?
  else if 0 ≤ line.count + index then
    line.tokens[(line.count + index).toNat]?
  else
    none

/-- The offset where the token at `index` ends: where the token at `index + 1` starts or, if there
is none, the end of the text. An index from the end is followed by the next one, so -1 is followed
by the first token. -/
def stop? (index : Int) : Option Nat :=
  if index + 1 < line.count then
    (line.token? (index + 1)).map (·.start)
  else
    some line.text.length

/-- The text of the token at `index`, where the index may count from the end. -/
def text? (index : Int) : Option Text := do
  let token ← line.token? index
  let stop ← line.stop? index
  return line.text.slice token.start stop

end TokenizedLine

end Indentation
