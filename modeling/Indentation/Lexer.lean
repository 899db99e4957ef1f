import Indentation.Character.Blank
import Indentation.Lexer.Emission
import Indentation.Lexer.Scan
import Indentation.Lexer.State
import Indentation.Registry
import Indentation.TokenizedLine

/-!
# Cutting lines into tokens

The lexer goes through a line step by step and carries the state of the line above to the next one.
At each step it looks, in this order, for the rest of an open block comment, the close of the
innermost region, the opening of an embedded region, a line comment, a block comment, a string, a
regular expression, and takes a single character otherwise. A region ends at its close also inside a
comment or a string, unless a backslash of the string stands in front of the close; inside a regular
expression the close is not looked for.

Each step emits a token where it starts. A line without characters has no steps, and gets a token
from the state it is in.

A slash opens a regular expression only where an operand can stand: at the start of a line, of a
region or behind a comment, or behind punctuation that asks for an operand.

## Main definitions

* `Lexer.Step` — what one step takes from the line
* `Lexer.step` — one step
* `Lexer.emitSteps` — the tokens that the steps of a line emit, and the state behind it
* `Lexer.labels` — the labels of the characters of a line, and the state behind it
* `Lexer.tokenize` — the tokens of a line, and the state behind it
* `Lexer.tokenizeLines` — the same for lines that follow each other

## Main results

* `Lexer.step_progress` — a step takes a character or ends a comment
* `Lexer.start_head?_emission` — the first token of a line starts at offset 0
-/

namespace Indentation.Lexer

/-- What one step takes from the line: a number of characters with one label. Behind them stands a
state and the last character that tells whether an operand can follow. -/
structure Step where
  size : Nat
  label : Label
  state : LineState
  operand : Option Char
  deriving DecidableEq, Repr

/-- The punctuation behind which a slash opens a regular expression. -/
def operandMarks : Text :=
  "(,=:[!&|?\x7b\x7d;+-*%<>~^".toList

/-- Whether an operand can stand behind the given character, or at the start. -/
def admitsOperand : Option Char → Bool
  | none => true
  | some c => operandMarks.contains c

variable (grammar : Grammar) (state : LineState) (operand : Option Char) (rest : Text)

/-- The rest of a block comment, up to and with `close`. A close of the region that comes before it
ends the comment; without either the whole line belongs to it. -/
def commentStep (close : Text) : Step :=
  let label : Label := ⟨.comment, state.language⟩
  match Text.find? close rest, Text.closeOffset? state.close rest with
  | none, none => ⟨rest.length, label, state, operand⟩
  | none, some region => ⟨region, label, state.endComment, operand⟩
  | some stop, none => ⟨stop + close.length, label, state.endComment, none⟩
  | some stop, some region =>
    if region < stop then
      ⟨region, label, state.endComment, operand⟩
    else
      ⟨stop + close.length, label, state.endComment, none⟩

/-- The close of the innermost region. It belongs to the language around the region. -/
def leaveRegion? : Option Step :=
  match state.regions with
  | [] => none
  | region :: regions =>
    if rest.beginsWith region.close then
      let outer := { state with regions }
      some ⟨region.close.length, ⟨.other, outer.language⟩, outer, none⟩
    else
      none

/-- The opening of an embedded region. It belongs to the language around the region. -/
def enterRegion? : Option Step :=
  (grammar.embedded.find? fun embedding => rest.beginsWith embedding.opening).map fun embedding =>
    { size := embedding.opening.length
      label := ⟨.other, state.language⟩
      state := { state with regions := ⟨embedding.language, embedding.closing⟩ :: state.regions }
      operand := none }

/-- A line comment, up to the close of the region or the end of the line. -/
def lineComment? : Option Step :=
  (grammar.lineComments.find? rest.beginsWith).map fun opening =>
    { size :=
        match Text.closeOffset? state.close (rest.drop opening.length) with
        | some offset => opening.length + offset
        | none => rest.length
      label := ⟨.comment, state.language⟩
      state
      operand }

/-- A block comment: its opening and its rest. -/
def blockComment? : Option Step :=
  (grammar.blockComments.find? fun comment => rest.beginsWith comment.opening).map fun comment =>
    let opened := { state with commentClose := some comment.closing }
    let body := commentStep opened operand (rest.drop comment.opening.length) comment.closing
    { body with size := comment.opening.length + body.size }

/-- A string, which a quote of the language opens. -/
def string? : Option Step :=
  match rest with
  | [] => none
  | quote :: cs =>
    if grammar.quotes.contains [quote] then
      let size := Text.stringSize state.close quote cs + 1
      some ⟨size, ⟨.string, state.language⟩, state, some quote⟩
    else
      none

/-- A regular expression, where one can stand. -/
def regex? : Option Step :=
  match rest with
  | '/' :: cs =>
    if grammar.regexLiterals && admitsOperand operand then
      (Text.regexSize? cs).map fun size =>
        ⟨size, ⟨.regex, state.language⟩, state, some '/'⟩
    else
      none
  | _ => none

/-- A single character. -/
def charStep : Step :=
  let next :=
    match rest with
    | c :: _ => if Character.isBlank c then operand else some c
    | [] => operand
  ⟨1, ⟨.other, state.language⟩, state, next⟩

/-- What stands at the front of a line outside a block comment. -/
def plainStep : Step :=
  (leaveRegion? state rest
    <|> enterRegion? grammar state rest
    <|> lineComment? grammar state operand rest
    <|> blockComment? grammar state operand rest
    <|> string? grammar state rest
    <|> regex? grammar state operand rest).getD (charStep state operand rest)

/-- One step of the lexer on a line that is not at its end. -/
def step (registry : Registry) : Step :=
  match state.commentClose with
  | some close => commentStep state operand rest close
  | none => plainStep (registry.grammar state.language) state operand rest

/-! ### Progress -/

theorem length_pos_of_beginsWith {text spelling : Text} (h : text.beginsWith spelling) :
    0 < spelling.length := by
  cases spelling with
  | nil => simp [Text.beginsWith] at h
  | cons => simp

theorem commentStep_progress (close : Text) (hrest : rest ≠ []) :
    0 < (commentStep state operand rest close).size ∨
      (commentStep state operand rest close).state.commentClose = none := by
  unfold commentStep
  split
  · exact .inl (List.length_pos_iff.mpr hrest)
  · exact .inr rfl
  · exact .inr rfl
  · split <;> exact .inr rfl

theorem plainStep_progress (hrest : rest ≠ []) :
    0 < (plainStep grammar state operand rest).size := by
  have hpos := List.length_pos_iff.mpr hrest
  unfold plainStep
  generalize hstep : (leaveRegion? state rest <|> _) = step?
  cases step? with
  | none => simp [charStep]
  | some step =>
    simp only [Option.getD_some]
    simp only [Option.orElse_eq_orElse, Option.orElse_eq_or, Option.or_eq_some_iff] at hstep
    rcases hstep with h | ⟨_, h | ⟨_, h | ⟨_, h | ⟨_, h | ⟨_, h⟩⟩⟩⟩⟩
    · unfold leaveRegion? at h
      split at h
      · simp at h
      · split at h
        · rename_i hbegins
          obtain rfl := Option.some.inj h
          exact length_pos_of_beginsWith hbegins
        · simp at h
    · obtain ⟨embedding, hfind, rfl⟩ := Option.map_eq_some_iff.mp h
      have hbegins := List.find?_some hfind
      exact length_pos_of_beginsWith hbegins
    · obtain ⟨opening, hfind, rfl⟩ := Option.map_eq_some_iff.mp h
      have := length_pos_of_beginsWith (List.find?_some hfind)
      dsimp only
      split <;> omega
    · obtain ⟨comment, hfind, rfl⟩ := Option.map_eq_some_iff.mp h
      have hbegins := List.find?_some hfind
      have := length_pos_of_beginsWith hbegins
      dsimp only
      omega
    · unfold string? at h
      split at h
      · simp at h
      · split at h
        · obtain rfl := Option.some.inj h
          simp
        · simp at h
    · unfold regex? at h
      split at h
      · split at h
        · obtain ⟨size, hsize, rfl⟩ := Option.map_eq_some_iff.mp h
          unfold Text.regexSize? at hsize
          split at hsize
          · simp at hsize
          · simp at hsize
          · obtain rfl := Option.some.inj hsize
            dsimp only
            omega
        · simp at h
      · simp at h

/-- A step takes at least one character, or it takes none and ends a block comment. -/
theorem step_progress (registry : Registry) (hrest : rest ≠ []) :
    0 < (step state operand rest registry).size ∨
      (state.commentClose.isSome ∧
        (step state operand rest registry).state.commentClose = none) := by
  unfold step
  split
  · rename_i close hclose
    have hopen : state.commentClose.isSome := by simp [hclose]
    exact (commentStep_progress state operand rest close hrest).imp_right (And.intro hopen)
  · exact .inl (plainStep_progress _ _ _ _ hrest)

/-- Twice the characters that are left, and one more in a block comment. Each step lowers it. -/
def work (state : LineState) (rest : Text) : Nat :=
  2 * rest.length + (if state.commentClose.isSome then 1 else 0)

theorem work_step_lt (registry : Registry) (hrest : rest ≠ []) :
    work (step state operand rest registry).state
        (rest.drop (step state operand rest registry).size) < work state rest := by
  have hpos := List.length_pos_iff.mpr hrest
  unfold work
  rw [List.length_drop]
  rcases step_progress state operand rest registry hrest with h | ⟨hopen, hclosed⟩
  · split <;> split <;> omega
  · rw [if_pos hopen, if_neg (by rw [hclosed]; exact Bool.false_ne_true)]
    omega

/-- The labels of the characters of a line, and the state behind it. -/
def labels (registry : Registry) (state : LineState) (operand : Option Char) (rest : Text) :
    List Label × LineState :=
  if _h : rest = [] then
    ([], state)
  else
    let next := step state operand rest registry
    let (others, last) := labels registry next.state next.operand (rest.drop next.size)
    (List.replicate next.size next.label ++ others, last)
termination_by work state rest
decreasing_by exact work_step_lt state operand rest registry _h

/-- The label of an empty line in a given state. -/
def blankLabel (state : LineState) : Label :=
  ⟨if state.commentClose.isSome then .comment else .other, state.language⟩

/-! ### Tokens -/

/-- The tokens that the steps of a line emit, the last one in front, and the state behind the line.
A number of characters has been taken and some tokens have been emitted before. -/
def emitSteps (registry : Registry) (state : LineState) (operand : Option Char) (offset : Nat)
    (emitted : List Token) (rest : Text) : List Token × LineState :=
  if _h : rest = [] then
    (emitted, state)
  else
    let next := step state operand rest registry
    emitSteps registry next.state next.operand (offset + next.size) (emit offset next.label emitted)
      (rest.drop next.size)
termination_by work state rest
decreasing_by exact work_step_lt state operand rest registry _h

/-- The tokens of a line in their order, and the state behind it. -/
def emission (registry : Registry) (state : LineState) (text : Text) : List Token × LineState :=
  let (emitted, last) := emitSteps registry state none 0 [] text
  ((if emitted.isEmpty then emit 0 (blankLabel last) [] else emitted).reverse, last)

theorem fromFront_emitSteps (registry : Registry) (state : LineState) (operand : Option Char)
    (rest : Text) {offset : Nat} {emitted : List Token} (h : FromFront offset emitted) :
    FromFront 0 (emitSteps registry state operand offset emitted rest).1 := by
  by_cases hrest : rest = []
  · rw [emitSteps, dif_pos hrest]
    cases hlast : emitted.getLast? with
    | none =>
      rw [FromFront, hlast]
      rfl
    | some first =>
      rw [FromFront, hlast] at h ⊢
      exact h
  · rw [emitSteps, dif_neg hrest]
    exact fromFront_emitSteps registry _ _ _ (fromFront_emit h _ _)
termination_by work state rest
decreasing_by exact work_step_lt state operand rest registry hrest

/-- The first token of a line starts at its front. -/
theorem start_head?_emission (registry : Registry) (state : LineState) (text : Text) :
    (emission registry state text).1.head?.map (·.start) = some 0 := by
  have hfront := fromFront_emitSteps registry state none text fromFront_nil
  rw [emission]
  generalize emitSteps registry state none 0 [] text = result at hfront ⊢
  obtain ⟨emitted, last⟩ := result
  cases emitted with
  | nil => rfl
  | cons token tokens =>
    rw [FromFront, List.getLast?_eq_some_getLast (List.cons_ne_nil token tokens)] at hfront
    dsimp only
    rw [List.head?_reverse, List.isEmpty_cons, if_neg Bool.false_ne_true,
      List.getLast?_eq_some_getLast (List.cons_ne_nil token tokens)]
    exact congrArg some hfront

/-- The tokens of a line, and the state behind it. -/
def tokenize (registry : Registry) (state : LineState) (text : Text) : TokenizedLine × LineState :=
  let result := emission registry state text
  (.ofFront text result.1 (start_head?_emission registry state text), result.2)

/-- The tokens of lines that follow each other, each with the state behind it. -/
def tokenizeLines (registry : Registry) : LineState → List Text → List (TokenizedLine × LineState)
  | _, [] => []
  | state, text :: texts =>
    let line := tokenize registry state text
    line :: tokenizeLines registry line.2 texts

end Indentation.Lexer
