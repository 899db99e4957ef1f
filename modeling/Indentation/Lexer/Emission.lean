import Indentation.Token

/-!
# Emitting tokens

The steps of the lexer emit their tokens one after the other. A token with the label of the one
before it is no new token. A step may take no characters, and what it emits is then dropped as soon
as the next step emits another label at the same offset; behind the dropped token there may be one
that the new label continues.

## Main definitions

* `Lexer.emit` — the tokens of a line, after one more has been emitted
* `Lexer.FromFront` — the first of the tokens starts at the front of the line

## Main results

* `Lexer.emit_emit` — a label that is emitted again changes nothing
* `Lexer.FromFront.emit` — what is emitted first stays at the front of the line
-/

namespace Indentation.Lexer

/-- Emits a token with a label and a start. Of the tokens emitted before, the last one stands in
front. It goes on if it has the same label, and is dropped if it starts where the new one does. -/
def emit (start : Nat) (label : Label) : List Token → List Token
  | [] => [{ label with start }]
  | last :: others =>
    if last.toLabel = label then
      last :: others
    else if last.start = start then
      emit start label others
    else
      { label with start } :: last :: others

variable {start offset : Nat} {label : Label} {emitted : List Token}

theorem head?_emit (start : Nat) (label : Label) (emitted : List Token) :
    (emit start label emitted).head?.map (·.toLabel) = some label := by
  induction emitted with
  | nil => rfl
  | cons last others ih =>
    rw [emit]
    split
    · rename_i hlabel
      exact congrArg some hlabel
    · split
      · exact ih
      · rfl

theorem emit_of_head? {last : Token} {others : List Token} (h : last.toLabel = label) :
    emit start label (last :: others) = last :: others := by
  rw [emit, if_pos h]

/-- A label that is emitted twice in a row is emitted once, wherever the second token starts. So a
block comment may be emitted with its opening and again with its body. -/
theorem emit_emit (start offset : Nat) (label : Label) (emitted : List Token) :
    emit offset label (emit start label emitted) = emit start label emitted := by
  have hhead := head?_emit start label emitted
  generalize emit start label emitted = tokens at hhead ⊢
  cases tokens with
  | nil => cases hhead
  | cons last others => exact emit_of_head? (Option.some.inj hhead)

/-- The first token starts at offset 0, or there is none yet and the line is at offset 0. -/
def FromFront (offset : Nat) (emitted : List Token) : Prop :=
  (emitted.getLast?.map (·.start)).getD offset = 0

theorem fromFront_nil : FromFront 0 [] := rfl

theorem FromFront.emit (h : FromFront start emitted) (label : Label) :
    (emit start label emitted).getLast?.map (·.start) = some 0 := by
  induction emitted with
  | nil => exact congrArg some h
  | cons last others ih =>
    have hlast : (last :: others).getLast?.map (·.start) = some 0 := by
      rw [List.getLast?_eq_some_getLast (List.cons_ne_nil last others)]
      rw [FromFront, List.getLast?_eq_some_getLast (List.cons_ne_nil last others)] at h
      exact congrArg some h
    rw [Lexer.emit]
    split
    · exact hlast
    · split
      · rename_i hstart
        apply ih
        -- a token that is dropped may have been the only one, and then it started at offset 0
        cases others with
        | nil => exact hstart ▸ Option.some.inj hlast
        | cons next others =>
          rw [List.getLast?_cons_cons] at hlast
          rw [FromFront, hlast]
          rfl
      · rw [List.getLast?_cons_cons]
        exact hlast

theorem fromFront_emit (h : FromFront start emitted) (label : Label) (offset : Nat) :
    FromFront offset (emit start label emitted) := by
  rw [FromFront, h.emit]
  rfl

end Indentation.Lexer
