import Indentation.Proofs.Steps

/-!
# Runs of the lexer on a line

The lexer goes from place to place: each step takes some characters of the line and leaves a state
behind them. A place is reached by a run of steps, and what the lexer says about the rest of the
line from there on is what it says about the whole line behind that place.

## Main definitions

* `Lexer.Place` — where the lexer stands in a line
* `Lexer.Place.next` — the place behind one step
* `Lexer.Reaches` — a run of steps that takes a number of characters
* `Lexer.stateBehind` — the state behind lines that follow each other

## Main results

* `Lexer.Place.commentCase`, `Lexer.Place.plainCase` — the step inside and outside a comment
* `Lexer.Place.induction` — what holds at the end of a line and before each step holds everywhere
* `Lexer.Place.length_labels` — every character gets one label
* `Lexer.Reaches.drop_labels` — labels behind a reached place
* `Lexer.Place.exists_reaches` — every character is taken by a step of the run
* `Lexer.exists_of_mem_tokenizeLines` — what lexing a line keeps, lexing several lines keeps
-/

namespace Indentation.Lexer

/-- Where the lexer stands in a line: the state and the operand mark it has there, and the
characters that are left. -/
structure Place where
  state : LineState
  operand : Option Char
  rest : Text
  deriving DecidableEq, Repr

namespace Place

variable (registry : Registry) (place : Place)

/-- The front of a line. -/
def front (state : LineState) (text : Text) : Place :=
  ⟨state, none, text⟩

/-- The step that the lexer takes at a place. -/
def step : Step :=
  Lexer.step place.state place.operand place.rest registry

/-- The place behind the step. -/
def next : Place :=
  ⟨(place.step registry).state, (place.step registry).operand,
    place.rest.drop (place.step registry).size⟩

/-- The labels of the characters that are left, and the state behind them. -/
def labels : List Label × LineState :=
  Lexer.labels registry place.state place.operand place.rest

variable {registry place}

/-- Each step lowers the work that is left, so an argument can follow the steps of the lexer. -/
theorem induction (registry : Registry) {motive : Place → Prop}
    (stop : ∀ place : Place, place.rest = [] → motive place)
    (step : ∀ place : Place, place.rest ≠ [] → motive (place.next registry) → motive place)
    (place : Place) : motive place := by
  by_cases hrest : place.rest = []
  · exact stop place hrest
  · exact step place hrest (induction registry stop step (place.next registry))
termination_by work place.state place.rest
decreasing_by exact work_step_lt place.state place.operand place.rest registry hrest

theorem labels_of_rest_eq_nil (hrest : place.rest = []) :
    place.labels registry = ([], place.state) := by
  rw [labels, Lexer.labels, dif_pos hrest]

theorem labels_of_rest_ne_nil (hrest : place.rest ≠ []) :
    place.labels registry =
      (List.replicate (place.step registry).size (place.step registry).label ++
        ((place.next registry).labels registry).1, ((place.next registry).labels registry).2) := by
  rw [labels, Lexer.labels, dif_neg hrest]
  rfl

theorem labels_of_step_eq {step : Step} (hrest : place.rest ≠ [])
    (hstep : place.step registry = step) :
    place.labels registry =
      (List.replicate step.size step.label ++
        (labels registry ⟨step.state, step.operand, place.rest.drop step.size⟩).1,
        (labels registry ⟨step.state, step.operand, place.rest.drop step.size⟩).2) := by
  subst hstep
  exact labels_of_rest_ne_nil hrest

theorem step_size_le (registry : Registry) (hrest : place.rest ≠ []) :
    (place.step registry).size ≤ place.rest.length :=
  Lexer.step_size_le place.state place.operand place.rest registry hrest

/-- The lexer gives one label to every character. -/
theorem length_labels : (place.labels registry).1.length = place.rest.length := by
  induction place using induction registry with
  | stop place hrest => simp [labels_of_rest_eq_nil hrest, hrest]
  | step place hrest ih =>
    have hsize := step_size_le registry hrest
    rw [labels_of_rest_ne_nil hrest, List.length_append, List.length_replicate, ih]
    simp only [next, List.length_drop]
    omega

end Place

section Steps

variable {registry : Registry} {place : Place}

theorem step_of_commentClose {close : Text} (hopen : place.state.commentClose = some close) :
    place.step registry = commentStep place.state place.operand place.rest close := by
  rw [Place.step, step, hopen]

theorem step_of_no_comment (hopen : place.state.commentClose = none) :
    place.step registry =
      plainStep (registry.grammar place.state.language) place.state place.operand place.rest := by
  rw [Place.step, step, hopen]

theorem Place.commentCase {close : Text} (hopen : place.state.commentClose = some close) :
    CommentCase place.state place.operand place.rest close (place.step registry) := by
  rw [step_of_commentClose hopen]
  exact Lexer.commentCase ..

theorem Place.plainCase (hopen : place.state.commentClose = none) :
    PlainCase (registry.grammar place.state.language) place.state place.operand place.rest
      (place.step registry) := by
  rw [step_of_no_comment hopen]
  exact Lexer.plainCase ..

theorem CommentCase.step_eq {close : Text} {step : Step}
    (hopen : place.state.commentClose = some close)
    (h : CommentCase place.state place.operand place.rest close step) :
    place.step registry = step :=
  (step_of_commentClose hopen).trans h.eq

theorem PlainCase.step_eq {step : Step} (hopen : place.state.commentClose = none)
    (h : PlainCase (registry.grammar place.state.language) place.state place.operand place.rest
      step) :
    place.step registry = step :=
  (step_of_no_comment hopen).trans h.eq

/-- A comment is left open only at the end of the line. -/
theorem commentClose_next_eq_none (hmore : (place.next registry).rest ≠ []) :
    (place.next registry).state.commentClose = none := by
  rw [Place.next] at hmore ⊢
  dsimp only at hmore ⊢
  cases hopen : place.state.commentClose with
  | some close => exact (Place.commentCase hopen).commentClose_eq_none hmore
  | none =>
    have hcase := @Place.plainCase registry place hopen
    generalize place.step registry = step at hcase hmore ⊢
    cases hcase with
    | blockComment _ _ _ _ hbody =>
      rw [← List.drop_drop] at hmore
      have hnone := hbody.commentClose_eq_none hmore
      exact hnone
    | leave | enter | lineComment | string | regex | char => exact hopen

end Steps

/-- `Reaches registry place n target`: from `place` some steps lead to `target` and take `n`
characters. -/
inductive Reaches (registry : Registry) : Place → Nat → Place → Prop where
  | refl (place : Place) : Reaches registry place 0 place
  | step {place target : Place} {n : Nat} (hrest : place.rest ≠ [])
      (h : Reaches registry (place.next registry) n target) :
      Reaches registry place ((place.step registry).size + n) target

namespace Reaches

variable {registry : Registry} {place middle target : Place} {m n : Nat}

theorem single (hrest : place.rest ≠ []) :
    Reaches registry place (place.step registry).size (place.next registry) :=
  .step hrest (.refl _)

theorem trans (h : Reaches registry place m middle) (h' : Reaches registry middle n target) :
    Reaches registry place (m + n) target := by
  induction h with
  | refl => rwa [Nat.zero_add]
  | step hrest _ ih =>
    rw [Nat.add_assoc]
    exact .step hrest (ih h')

theorem rest_eq (h : Reaches registry place n target) : target.rest = place.rest.drop n := by
  induction h with
  | refl => rw [List.drop_zero]
  | step _ _ ih => rw [ih, Place.next, List.drop_drop]

theorem le_length (h : Reaches registry place n target) : n ≤ place.rest.length := by
  induction h with
  | refl => exact Nat.zero_le _
  | step hrest _ ih =>
    have hsize := Place.step_size_le registry hrest
    rw [Place.next, List.length_drop] at ih
    omega

/-- The labels behind a reached place are those the lexer gives from there on, and so is the state
at the end of the line. -/
theorem drop_labels (h : Reaches registry place n target) :
    (place.labels registry).1.drop n = (target.labels registry).1 ∧
      (place.labels registry).2 = (target.labels registry).2 := by
  induction h with
  | refl => exact ⟨List.drop_zero, rfl⟩
  | @step place target n hrest _ ih =>
    have hlength : (List.replicate (place.step registry).size (place.step registry).label).length =
        (place.step registry).size := List.length_replicate
    rw [Place.labels_of_rest_ne_nil hrest, ← List.drop_drop, List.drop_left' hlength]
    exact ih

/-- The characters that a step takes have its label. -/
theorem getElem?_labels (h : Reaches registry place n target) (hrest : target.rest ≠ []) {k : Nat}
    (hk : k < (target.step registry).size) :
    (place.labels registry).1[n + k]? = some (target.step registry).label := by
  rw [← List.getElem?_drop, h.drop_labels.1, Place.labels_of_rest_ne_nil hrest,
    List.getElem?_append_left (by rw [List.length_replicate]; exact hk), List.getElem?_replicate,
    if_pos hk]

end Reaches

/-- Every character is taken by the step at some place that is reached. -/
theorem Place.exists_reaches (registry : Registry) (place : Place) {i : Nat}
    (hi : i < place.rest.length) :
    ∃ n target, Reaches registry place n target ∧ target.rest ≠ [] ∧ n ≤ i ∧
      i - n < (target.step registry).size := by
  induction place using Place.induction registry generalizing i with
  | stop place hrest => exact absurd hi (by simp [hrest])
  | step place hrest ih =>
    rcases Nat.lt_or_ge i (place.step registry).size with hlt | hge
    · exact ⟨0, place, .refl place, hrest, Nat.zero_le i, hlt⟩
    · have hbehind : i - (place.step registry).size < (place.next registry).rest.length := by
        rw [Place.next, List.length_drop]
        omega
      obtain ⟨n, target, hreach, hmore, hle, hlt⟩ := ih hbehind
      exact ⟨_, target, .step hrest hreach, hmore, by omega, by omega⟩

/-- The state behind lines that follow each other. -/
def stateBehind (registry : Registry) (state : LineState) (texts : List Text) : LineState :=
  texts.foldl (fun state text => (tokenize registry state text).2) state

/-- Each of several lines is lexed from a state with every property that lexing a line keeps. -/
theorem exists_of_mem_tokenizeLines {registry : Registry} {motive : LineState → Prop}
    (hkeep : ∀ state text, motive state → motive (tokenize registry state text).2)
    {state : LineState} (hstate : motive state) {texts : List Text}
    {entry : TokenizedLine × LineState} (h : entry ∈ tokenizeLines registry state texts) :
    ∃ before text, motive before ∧ entry = tokenize registry before text := by
  induction texts generalizing state with
  | nil => exact absurd h List.not_mem_nil
  | cons text texts ih =>
    rcases List.mem_cons.mp h with rfl | hmem
    · exact ⟨state, text, hstate, rfl⟩
    · exact ih (hkeep state text hstate) hmem

end Indentation.Lexer
