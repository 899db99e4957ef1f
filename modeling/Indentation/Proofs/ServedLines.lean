import Indentation.Proofs.Memo
import Indentation.Proofs.Tiling

/-!
# Sources that serve lines

Whatever looks at lines asks a source for them, and asking may change the source. A source *serves*
some lines if it goes on handing out just these, whatever it has been asked before. Then the context
of a range is a function of the few lines that it looks at: the line of its start, that of its end,
and the one above.

Given lines are served as they are. A document serves its lines as they are lexed from the top, and
a document that begins with these lines serves them too.

## Main definitions

* `Fetch.Gives` — a question has an answer in all states with an invariant, which it keeps
* `LineSource.Serves` — a source hands out some lines in all states with an invariant
* `Context.ofLines` — the context of a range, from the lines that it looks at
* `Document.Continues` — documents with the same first lines

## Main results

* `Fetch.Gives.bind` — questions that are put together
* `LineSource.Serves.gives_extractContext` — the context of a range in lines that are served
* `GivenLines.serves`, `Document.serves` — given lines, and the lines of a document
-/

namespace Indentation

namespace Range

theorem isEmpty_iff {range : Range} : range.isEmpty = true ↔ range.start = range.stop :=
  beq_iff_eq

theorem line_eq_of_isEmpty {range : Range} (h : range.isEmpty = true) :
    range.start.line = range.stop.line :=
  congrArg Position.line (isEmpty_iff.mp h)

@[simp] theorem isEmpty_caret (line column : Int) : (caret line column).isEmpty = true :=
  isEmpty_iff.mpr rfl

end Range

/-! ### Questions with one answer -/

namespace Fetch

variable {ε σ α β : Type} {inv : σ → Prop} {fetch : Fetch ε σ α} {next : α → Fetch ε σ β} {a : α}
  {b : β}

/-- In every state with the invariant the question has this answer, and the invariant is kept. -/
def Gives (inv : σ → Prop) (fetch : Fetch ε σ α) (answer : α) : Prop :=
  ∀ state, inv state → ∃ after, fetch.exec state = (.ok answer, after) ∧ inv after

theorem gives_pure (a : α) : Gives inv (pure a : Fetch ε σ α) a :=
  fun state h => ⟨state, exec_pure a, h⟩

/-- The second question is asked in a state that still has the invariant. -/
theorem Gives.bind (h : fetch.Gives inv a) (hnext : (next a).Gives inv b) :
    (fetch >>= next).Gives inv b := by
  intro state hstate
  obtain ⟨between, hexec, hbetween⟩ := h state hstate
  obtain ⟨after, hexec', hafter⟩ := hnext between hbetween
  exact ⟨after, by rw [exec_bind_of_ok hexec, hexec'], hafter⟩

theorem Gives.answer_eq (h : fetch.Gives inv a) {state : σ} (hstate : inv state) :
    fetch.answer state = .ok a := by
  obtain ⟨after, hexec, -⟩ := h state hstate
  exact congrArg Prod.fst hexec

end Fetch

/-! ### Lines that are served -/

/-- In every state with the invariant the source hands out these lines, counted from 1, and keeps
the invariant. -/
structure LineSource.Serves {ε σ : Type} (source : LineSource ε σ) (inv : σ → Prop)
    (lines : List TokenizedLine) : Prop where
  force : ∀ (index : Nat) line, lines[index]? = some line →
    (source.force (index + 1)).Gives inv ()
  tokens : ∀ (index : Nat) line, lines[index]? = some line →
    (source.tokens (index + 1)).Gives inv line
  maxColumn : ∀ (index : Nat) line, lines[index]? = some line →
    (source.maxColumn (index + 1)).Gives inv (line.text.length + 1)

/-- The line above the one at an index. -/
def lineAbove? (lines : List TokenizedLine) : Nat → Option TokenizedLine
  | 0 => none
  | index + 1 => lines[index]?

namespace Context

/-- The text above a scope whose line has `above?` above it. -/
def textOver (registry : Registry) (scope : Scope) : Option TokenizedLine → Text
  | some above =>
    if scope.startsLine then textAbove registry scope above (above.text.length + 1) else []
  | none => []

/-- The context of a range that starts in `line` and ends in `last`, with `above?` above. -/
def ofLines (registry : Registry) (line last : TokenizedLine) (above? : Option TokenizedLine)
    (range : Range) : Context :=
  let scope := line.scopeAt (range.start.column - 1)
  { before := textBefore registry scope line range.start.column
    after :=
      if range.isEmpty then
        textAfter registry scope line range.start.column
      else
        textAfterSelection registry scope last range.stop.column
    previousLine := textOver registry scope above? }

end Context

namespace LineSource.Serves

variable {ε σ : Type} {source : LineSource ε σ} {inv : σ → Prop} {lines : List TokenizedLine}
  {index stop : Nat} {line last : TokenizedLine}

theorem demand (h : source.Serves inv lines) (hline : lines[index]? = some line) :
    (source.demand (index + 1)).Gives inv line :=
  (h.force index line hline).bind (h.tokens index line hline)

/-- The text above a scope is looked for in the line above, if there is one and the scope opens its
line. -/
theorem gives_textOver (h : source.Serves inv lines) (hindex : index < lines.length)
    (registry : Registry) (scope : Scope) (before after : Text) :
    Fetch.Gives inv
      (if 1 ≤ (index + 1 : Int) - 1 ∧ scope.startsLine then
        source.demand ((index + 1 : Int) - 1) >>= fun above =>
          source.maxColumn ((index + 1 : Int) - 1) >>= fun maxColumn =>
            pure (Context.textAbove registry scope above maxColumn) >>= fun previousLine =>
              pure (Context.mk before after previousLine)
      else
        pure [] >>= fun previousLine => pure (Context.mk before after previousLine))
      (Context.mk before after (Context.textOver registry scope (lineAbove? lines index))) := by
  cases index with
  | zero =>
    -- the first line has none above it, whatever its scope
    rw [if_neg (by omega)]
    exact Fetch.gives_pure _
  | succ index =>
    have habove : lines[index]? = some lines[index] := List.getElem?_eq_getElem (by omega)
    have hline : ((index + 1 : Nat) + 1 : Int) - 1 = index + 1 := by omega
    rw [hline, lineAbove?, habove, Context.textOver]
    by_cases hstarts : scope.startsLine
    · rw [if_pos ⟨by omega, hstarts⟩, if_pos hstarts]
      exact (h.demand habove).bind ((h.maxColumn index _ habove).bind (Fetch.gives_pure _))
    · rw [if_neg fun hand => hstarts hand.2, if_neg hstarts]
      exact Fetch.gives_pure _

/-- The context of a range in lines that are served. -/
theorem gives_extractContext (h : source.Serves inv lines) (registry : Registry) {range : Range}
    (hline : range.start.line = index + 1) (hstart : lines[index]? = some line)
    (hlast : range.stop.line = stop + 1) (hstop : lines[stop]? = some last) :
    (extractContext source registry range).Gives inv
      (Context.ofLines registry line last (lineAbove? lines index) range) := by
  have hindex := (List.getElem?_eq_some_iff.mp hstart).1
  rw [extractContext, Context.ofLines, hline, hlast]
  refine (h.demand hstart).bind ?_
  dsimp only
  -- only a selection asks for a second line
  split
  · exact (Fetch.gives_pure _).bind (h.gives_textOver hindex registry _ _ _)
  · exact (h.demand hstop).bind
      ((Fetch.gives_pure _).bind (h.gives_textOver hindex registry _ _ _))

end LineSource.Serves

/-! ### Given lines -/

namespace GivenLines

/-- Given lines are handed out as they are. -/
theorem serves (lines : List TokenizedLine) :
    source.Serves (fun given => given.lines = lines) lines := by
  have hfetch (index : Nat) (line : TokenizedLine) (hline : lines[index]? = some line) :
      (fetch (index + 1)).Gives (fun given => given.lines = lines) line := by
    rintro given rfl
    refine ⟨given, ?_, rfl⟩
    have hget : (get : Fetch Fault GivenLines GivenLines).exec given = (.ok given, given) := rfl
    have hline? : given.line? (index + 1) = some line := by
      rw [line?, if_pos (by omega), Int.add_sub_cancel, Int.toNat_natCast, hline]
    rw [fetch, Fetch.exec_bind_of_ok hget, hline?]
    rfl
  refine ⟨fun index _ _ => ?_, hfetch, fun index line hline => ?_⟩
  · rintro given rfl
    exact ⟨{ given with forced := (index + 1 : Int) :: given.forced }, rfl, rfl⟩
  · exact (hfetch index line hline).bind (Fetch.gives_pure _)

end GivenLines

/-! ### Documents -/

namespace Lexer

variable (registry : Registry) (state : LineState)

theorem map_text_tokenizeLines (texts : List Text) :
    (tokenizeLines registry state texts).map (·.1.text) = texts := by
  induction texts generalizing state with
  | nil => rfl
  | cons text texts ih => rw [tokenizeLines, List.map_cons, ih, tokenize_text]

end Lexer

namespace Document

section Lines

variable {document : Document} {line : Int} {index : Nat} {tokens : TokenizedLine}
  {state : LineState}

theorem getElem?_lines_of_lexed (hlexed : document.lexed[index]? = some (tokens, state)) :
    document.lines[index]? = some tokens.text := by
  rw [← Lexer.map_text_tokenizeLines document.registry (.initial document.language)
    document.lines, List.getElem?_map, ← lexed, hlexed]
  rfl

theorem maxColumn_of_lexed (hindex : document.index? line = .ok index)
    (hlexed : document.lexed[index]? = some (tokens, state)) :
    document.maxColumn line = .ok ((tokens.text.length : Int) + 1) := by
  rw [maxColumn, content, hindex]
  change Except.ok (((document.lines[index]?.getD []).length : Int) + 1) = _
  rw [getElem?_lines_of_lexed hlexed]
  rfl

theorem exec_maxColumn (hindex : document.index? line = .ok index)
    (hlexed : document.lexed[index]? = some (tokens, state)) :
    (Document.source.maxColumn line).exec document =
      (.ok ((tokens.text.length : Int) + 1), document) := by
  rw [← maxColumn_of_lexed hindex hlexed]
  exact exec_read (·.maxColumn line)

theorem exists_lexed (hindex : document.index? line = .ok index) :
    ∃ tokens state, document.lexed[index]? = some (tokens, state) := by
  have hlt : index < document.lexed.length := by
    rw [length_lexed]
    exact (index?_eq_ok_iff.mp hindex).2
  exact ⟨_, _, List.getElem?_eq_getElem hlt⟩

/-- A line that is served is one of the document's lines. -/
theorem lexed_of_served (hserved : (document.lexed.map (·.1))[index]? = some tokens) :
    document.index? (index + 1) = .ok index ∧
      ∃ state, document.lexed[index]? = some (tokens, state) := by
  rw [List.getElem?_map, Option.map_eq_some_iff] at hserved
  obtain ⟨⟨_, state⟩, hlexed, rfl⟩ := hserved
  have hlt := (List.getElem?_eq_some_iff.mp hlexed).1
  rw [length_lexed] at hlt
  exact ⟨index?_eq_ok_iff.mpr ⟨rfl, hlt⟩, state, hlexed⟩

end Lines

/-- A document that begins with the lines of `top`, in the same language. -/
structure Continues (top document : Document) : Prop where
  registry_eq : document.registry = top.registry
  language_eq : document.language = top.language
  lines_begin : top.lines <+: document.lines
  faithful : document.Faithful

namespace Continues

variable {top document : Document} {line : Int} {index : Nat}

theorem extend (h : top.Continues document) (count : Nat) :
    top.Continues (document.extend count) :=
  ⟨h.registry_eq, h.language_eq, h.lines_begin, h.faithful.extend count⟩

theorem lineCount_le (h : top.Continues document) : top.lineCount ≤ document.lineCount :=
  h.lines_begin.length_le

theorem index?_eq (h : top.Continues document) (hline : top.index? line = .ok index) :
    document.index? line = .ok index := by
  obtain ⟨hindex, hlt⟩ := index?_eq_ok_iff.mp hline
  exact index?_eq_ok_iff.mpr ⟨hindex, hlt.trans_le h.lineCount_le⟩

/-- The first lines are lexed before the others, so these do not matter. -/
theorem lexed_eq (h : top.Continues document) (hindex : index < top.lineCount) :
    document.lexed[index]? = top.lexed[index]? := by
  obtain ⟨below, hlines⟩ := h.lines_begin
  have hlexed : document.lexed = top.lexed ++ Lexer.tokenizeLines top.registry
      (Lexer.stateBehind top.registry (.initial top.language) top.lines) below := by
    rw [lexed, h.registry_eq, h.language_eq, ← hlines, Lexer.tokenizeLines_append, ← lexed]
  rw [hlexed, List.getElem?_append_left]
  rwa [length_lexed]

end Continues

theorem Faithful.continues {document : Document} (h : document.Faithful) :
    document.Continues document :=
  ⟨rfl, rfl, List.prefix_refl _, h⟩

/-- The lines of a document, lexed from the top, are handed out by all documents that begin with
them. -/
theorem serves (top : Document) : source.Serves top.Continues (top.lexed.map (·.1)) := by
  have hlexed {index : Nat} {tokens : TokenizedLine} {document : Document}
      (hserved : (top.lexed.map (·.1))[index]? = some tokens) (h : top.Continues document) :
      document.index? (index + 1) = .ok index ∧
        ∃ state, document.lexed[index]? = some (tokens, state) := by
    obtain ⟨hindex, state, hget⟩ := lexed_of_served hserved
    exact ⟨h.index?_eq hindex, state, (h.lexed_eq (index?_eq_ok_iff.mp hindex).2).trans hget⟩
  refine ⟨fun index tokens hserved document h => ?_, fun index tokens hserved document h => ?_,
    fun index tokens hserved document h => ?_⟩
  · exact ⟨_, exec_force_of_ok (hlexed hserved h).1, h.extend _⟩
  · obtain ⟨hindex, state, hget⟩ := hlexed hserved h
    exact ⟨_, h.faithful.exec_tokens hindex hget, h.extend _⟩
  · obtain ⟨hindex, state, hget⟩ := hlexed hserved h
    exact ⟨_, exec_maxColumn hindex hget, h⟩

/-- The context of a range in a document, from the lines of the document. -/
theorem Faithful.answer_extractContext {document : Document} (h : document.Faithful)
    (registry : Registry) {range : Range} {index stop : Nat} {line last : TokenizedLine}
    (hline : range.start.line = index + 1)
    (hstart : (document.lexed.map (·.1))[index]? = some line)
    (hlast : range.stop.line = stop + 1)
    (hstop : (document.lexed.map (·.1))[stop]? = some last) :
    (extractContext source registry range).answer document = .ok (Context.ofLines registry line last
      (lineAbove? (document.lexed.map (·.1)) index) range) :=
  (document.serves.gives_extractContext registry hline hstart hlast hstop).answer_eq h.continues

end Document

end Indentation
