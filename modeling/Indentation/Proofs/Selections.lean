import Indentation.Proofs.TextBelow

/-!
# Selections and columns

A selection has the text before it and above it that a caret at its start has. The text behind it is
cut at the end of the scope of its start, so it is the text behind a caret at its end if that caret
stands in the scope too. A caret is nothing special: it has the text behind it that an empty
selection would have.

Columns are arbitrary numbers. Each of them stands for an offset of its line, and one outside of the
line for the nearest end, at both ends of a range and whether or not the range is empty. Lines are
not moved: a range that needs a line which is not there has no context.

## Main definitions

* `Range.clampColumns` — a range whose columns are moved into their lines

## Main results

* `TokenizedLine.WellPlaced.textAfter_eq_textAfterSelection` — carets are empty selections
* `TokenizedLine.Canonical.ofLines_congr` — only the offsets of the columns count
* `Document.selection_agrees_with_carets` — a selection in one line, and its two carets
* `Document.extractContext_clamps` — columns are moved into their lines, and lines are not moved
-/

namespace Indentation

open TokenizedLine

/-- The range with its columns moved into lines with the given last columns. -/
def Range.clampColumns (range : Range) (maxStart maxStop : Int) : Range :=
  ⟨⟨range.start.line, max 1 (min range.start.column maxStart)⟩,
    ⟨range.stop.line, max 1 (min range.stop.column maxStop)⟩⟩

/-! ### Text behind a selection -/

namespace TokenizedLine

variable {line last : TokenizedLine} {registry : Registry} {column column' : Int}

theorem slice_congr {start start' : Int} (h : line.clampOffset start = line.clampOffset start')
    (stop : Int) : line.slice start stop = line.slice start' stop := by
  rw [slice, slice, h]

theorem clampOffset_min (line : TokenizedLine) (offset : Int) (stop : Nat) :
    line.clampOffset (min offset stop) = min (line.clampOffset offset) stop := by
  rw [clampOffset, clampOffset]
  omega

/-- Of the column where a selection stops only the offset counts. -/
theorem textAfterSelection_congr (scope : Scope)
    (h : last.clampOffset (column - 1) = last.clampOffset (column' - 1)) :
    Context.textAfterSelection registry scope last column =
      Context.textAfterSelection registry scope last column' := by
  rw [Context.textAfterSelection, Context.textAfterSelection]
  congr 1
  apply slice_congr
  rw [clampOffset_min, clampOffset_min, h]

/-- There is nothing behind a selection that stops at the end of the scope or behind it. -/
theorem textAfterSelection_eq_nil {scope : Scope} (h : (scope.stopChar : Int) ≤ column - 1) :
    Context.textAfterSelection registry scope last column = [] := by
  rw [Context.textAfterSelection, Int.min_eq_right h]
  apply sanitize_of_text_eq_nil
  rw [slice_text, Nat.max_self, ← List.length_eq_zero_iff, Text.length_slice]
  omega

namespace WellPlaced

/-- Behind a caret stands what stands behind an empty selection. -/
theorem textAfter_eq_textAfterSelection (h : line.WellPlaced) (column : Int) :
    Context.textAfter registry (line.scopeAt (column - 1)) line column =
      Context.textAfterSelection registry (line.scopeAt (column - 1)) line column := by
  rw [Context.textAfter, Context.textAfterSelection, h.sliceLine_after]
  congr 1
  apply slice_congr
  rw [clampOffset_min, clampOffset_of_le (line.clampOffset_le _),
    Nat.min_eq_left (h.clampOffset_mem _).2]

/-- Up to the end of a scope, the offsets behind one that has this scope have it too. -/
theorem scopeAt_eq_of_lt (h : line.WellPlaced) {offset other : Int} (hlt : offset < other)
    (hstop : other < (line.scopeAt offset).stopChar) :
    line.scopeAt other = line.scopeAt offset := by
  have hresolves := h.resolves offset
  by_cases hneg : other < 0
  · -- both offsets are in front of the line
    rw [scopeAt, scopeAt, find_of_neg hneg, find_of_neg (Int.lt_trans hlt hneg)]
  · refine hresolves.same other ?_ hstop
    by_cases hoffset : offset < 0
    · rw [h.firstChar_of_neg hoffset]
      omega
    · have hlength := hresolves.stopChar_le
      have hmem := hresolves.mem (by omega) (by omega)
      omega

/-- Behind a selection in one line stands what stands behind a caret at its end, if that caret has
the scope of the start or this scope ends the line. -/
theorem textAfterSelection_eq_textAfter (h : line.WellPlaced) (hlt : column < column')
    (hscope : column' - 1 < (line.scopeAt (column - 1)).stopChar ∨
      (line.scopeAt (column - 1)).stopChar = line.text.length) :
    Context.textAfterSelection registry (line.scopeAt (column - 1)) line column' =
      Context.textAfter registry (line.scopeAt (column' - 1)) line column' := by
  rw [h.textAfter_eq_textAfterSelection]
  by_cases hinside : column' - 1 < (line.scopeAt (column - 1)).stopChar
  · rw [h.scopeAt_eq_of_lt (by omega) hinside]
  · -- both the selection and the caret reach the end of the line
    have hend := hscope.resolve_left hinside
    have hlast : (line.scopeAt (column' - 1)).stopChar = line.text.length :=
      h.stopChar_of_length_le (by omega)
    rw [textAfterSelection_eq_nil (by omega), textAfterSelection_eq_nil (by omega)]

end WellPlaced

/-! ### Columns and offsets -/

/-- The context of a range, in which a caret counts as an empty selection. -/
theorem WellPlaced.ofLines_eq (h : line.WellPlaced) {range : Range}
    (hempty : range.isEmpty → last = line) (above? : Option TokenizedLine) :
    Context.ofLines registry line last above? range =
      ⟨Context.textBefore registry (line.scopeAt (range.start.column - 1)) line range.start.column,
        Context.textAfterSelection registry (line.scopeAt (range.start.column - 1)) last
          range.stop.column,
        Context.textOver registry (line.scopeAt (range.start.column - 1)) above?⟩ := by
  rw [Context.ofLines]
  split
  · rename_i hcaret
    rw [hempty hcaret, ← Range.isEmpty_iff.mp hcaret, h.textAfter_eq_textAfterSelection]
  · rfl

/-- Offsets that are moved to the same place of a canonical line have one scope. -/
theorem Canonical.scopeAt_congr (h : line.Canonical) {offset other : Int}
    (heq : line.clampOffset offset = line.clampOffset other) :
    line.scopeAt offset = line.scopeAt other := by
  rw [scopeAt, scopeAt, h.find_caretIndex offset, h.find_caretIndex other, heq]

/-- Of the columns of a range only the offsets count, also if one range is a caret and the other is
a selection. -/
theorem Canonical.ofLines_congr (h : line.Canonical) {range range' : Range}
    (hstart : line.clampOffset (range.start.column - 1) =
      line.clampOffset (range'.start.column - 1))
    (hstop : last.clampOffset (range.stop.column - 1) = last.clampOffset (range'.stop.column - 1))
    (hempty : range.isEmpty → last = line) (hempty' : range'.isEmpty → last = line)
    (above? : Option TokenizedLine) :
    Context.ofLines registry line last above? range =
      Context.ofLines registry line last above? range' := by
  have hscope := h.scopeAt_congr hstart
  have hplaced := h.wellPlaced
  rw [hplaced.ofLines_eq hempty, hplaced.ofLines_eq hempty', textAfterSelection_congr _ hstop,
    Context.textBefore, Context.textBefore, hplaced.sliceLine_before, hplaced.sliceLine_before,
    hstart, hscope]

theorem clampOffset_clamp (line : TokenizedLine) (column : Int) :
    line.clampOffset (max 1 (min column (line.text.length + 1)) - 1) =
      line.clampOffset (column - 1) := by
  rw [clampOffset, clampOffset]
  omega

end TokenizedLine

/-! ### Ranges in a document -/

namespace Document

variable {document : Document} {range : Range}

/-- A selection in one line has the text before it and above it that a caret at its start has. The
text behind it is that behind a caret at its end, if it stops inside of the scope at its start or if
this scope ends the line; otherwise there is no text behind it. -/
theorem selection_agrees_with_carets (text : Text) (language : String)
    (registry brackets : Registry) (made : Nat) (line column column' : Int)
    (hline : ((ofText text language registry).extend made).Holds line) (hlt : column < column') :
    let document := (ofText text language registry).extend made
    ∃ tokens selection caret caret',
      (Document.tokens line).answer document = .ok tokens ∧
      (extractContext source brackets (.between line column line column')).answer document =
        .ok selection ∧
      (extractContext source brackets (.caret line column)).answer document = .ok caret ∧
      (extractContext source brackets (.caret line column')).answer document = .ok caret' ∧
      selection.before = caret.before ∧ selection.previousLine = caret.previousLine ∧
      let scope := tokens.scopeAt (column - 1)
      ((column' - 1 < scope.stopChar ∨ scope.stopChar = tokens.text.length) →
        selection.after = caret'.after) ∧
      (¬ (column' - 1 < scope.stopChar ∨ scope.stopChar = tokens.text.length) →
        selection.after = []) := by
  intro document
  have h : document.Faithful := (faithful_ofText text language registry).extend made
  obtain ⟨index, tokens, hnumber, hserved⟩ := hline.exists_served
  have hplaced := (canonical_of_served hserved).wellPlaced
  -- the selection and both carets look at the same lines, only their columns differ
  have htokens : (Document.tokens line).answer document = .ok tokens := by
    rw [hnumber]
    exact (document.serves.tokens index tokens hserved).answer_eq h.continues
  have hanswer (range : Range) (hstart : range.start.line = line)
      (hstop : range.stop.line = line) :
      (extractContext source brackets range).answer document = .ok (Context.ofLines brackets tokens
        tokens (lineAbove? (document.lexed.map (·.1)) index) range) :=
    h.answer_extractContext brackets (hstart.trans hnumber) hserved (hstop.trans hnumber) hserved
  refine ⟨tokens, _, _, _, htokens, hanswer (.between line column line column') rfl rfl,
    hanswer (.caret line column) rfl rfl, hanswer (.caret line column') rfl rfl, ?_⟩
  simp only [hplaced.ofLines_eq fun _ => rfl]
  refine ⟨rfl, rfl, fun hscope => ?_, fun hscope => ?_⟩
  · change Context.textAfterSelection brackets (tokens.scopeAt (column - 1)) tokens column' =
      Context.textAfterSelection brackets (tokens.scopeAt (column' - 1)) tokens column'
    rw [hplaced.textAfterSelection_eq_textAfter hlt hscope,
      hplaced.textAfter_eq_textAfterSelection]
  · rw [not_or] at hscope
    exact textAfterSelection_eq_nil (Int.not_lt.mp hscope.1)

/-- A selection that starts in a style sheet and stops behind it, in front of the end of the
line. -/
theorem selection_agrees_with_carets_across_regions :
    let document := (ofText "<style>a{b}</style>c".toList "html" .builtin).extend 0
    let tokens : TokenizedLine := ⟨"<style>a{b}</style>c".toList, ⟨.other, "html"⟩,
      [⟨⟨.other, "css"⟩, 7⟩, ⟨⟨.other, "html"⟩, 11⟩]⟩
    document.Holds 1 ∧ (9 : Int) < 15 ∧ (Document.tokens 1).answer document = .ok tokens ∧
    ¬ ((15 : Int) - 1 < (tokens.scopeAt (9 - 1)).stopChar ∨
      (tokens.scopeAt (9 - 1)).stopChar = tokens.text.length) ∧
    ∃ selection caret,
      (extractContext source .builtin (.between 1 9 1 15)).answer document = .ok selection ∧
      (extractContext source .builtin (.caret 1 9)).answer document = .ok caret ∧
      selection.before = caret.before ∧ selection.after = [] := by
  intro document tokens
  have hline : document.Holds 1 := ⟨by decide, by decide⟩
  have hlt : (9 : Int) < 15 := by decide
  obtain ⟨made, selection, caret, -, hmade, hselection, hcaret, -, hbefore, -, -, hafter⟩ :=
    selection_agrees_with_carets "<style>a{b}</style>c".toList "html" .builtin .builtin 0 1 9 15
      hline hlt
  have hlexed : ((Document.tokens 1).answer document).toOption = some tokens := by decide +kernel
  rw [hmade] at hlexed
  obtain rfl : made = tokens := Option.some.inj hlexed
  have hbehind : ¬ ((15 : Int) - 1 < (tokens.scopeAt (9 - 1)).stopChar ∨
      (tokens.scopeAt (9 - 1)).stopChar = tokens.text.length) := by decide
  exact ⟨hline, hlt, hmade, hbehind, selection, caret, hselection, hcaret, hbefore, hafter hbehind⟩

/-- Without the line of its start, or without that of its end if it is no caret, a range has no
context. -/
theorem Faithful.answer_extractContext_of_missing (h : document.Faithful) (registry : Registry)
    (hmissing : ¬ document.Holds range.start.line ∨
      range.isEmpty = false ∧ ¬ document.Holds range.stop.line) :
    ∃ fault, (extractContext source registry range).answer document = .error fault := by
  by_cases hstart : document.Holds range.start.line
  · -- the first line is made before the last one is found to be missing
    obtain ⟨hempty, hstop⟩ := hmissing.resolve_left (not_not.mpr hstart)
    obtain ⟨line, state, hlexed⟩ := exists_lexed hstart.index?
    have hdemand : (source.demand range.stop.line).exec
        (document.extend ((range.start.line - 1).toNat + 1)) =
        (.error ⟨range.stop.line, document.lineCount⟩, document.extend _) :=
      Faithful.exec_demand_of_error (index?_eq_error hstop)
    refine ⟨⟨range.stop.line, document.lineCount⟩, ?_⟩
    rw [Fetch.answer_eq_exec, extractContext,
      Fetch.exec_bind_of_ok (h.exec_demand hstart.index? hlexed)]
    dsimp only
    rw [if_neg (by simp [hempty]), Fetch.exec_bind_of_error hdemand]
  · refine ⟨⟨range.start.line, document.lineCount⟩, ?_⟩
    rw [Fetch.answer_eq_exec, extractContext,
      Fetch.exec_bind_of_error (Faithful.exec_demand_of_error (index?_eq_error hstart))]

/-- A range whose lines are there has a context, and the columns may as well be moved into their
lines. -/
theorem Faithful.exists_context_clampColumns (h : document.Faithful) (registry : Registry)
    (hstart : document.Holds range.start.line)
    (hstop : range.isEmpty = true ∨ document.Holds range.stop.line) :
    ∃ context maxStart maxStop,
      document.maxColumn range.start.line = .ok maxStart ∧
      document.maxColumn range.stop.line = .ok maxStop ∧
      (extractContext source registry range).answer document = .ok context ∧
      (extractContext source registry (range.clampColumns maxStart maxStop)).answer document =
        .ok context := by
  have hstop' : document.Holds range.stop.line := by
    rcases hstop with hempty | hstop
    · rwa [← Range.isEmpty_iff.mp hempty]
    · exact hstop
  obtain ⟨index, line, hline, hserved⟩ := hstart.exists_served
  obtain ⟨stop, last, hlast, hserved'⟩ := hstop'.exists_served
  obtain ⟨hindex, state, hlexed⟩ := lexed_of_served hserved
  obtain ⟨hindex', state', hlexed'⟩ := lexed_of_served hserved'
  refine ⟨_, (line.text.length : Int) + 1, (last.text.length : Int) + 1, ?_, ?_,
    h.answer_extractContext registry hline hserved hlast hserved', ?_⟩
  · rw [hline, maxColumn_of_lexed hindex hlexed]
  · rw [hlast, maxColumn_of_lexed hindex' hlexed']
  · have hanswer : (extractContext source registry (range.clampColumns (line.text.length + 1)
        (last.text.length + 1))).answer document = .ok _ :=
      h.answer_extractContext registry hline hserved hlast hserved'
    -- a caret has both its ends in one line, before its columns are moved and afterwards
    have hsame (hlines : range.start.line = range.stop.line) : last = line := by
      obtain rfl : index = stop := by omega
      exact Option.some.inj (hserved'.symm.trans hserved)
    rw [hanswer, Except.ok.injEq]
    refine (canonical_of_served hserved).ofLines_congr (line.clampOffset_clamp _)
      (last.clampOffset_clamp _) (fun hempty => ?_) (fun hempty => ?_) _
    · have hlines := Range.line_eq_of_isEmpty hempty
      exact hsame hlines
    · exact hsame (Range.line_eq_of_isEmpty hempty)

/-- Columns are moved into their lines, and lines are not moved. A range has no context exactly if
the line of its start is missing, or that of its end and it is no caret. Otherwise it has the
context of the range whose columns are moved into their lines. The brackets may be looked up in
another registry than the one of the document. -/
theorem extractContext_clamps (text : Text) (language : String) (registry brackets : Registry)
    (made : Nat) (range : Range) :
    let document := (ofText text language registry).extend made
    ((∃ fault, (extractContext source brackets range).answer document = .error fault) ↔
      ¬ document.Holds range.start.line ∨
        range.isEmpty = false ∧ ¬ document.Holds range.stop.line) ∧
    (document.Holds range.start.line → range.isEmpty = true ∨ document.Holds range.stop.line →
      ∃ context maxStart maxStop,
        document.maxColumn range.start.line = .ok maxStart ∧
        document.maxColumn range.stop.line = .ok maxStop ∧
        (extractContext source brackets range).answer document = .ok context ∧
        (extractContext source brackets (range.clampColumns maxStart maxStop)).answer document =
          .ok context) := by
  intro document
  have h : document.Faithful := (faithful_ofText text language registry).extend made
  refine ⟨⟨?_, h.answer_extractContext_of_missing brackets⟩,
    h.exists_context_clampColumns brackets⟩
  rintro ⟨fault, hfault⟩
  -- if both lines were there, the range would have a context
  by_contra hlines
  rw [not_or, not_not, not_and, not_not] at hlines
  have hstop : range.isEmpty = true ∨ document.Holds range.stop.line := by
    cases hempty : range.isEmpty with
    | true => exact .inl rfl
    | false => exact .inr (hlines.2 hempty)
  obtain ⟨context, -, -, -, -, hanswer, -⟩ :=
    h.exists_context_clampColumns brackets hlines.1 hstop
  rw [hfault] at hanswer
  cases hanswer

/-- A selection in front of its line is moved to a caret, which has the same context. -/
theorem extractContext_clamps_to_caret :
    let document := (ofText "ab".toList "python" .builtin).extend 0
    document.Holds 1 ∧ (Range.between 1 (-3) 1 0).isEmpty = false ∧
    (Range.between 1 (-3) 1 0).clampColumns 3 3 = .caret 1 1 ∧
    ∃ context,
      (extractContext source .builtin (.between 1 (-3) 1 0)).answer document = .ok context ∧
      (extractContext source .builtin (.caret 1 1)).answer document = .ok context := by
  intro document
  have hline : document.Holds 1 := ⟨by decide, by decide⟩
  have hmax : document.maxColumn 1 = .ok 3 := rfl
  obtain ⟨-, hclamps⟩ :=
    extractContext_clamps "ab".toList "python" .builtin .builtin 0 (.between 1 (-3) 1 0)
  obtain ⟨context, maxStart, maxStop, hstart, hstop, hcontext, hclamped⟩ :=
    hclamps hline (.inr hline)
  obtain rfl := Except.ok.inj (hmax.symm.trans hstart)
  obtain rfl := Except.ok.inj (hmax.symm.trans hstop)
  exact ⟨hline, by decide, by decide, context, hcontext, hclamped⟩

end Document

end Indentation
