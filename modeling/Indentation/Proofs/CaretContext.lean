import Indentation.Proofs.Cleaning
import Indentation.Proofs.Scopes
import Indentation.Proofs.ServedLines

/-!
# The context of a caret by character

The context of a caret, told from the labels of single characters. The scope of a character grows to
both sides for as long as the characters have its language; of an empty line the scope is empty, and
its language is that of the label which stands for the line. The text before and behind the caret is
what cleaning leaves of the scope on either side of it. If the scope opens its line and the line
above ends in the same language, the text above is what cleaning leaves of the end of that line in
this language.

The context that is extracted through tokens, their scopes and slices is this one.

## Main definitions

* `LabelledLine` — the characters of a line with their labels
* `LabelledLine.scopeStart`, `LabelledLine.scopeStop` — the scope of a character
* `LabelledLine.caretContext`, `Document.caretContext?` — the context of a caret

## Main results

* `LabelledLine.isRun_scope` — the scope of a character is maximal
* `TokenizedLine.Canonical.covers_scopeAt` — the scope through tokens is the scope by character
* `TokenizedLine.Canonical.ofLines_caret` — the context of a caret in canonical lines
* `Document.answer_extractContext_caret` — the context that is extracted
-/

namespace Indentation

/-- The characters of a line with their labels, and the label of the line if it is empty. -/
structure LabelledLine where
  cells : List (Char × Label)
  blank : Label
  deriving DecidableEq, Repr

namespace LabelledLine

variable (line : LabelledLine)

/-- The number of characters. -/
def length : Nat :=
  line.cells.length

/-- The language of a character, or of the line if it is empty. -/
def languageAt (index : Nat) : String :=
  ((line.cells[index]?.map (·.2)).getD line.blank).language

/-- The first character of the scope of a character. -/
def scopeStart (index : Nat) : Nat :=
  index - ((line.cells.take index).reverse.takeWhile
    fun cell => cell.2.language = line.languageAt index).length

/-- The character behind the scope of a character. -/
def scopeStop (index : Nat) : Nat :=
  index + ((line.cells.drop index).takeWhile
    fun cell => cell.2.language = line.languageAt index).length

/-- The cells from one offset up to but not including another one. -/
def between (start stop : Nat) : List (Char × Label) :=
  (line.cells.take stop).drop start

/-- The character whose scope counts for a caret at an offset: the one behind the caret or, at the
end of the line, the last one. -/
def caretIndex (offset : Nat) : Nat :=
  min offset (line.length - 1)

/-- What is left of the text above a scope in a language: the end of the line in that language. -/
def textAbove (registry : Registry) (language : String) : Text :=
  let last := line.caretIndex line.length
  if line.languageAt last = language then
    registry.clean language (line.between (line.scopeStart last) line.length)
  else
    []

/-- The context of a caret at an offset of a line, with the line above it if there is one. -/
def caretContext (registry : Registry) (above? : Option LabelledLine) (offset : Nat) : Context :=
  let index := line.caretIndex offset
  let language := line.languageAt index
  { before := registry.clean language (line.between (line.scopeStart index) offset)
    after := registry.clean language (line.between offset (line.scopeStop index))
    previousLine :=
      match above? with
      | some above => if line.scopeStart index = 0 then above.textAbove registry language else []
      | none => [] }

end LabelledLine

/-- The characters of a tokenized line with their labels. -/
def TokenizedLine.labelled (line : TokenizedLine) : LabelledLine :=
  ⟨line.cells, line.first⟩

/-- The lines of a document with the labels of their characters, lexed from the top. -/
def Document.labelledLines (document : Document) : List LabelledLine :=
  document.lexed.map fun (line, _) => line.labelled

/-- The context of a caret in a document, told from the labels of the characters. The column is
moved into the line. -/
def Document.caretContext? (document : Document) (line column : Int) : Option Context := do
  let index := (line - 1).toNat
  let current ← document.labelledLines[index]?
  let above? := if 1 < line then document.labelledLines[index - 1]? else none
  return current.caretContext document.registry above? (min (column - 1).toNat current.length)

/-! ### Scopes by character -/

namespace LabelledLine

variable {line : LabelledLine}

/-- The scope of a character is the longest stretch of one language around it. -/
theorem isRun_scope {index : Nat} (h : index < line.length) :
    IsRun line.languageAt line.length index (line.scopeStart index) (line.scopeStop index) := by
  have hcell : line.cells[index]? = some line.cells[index] := List.getElem?_eq_getElem h
  have hlanguage : line.languageAt index = line.cells[index].2.language := by
    rw [languageAt, hcell]
    rfl
  -- the character itself has its own language, so that growing may as well begin behind it
  have hstop : line.scopeStop index = index + 1 + ((line.cells.drop (index + 1)).takeWhile
      fun cell => cell.2.language = line.cells[index].2.language).length := by
    rw [scopeStop, hlanguage, List.drop_eq_getElem_cons h,
      List.takeWhile_cons_of_pos (by simp), List.length_cons]
    omega
  rw [hstop, scopeStart, hlanguage]
  refine (isRun_grow (fun cell : Char × Label => cell.2.language) hcell).congr fun i hi => ?_
  rw [hlanguage, languageAt, List.getElem?_eq_getElem hi, hcell]
  simp

theorem scope_of_length_eq_zero (h : line.length = 0) :
    line.scopeStart 0 = 0 ∧ line.scopeStop 0 = 0 := by
  have hcells : line.cells = [] := List.eq_nil_of_length_eq_zero h
  refine ⟨Nat.zero_sub _, ?_⟩
  rw [scopeStop, hcells]
  rfl

theorem caretIndex_of_length_eq_zero (h : line.length = 0) (offset : Nat) :
    line.caretIndex offset = 0 := by
  rw [caretIndex, h, Nat.zero_sub, Nat.min_zero]

/-- A caret lies in the scope that counts for it, and at the end of the line the scope ends too. -/
theorem scope_bounds {offset : Nat} (h : offset ≤ line.length) :
    line.scopeStart (line.caretIndex offset) ≤ offset ∧
      offset ≤ line.scopeStop (line.caretIndex offset) ∧
      line.scopeStop (line.caretIndex offset) ≤ line.length := by
  rcases Nat.eq_zero_or_pos line.length with hzero | hpos
  · obtain ⟨hstart, hstop⟩ := scope_of_length_eq_zero hzero
    rw [caretIndex_of_length_eq_zero hzero, hstart, hstop]
    omega
  · have hindex : line.caretIndex offset = min offset (line.length - 1) := rfl
    have hrun := @isRun_scope line (line.caretIndex offset) (by omega)
    have := hrun.start_le
    have := hrun.lt_stop
    exact ⟨by omega, by omega, hrun.stop_le⟩

theorem languageAt_of_mem_scope {index i : Nat} (hindex : index < line.length)
    (hstart : line.scopeStart index ≤ i) (hstop : i < line.scopeStop index) :
    line.languageAt i = line.languageAt index :=
  (isRun_scope hindex).same i hstart hstop

end LabelledLine

/-! ### Scopes through tokens -/

/-- A scope is that of a character of a labelled line. -/
structure Scope.Covers (scope : Scope) (line : LabelledLine) (index : Nat) : Prop where
  language_eq : scope.language = line.languageAt index
  firstChar_eq : scope.firstChar = line.scopeStart index
  stopChar_eq : scope.stopChar = line.scopeStop index

namespace TokenizedLine

variable {line : TokenizedLine}

theorem find_congr {a b : Int}
    (h : ∀ token ∈ line.rest, (token.start : Int) ≤ a ↔ token.start ≤ b) :
    line.find a = line.find b := by
  rw [find, find]
  generalize line.rest = tokens at h
  induction tokens with
  | nil => rfl
  | cons token tokens ih =>
    have htail := ih fun other hmem => h other (List.mem_cons_of_mem token hmem)
    have htoken := h token List.mem_cons_self
    by_cases hle : (token.start : Int) ≤ a
    · rw [List.takeWhile_cons_of_pos (by simpa using hle),
        List.takeWhile_cons_of_pos (by simpa using htoken.mp hle), List.length_cons,
        List.length_cons, htail]
    · rw [List.takeWhile_cons_of_neg (by simpa using hle),
        List.takeWhile_cons_of_neg (by simpa using fun hle' => hle (htoken.mpr hle'))]

namespace Canonical

theorem length_labelled (h : line.Canonical) : line.labelled.length = line.text.length :=
  length_cells h.ascending

/-- The language of a character is that of its token. -/
theorem languageAt_labelled (h : line.Canonical) {i : Nat} (hi : i < line.text.length) :
    line.labelled.languageAt i = (line.labelOf i).language := by
  have hcell : line.labelled.cells[i]? = line.text[i]?.map (·, line.labelOf i) :=
    cells_getElem? h.ascending i
  rw [LabelledLine.languageAt, hcell, List.getElem?_eq_getElem hi]
  rfl

/-- An offset outside of the line finds the same token as the character next to it. -/
theorem find_caretIndex (h : line.Canonical) (offset : Int) :
    line.find offset = line.find (line.labelled.caretIndex (line.clampOffset offset) : Nat) := by
  rw [LabelledLine.caretIndex, h.length_labelled, clampOffset]
  refine find_congr fun token hmem => ?_
  by_cases htext : line.text = []
  · rw [h.rest_eq_nil htext] at hmem
    exact absurd hmem List.not_mem_nil
  · have hpos := start_lt_of_mem h.isChain hmem
    have hlt := h.start_lt_length htext token (List.mem_cons_of_mem _ hmem)
    -- every later token starts between the first and the last character
    dsimp only at hpos
    omega

/-- The scope at an offset is that of the character which counts for a caret there. -/
theorem covers_scopeAt (h : line.Canonical) (offset : Int) :
    (line.scopeAt offset).Covers line.labelled
      (line.labelled.caretIndex (line.clampOffset offset)) := by
  have hfind := h.find_caretIndex offset
  have hlength := h.length_labelled
  generalize hindex : line.labelled.caretIndex (line.clampOffset offset) = index at *
  have hscope : line.scopeAt offset = line.scopeAt index := by rw [scopeAt, scopeAt, hfind]
  rw [hscope]
  by_cases htext : line.text = []
  · -- the scope of an empty line is its only token
    have hzero : line.labelled.length = 0 := by rw [hlength, htext]; rfl
    obtain rfl : 0 = index := by
      rw [← hindex, LabelledLine.caretIndex_of_length_eq_zero hzero]
    obtain ⟨hstart, hstop⟩ := LabelledLine.scope_of_length_eq_zero hzero
    have hcells : line.labelled.cells = [] := List.eq_nil_of_length_eq_zero hzero
    have hrest := h.rest_eq_nil htext
    obtain ⟨text, first, rest⟩ := line
    dsimp only at htext hrest
    subst htext hrest
    exact ⟨rfl, hstart.symm, hstop.symm⟩
  · have hlt : index < line.text.length := by
      have hpos := List.length_pos_iff.mpr htext
      rw [← hindex, LabelledLine.caretIndex]
      omega
    -- the scope through tokens and the one by character are both the longest stretch
    have hrun := @LabelledLine.isRun_scope line.labelled index (hlength ▸ hlt)
    rw [hlength] at hrun
    obtain ⟨hstart, hstop⟩ := (h.isRun_scopeAt hlt).unique (hrun.congr fun i hi => by
      rw [h.languageAt_labelled hi, h.languageAt_labelled hlt])
    exact ⟨(h.languageAt_labelled hlt).symm, hstart, hstop⟩

end Canonical

/-! ### Texts around a caret -/

namespace Canonical

variable {registry : Registry}

/-- Sanitizing a part of the scope of a character cleans its cells in the language of the scope. -/
theorem sanitize_slice_scope (h : line.Canonical) {offset start stop : Nat}
    (hoffset : offset ≤ line.text.length)
    (hstart : line.labelled.scopeStart (line.labelled.caretIndex offset) ≤ start)
    (hle : start ≤ stop)
    (hstop : stop ≤ line.labelled.scopeStop (line.labelled.caretIndex offset)) :
    registry.sanitize (line.slice start stop) =
      registry.clean (line.labelled.languageAt (line.labelled.caretIndex offset))
        (line.labelled.between start stop) := by
  have hlength := h.length_labelled
  have hbounds := LabelledLine.scope_bounds (hlength ▸ hoffset)
  refine h.sanitize_slice hle (by omega) fun hlt => ?_
  have hindex : line.labelled.caretIndex offset < line.labelled.length := by
    rw [LabelledLine.caretIndex]
    omega
  rw [← h.languageAt_labelled (by omega),
    LabelledLine.languageAt_of_mem_scope hindex hstart (by omega)]

variable (registry)

theorem textBefore_eq_clean (h : line.Canonical) (column : Int) :
    Context.textBefore registry (line.scopeAt (column - 1)) line column =
      (line.labelled.caretContext registry none (line.clampOffset (column - 1))).before := by
  have hoffset := line.clampOffset_le (column - 1)
  obtain ⟨-, hfirst, -⟩ := h.covers_scopeAt (column - 1)
  have hbounds := LabelledLine.scope_bounds (h.length_labelled ▸ hoffset)
  rw [Context.textBefore, h.wellPlaced.sliceLine_before, hfirst]
  exact h.sanitize_slice_scope hoffset (Nat.le_refl _) hbounds.1 hbounds.2.1

theorem textAfter_eq_clean (h : line.Canonical) (column : Int) :
    Context.textAfter registry (line.scopeAt (column - 1)) line column =
      (line.labelled.caretContext registry none (line.clampOffset (column - 1))).after := by
  have hoffset := line.clampOffset_le (column - 1)
  obtain ⟨-, -, hstop⟩ := h.covers_scopeAt (column - 1)
  have hbounds := LabelledLine.scope_bounds (h.length_labelled ▸ hoffset)
  rw [Context.textAfter, h.wellPlaced.sliceLine_after, hstop]
  exact h.sanitize_slice_scope hoffset hbounds.1 hbounds.2.1 (Nat.le_refl _)

theorem textAbove_eq_clean (h : line.Canonical) (scope : Scope) :
    Context.textAbove registry scope line (line.text.length + 1) =
      line.labelled.textAbove registry scope.language := by
  have hlength := h.length_labelled
  have hclamp : line.clampOffset ((line.text.length : Int) + 1 - 1) = line.labelled.length := by
    rw [Int.add_sub_cancel, clampOffset_of_le (Nat.le_refl _), hlength]
  obtain ⟨hlanguage, hfirst, -⟩ := h.covers_scopeAt ((line.text.length : Int) + 1 - 1)
  rw [hclamp] at hlanguage hfirst
  have hbounds := LabelledLine.scope_bounds (Nat.le_refl line.labelled.length)
  have hstop : (line.scopeAt ((line.text.length : Int) + 1 - 1)).stopChar =
      line.labelled.length := by
    rw [h.wellPlaced.stopChar_of_length_le (by omega), hlength]
  rw [Context.textAbove, LabelledLine.textAbove, hlanguage]
  by_cases hsame : line.labelled.languageAt
      (line.labelled.caretIndex line.labelled.length) = scope.language
  · rw [if_pos hsame, if_pos hsame, ← hsame, h.wellPlaced.sliceLine_scopeAt, hfirst, hstop]
    exact h.sanitize_slice_scope hlength.le (Nat.le_refl _) hbounds.1 hbounds.2.1
  · rw [if_neg hsame, if_neg hsame]

/-- The context of a caret in canonical lines is the one told from the labels of the characters. -/
theorem ofLines_caret (h : line.Canonical) {above? : Option TokenizedLine}
    (habove : ∀ above, above? = some above → above.Canonical) (last : TokenizedLine)
    (number column : Int) :
    Context.ofLines registry line last above? (.caret number column) =
      line.labelled.caretContext registry (above?.map labelled)
        (line.clampOffset (column - 1)) := by
  obtain ⟨hlanguage, hfirst, -⟩ := h.covers_scopeAt (column - 1)
  have hover : Context.textOver registry (line.scopeAt (column - 1)) above? =
      (line.labelled.caretContext registry (above?.map labelled)
        (line.clampOffset (column - 1))).previousLine := by
    cases above? with
    | none => rfl
    | some above =>
      rw [Context.textOver, (habove above rfl).textAbove_eq_clean, hlanguage, Scope.startsLine,
        hfirst]
      simp only [beq_iff_eq]
      rfl
  rw [Context.ofLines, if_pos (Range.isEmpty_caret number column)]
  exact (Context.mk.injEq ..).mpr
    ⟨h.textBefore_eq_clean registry column, h.textAfter_eq_clean registry column, hover⟩

end Canonical

end TokenizedLine

/-! ### Carets in a document -/

namespace Lexer

variable (registry : Registry) (state : LineState)

theorem canonical_of_mem_tokenizeLines {texts : List Text} {lexed : TokenizedLine × LineState}
    (h : lexed ∈ tokenizeLines registry state texts) : lexed.1.Canonical := by
  obtain ⟨before, text, -, rfl⟩ :=
    exists_of_mem_tokenizeLines (motive := fun _ => True) (fun _ _ _ => trivial) trivial h
  exact canonical_tokenize registry before text

end Lexer

namespace Document

variable {document : Document} {line : Int} {index : Nat} {tokens : TokenizedLine}
  {state : LineState}

theorem canonical_of_lexed (hlexed : document.lexed[index]? = some (tokens, state)) :
    tokens.Canonical :=
  Lexer.canonical_of_mem_tokenizeLines _ _ (List.mem_of_getElem? hlexed)

theorem getElem?_labelledLines (hlexed : document.lexed[index]? = some (tokens, state)) :
    document.labelledLines[index]? = some tokens.labelled := by
  rw [labelledLines, List.getElem?_map, hlexed]
  rfl

theorem caretContext?_eq_some (hindex : document.index? line = .ok index)
    (hlexed : document.lexed[index]? = some (tokens, state)) (column : Int) :
    document.caretContext? line column =
      some (tokens.labelled.caretContext document.registry
        (if 1 < line then document.labelledLines[index - 1]? else none)
        (tokens.clampOffset (column - 1))) := by
  have hline : (line - 1).toNat = index := by
    have := (index?_eq_ok_iff.mp hindex).1
    omega
  rw [caretContext?, hline, getElem?_labelledLines hlexed,
    TokenizedLine.clampOffset, ← (canonical_of_lexed hlexed).length_labelled]
  rfl

/-- The lines above a line are those of the document. -/
theorem map_lineAbove? (hindex : document.index? line = .ok index) :
    (lineAbove? (document.lexed.map (·.1)) index).map TokenizedLine.labelled =
      if 1 < line then document.labelledLines[index - 1]? else none := by
  obtain ⟨rfl, -⟩ := index?_eq_ok_iff.mp hindex
  cases index with
  | zero => rfl
  | succ index =>
    rw [if_pos (by omega), lineAbove?, labelledLines, ← List.getElem?_map, List.map_map]
    rfl

theorem canonical_of_served (hserved : (document.lexed.map (·.1))[index]? = some tokens) :
    tokens.Canonical := by
  obtain ⟨-, state, hlexed⟩ := lexed_of_served hserved
  exact canonical_of_lexed hlexed

theorem canonical_of_lineAbove? {above : TokenizedLine}
    (h : lineAbove? (document.lexed.map (·.1)) index = some above) : above.Canonical := by
  cases index with
  | zero => exact absurd h (by simp [lineAbove?])
  | succ index => exact canonical_of_served h

/-- The context extracted at a caret is the one told from the labels of the characters. -/
theorem Faithful.exec_extractContext_caret (h : document.Faithful)
    (hindex : document.index? line = .ok index) (column : Int) :
    ∃ context after, document.caretContext? line column = some context ∧
      (extractContext Document.source document.registry (.caret line column)).exec document =
        (.ok context, after) := by
  obtain ⟨tokens, state, hlexed⟩ := exists_lexed hindex
  have hline := (index?_eq_ok_iff.mp hindex).1
  have htokens : (document.lexed.map (·.1))[index]? = some tokens := by
    rw [List.getElem?_map, hlexed]
    rfl
  have hgives : (extractContext source document.registry (.caret line column)).Gives
      document.Continues _ :=
    document.serves.gives_extractContext document.registry hline htokens hline htokens
  obtain ⟨after, hexec, -⟩ := hgives document h.continues
  refine ⟨_, after, caretContext?_eq_some hindex hlexed column, ?_⟩
  rw [hexec, (canonical_of_lexed hlexed).ofLines_caret document.registry
    fun _ => canonical_of_lineAbove?, map_lineAbove? hindex]

/-- At a caret in any line and at any column, whichever lines have been asked for before, the
context is extracted, and it is the one told from the labels of the characters. -/
theorem answer_extractContext_caret (registry : Registry) (language : String) (source : Text)
    (made : Nat) (line column : Int) (hfirst : 1 ≤ line)
    (hlast : line ≤ (ofText source language registry).lineCount) :
    ∃ context, (ofText source language registry).caretContext? line column = some context ∧
      (extractContext Document.source registry (.caret line column)).answer
        ((ofText source language registry).extend made) = .ok context := by
  have hindex : ((ofText source language registry).extend made).index? line =
      .ok (line - 1).toNat := by
    rw [index?_extend, index?, if_pos ⟨hfirst, hlast⟩]
  obtain ⟨context, after, hcontext, hexec⟩ :=
    ((faithful_ofText source language registry).extend made).exec_extractContext_caret hindex column
  refine ⟨context, hcontext, ?_⟩
  rw [Fetch.answer_eq_exec]
  exact congrArg Prod.fst hexec

/-- A caret far behind the end of the second line, below a comment with a bracket. -/
theorem answer_extractContext_caret_below_comment :
    let document := ofText ['#', '(', '\n', 'x'] "python" .builtin
    (1 : Int) ≤ 2 ∧ 2 ≤ document.lineCount ∧
      document.caretContext? 2 7 = some ⟨['x'], [], ['#']⟩ ∧
      (extractContext Document.source .builtin (.caret 2 7)).answer (document.extend 0) =
        .ok ⟨['x'], [], ['#']⟩ := by
  intro document
  have hcontext : document.caretContext? 2 7 = some ⟨['x'], [], ['#']⟩ := by decide +kernel
  obtain ⟨context, hsome, hanswer⟩ := answer_extractContext_caret .builtin "python"
    ['#', '(', '\n', 'x'] 0 2 7 (by decide) (by decide)
  obtain rfl := Option.some.inj (hsome.symm.trans hcontext)
  exact ⟨by decide, by decide, hcontext, hanswer⟩

end Document

end Indentation
