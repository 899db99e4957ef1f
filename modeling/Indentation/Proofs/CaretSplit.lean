import Indentation.Proofs.Scopes
import Indentation.Proofs.ServedLines
import Indentation.Proofs.Stripping

/-!
# A caret splits its scope

The text before a caret and the text behind it are cut from the scope of the caret and sanitized one
by one, each with the brackets of its own first token. If the brackets are single characters, a cut
inside of a literal divides no spelling, so the two texts put together are what sanitizing leaves of
the whole scope. So they do not depend on where in its scope the caret stands.

## Main definitions

* `Registry.HasSingleBrackets` — the brackets of a language are single characters
* `Registry.keepsCell` — whether such brackets let a labelled character stay

## Main results

* `TokenizedLine.Ascending.sanitize_slice_single` — a slice keeps or drops each character on its own
* `TokenizedLine.WellPlaced.textBefore_append_textAfter` — the two texts put together
* `LineSource.Serves.caret_splits_scope` — carets in lines that are served
-/

namespace Indentation

open BracketPair

namespace Registry

/-- The brackets of a language, if it has any, are single characters. -/
def HasSingleBrackets (registry : Registry) (language : String) : Prop :=
  ∀ pairs, registry.brackets? language = some pairs →
    ∀ spelling, Spells pairs spelling → spelling.length = 1

/-- Whether a character with a label stays when the brackets of a language are erased: it is no
literal or no bracket. -/
def keepsCell (registry : Registry) (language : String) (cell : Char × Label) : Bool :=
  ¬ (cell.2.kind.isLiteral ∧ Spells ((registry.brackets? language).getD []) [cell.1])

theorem hasSingleBrackets_of_spellings {registry : Registry} {language : String}
    {pairs : List BracketPair} (hpairs : registry.brackets? language = some pairs)
    (h : ∀ spelling ∈ spellings pairs, spelling.length = 1) :
    registry.HasSingleBrackets language := by
  intro pairs' hpairs' spelling hspells
  obtain rfl := Option.some.inj (hpairs.symm.trans hpairs')
  exact h spelling (mem_spellings_iff.mpr hspells)

end Registry

namespace TokenizedLine

variable {line : TokenizedLine} {registry : Registry} {language : String}

/-! ### Lines with single brackets -/

/-- With brackets of one character or none at all, sanitizing keeps or drops each character on its
own. -/
theorem Ascending.sanitize_of_single (h : line.Ascending)
    (hsingle : registry.HasSingleBrackets line.first.language) :
    registry.sanitize line =
      (line.cells.filter (registry.keepsCell line.first.language)).map (·.1) := by
  cases hpairs : registry.brackets? line.first.language with
  | none =>
    have hkeeps : line.cells.filter (registry.keepsCell line.first.language) = line.cells :=
      List.filter_eq_self.mpr fun cell _ => by simp [Registry.keepsCell, hpairs, Spells]
    rw [Registry.sanitize, hpairs, hkeeps, map_fst_cells h]
  | some pairs =>
    have hkeeps : registry.keepsCell line.first.language =
        fun cell : Char × Label =>
          decide (¬ (cell.2.kind.isLiteral ∧ [cell.1] ∈ spellings pairs)) := by
      funext cell
      simp only [Registry.keepsCell, hpairs, Option.getD_some, mem_spellings_iff]
    rw [hkeeps]
    exact sanitize_of_length_eq_one hpairs fun spelling hmem =>
      hsingle pairs hpairs spelling (mem_spellings_iff.mp hmem)

/-- The same for a slice in one language. An empty slice may carry the label of a character of
another language, but nothing is left of it. -/
theorem Ascending.sanitize_slice_single (h : line.Ascending)
    (hsingle : registry.HasSingleBrackets language) {start stop : Nat} (hle : start ≤ stop)
    (hstop : stop ≤ line.text.length)
    (hlanguage : start < stop → (line.labelOf start).language = language) :
    registry.sanitize (line.slice start stop) =
      (((line.cells.take stop).drop start).filter (registry.keepsCell language)).map (·.1) := by
  have hcells := h.cells_slice hle hstop
  rw [← hcells]
  rcases Nat.eq_or_lt_of_le hle with rfl | hlt
  · -- nothing is known about the first label here, so the brackets must not be looked up
    have hnil : (line.slice start start).cells = [] := by
      rw [hcells]
      exact List.drop_eq_nil_of_le (List.length_take_le _ _)
    rw [hnil, sanitize_of_text_eq_nil]
    · rfl
    · rw [← map_fst_cells (h.slice start start), hnil]
      rfl
  · have hfirst : (line.slice start stop).first.language = language := by
      rw [← hlanguage hlt]
      change (line.labelOf (line.clampOffset start)).language = _
      rw [clampOffset_of_le (hle.trans hstop)]
    rw [(h.slice start stop).sanitize_of_single (hfirst ▸ hsingle), hfirst]

/-- Two neighbouring slices in one language are sanitized together or one by one. -/
theorem Ascending.sanitize_slice_append (h : line.Ascending)
    (hsingle : registry.HasSingleBrackets language) {start middle stop : Nat}
    (hstart : start ≤ middle) (hmiddle : middle ≤ stop) (hstop : stop ≤ line.text.length)
    (hlanguage : ∀ i : Nat, start ≤ i → i < stop → (line.labelOf i).language = language) :
    registry.sanitize (line.slice start middle) ++ registry.sanitize (line.slice middle stop) =
      registry.sanitize (line.slice start stop) := by
  -- the cells of the two slices are those of the whole one
  have hcells : (line.cells.take middle).drop start ++ (line.cells.take stop).drop middle =
      (line.cells.take stop).drop start := by
    have htake : line.cells.take middle = (line.cells.take stop).take middle := by
      rw [List.take_take, Nat.min_eq_left hmiddle]
    have hjoin := List.drop_take_append_drop (line.cells.take stop) start (middle - start)
    rwa [htake, List.drop_take, ← Nat.add_sub_cancel' hstart, Nat.add_sub_cancel_left]
  rw [h.sanitize_slice_single hsingle hstart (hmiddle.trans hstop) fun hlt =>
      hlanguage start (Nat.le_refl _) (hlt.trans_le hmiddle),
    h.sanitize_slice_single hsingle hmiddle hstop fun hlt => hlanguage middle hstart hlt,
    h.sanitize_slice_single hsingle (hstart.trans hmiddle) hstop fun hlt =>
      hlanguage start (Nat.le_refl _) hlt,
    ← List.map_append, ← List.filter_append, hcells]

/-! ### Texts around a caret -/

/-- The characters of a scope have its language. -/
theorem WellPlaced.language_of_mem (h : line.WellPlaced) (offset : Int) {i : Nat}
    (hfirst : (line.scopeAt offset).firstChar ≤ i) (hstop : i < (line.scopeAt offset).stopChar) :
    (line.labelOf i).language = (line.scopeAt offset).language :=
  congrArg Scope.language
    ((h.resolves offset).same i (Int.ofNat_le.mpr hfirst) (Int.ofNat_lt.mpr hstop))

/-- The texts before and behind a caret are what sanitizing leaves of its scope. -/
theorem WellPlaced.textBefore_append_textAfter (h : line.WellPlaced) (column : Int)
    (hsingle : registry.HasSingleBrackets (line.scopeAt (column - 1)).language) :
    Context.textBefore registry (line.scopeAt (column - 1)) line column ++
        Context.textAfter registry (line.scopeAt (column - 1)) line column =
      registry.sanitize ((line.scopeAt (column - 1)).sliceLine line) := by
  obtain ⟨hfirst, hstop⟩ := h.clampOffset_mem (column - 1)
  rw [Context.textBefore, Context.textAfter, h.sliceLine_before, h.sliceLine_after,
    h.sliceLine_scopeAt]
  exact h.ascending.sanitize_slice_append hsingle hfirst hstop (h.resolves _).stopChar_le
    fun _ => h.language_of_mem (column - 1)

end TokenizedLine

namespace LineSource.Serves

open TokenizedLine

variable {ε σ : Type} {source : LineSource ε σ} {inv : σ → Prop} {lines : List TokenizedLine}
  {index : Nat} {line : TokenizedLine}

/-- At a caret whose scope has single brackets, the two texts of the context make up the scope. -/
theorem exists_context_caret (h : source.Serves inv lines) (hline : lines[index]? = some line)
    (hplaced : line.WellPlaced) (registry : Registry) (column : Int)
    (hsingle : registry.HasSingleBrackets (line.scopeAt (column - 1)).language) {state : σ}
    (hstate : inv state) :
    ∃ context, (extractContext source registry (.caret (index + 1) column)).answer state =
        .ok context ∧
      context.before ++ context.after =
        registry.sanitize ((line.scopeAt (column - 1)).sliceLine line) := by
  have hgives : (extractContext source registry (.caret (index + 1) column)).Gives inv _ :=
    h.gives_extractContext registry rfl hline rfl hline
  refine ⟨_, hgives.answer_eq hstate, ?_⟩
  rw [← hplaced.textBefore_append_textAfter column hsingle, Context.ofLines,
    if_pos (Range.isEmpty_caret _ _)]
  rfl

/-- A caret splits its scope without loss. In lines whose tokens start in ascending order and not
past the end, if the brackets of the scope's language are single characters, the text before a caret
and the text behind it put together are what sanitizing leaves of the scope. So they are the same
for all carets with this scope. -/
theorem caret_splits_scope (source : LineSource ε σ) (inv : σ → Prop)
    (lines : List TokenizedLine) (hserves : source.Serves inv lines)
    (hplaced : ∀ line ∈ lines, line.WellPlaced) (registry : Registry) (index : Nat)
    (line : TokenizedLine) (hline : lines[index]? = some line) (column : Int)
    (hsingle : registry.HasSingleBrackets (line.scopeAt (column - 1)).language) (state : σ)
    (hstate : inv state) :
    ∃ context, (extractContext source registry (.caret (index + 1) column)).answer state =
        .ok context ∧
      context.before ++ context.after =
        registry.sanitize ((line.scopeAt (column - 1)).sliceLine line) ∧
      ∀ (other : Int) (state' : σ), inv state' →
        line.scopeAt (other - 1) = line.scopeAt (column - 1) →
        ∃ context', (extractContext source registry (.caret (index + 1) other)).answer state' =
            .ok context' ∧
          context'.before ++ context'.after = context.before ++ context.after := by
  have hline' := hplaced line (List.mem_of_getElem? hline)
  obtain ⟨context, hcontext, hsplit⟩ :=
    hserves.exists_context_caret hline hline' registry column hsingle hstate
  refine ⟨context, hcontext, hsplit, ?_⟩
  intro other state' hstate' hscope
  obtain ⟨context', hcontext', hsplit'⟩ :=
    hserves.exists_context_caret hline hline' registry other (hscope ▸ hsingle) hstate'
  refine ⟨context', hcontext', ?_⟩
  rw [hsplit', hscope, hsplit]

/-- A caret inside of a string, and one in front of it in the same scope. Another scope without
characters ends the line. -/
theorem caret_splits_scope_in_string :
    let line : TokenizedLine := ⟨"a='(b'".toList, ⟨.other, "javascript"⟩,
      [⟨⟨.string, "javascript"⟩, 2⟩, ⟨⟨.other, "html"⟩, 6⟩]⟩
    let given : GivenLines := ⟨[.single "<script>".toList ⟨.other, "html"⟩, line], []⟩
    (∀ line ∈ given.lines, line.WellPlaced) ∧
    Registry.builtin.HasSingleBrackets (line.scopeAt (5 - 1)).language ∧
    line.scopeAt (1 - 1) = line.scopeAt (5 - 1) ∧
    ∃ context context',
      (extractContext GivenLines.source .builtin (.caret (1 + 1) 5)).answer given = .ok context ∧
      (extractContext GivenLines.source .builtin (.caret (1 + 1) 1)).answer given = .ok context' ∧
      context'.before ++ context'.after = context.before ++ context.after := by
  intro line given
  have hplaced : ∀ line ∈ given.lines, line.WellPlaced := by
    intro line hmem
    rcases List.mem_pair.mp hmem with rfl | rfl
    · exact ⟨.singleton _, by simp [TokenizedLine.tokens, single]⟩
    · exact ⟨by simp [Ascending, TokenizedLine.tokens, line], by simp [TokenizedLine.tokens, line]⟩
  have hbrackets : Registry.builtin.brackets? "javascript" = Builtin.javascript.brackets := by
    rw [Registry.brackets?, Registry.get?_builtin_javascript]
    rfl
  have hsingle : Registry.builtin.HasSingleBrackets (line.scopeAt (5 - 1)).language :=
    Registry.hasSingleBrackets_of_spellings hbrackets (by decide)
  have hscope : line.scopeAt (1 - 1) = line.scopeAt (5 - 1) := by decide
  obtain ⟨context, hcontext, -, hothers⟩ := caret_splits_scope GivenLines.source _ _
    (GivenLines.serves given.lines) hplaced .builtin 1 line rfl 5 hsingle given rfl
  obtain ⟨context', hcontext', hsame⟩ := hothers 1 given rfl hscope
  exact ⟨hplaced, hsingle, hscope, context, context', hcontext, hcontext', hsame⟩

end LineSource.Serves

end Indentation
