import Indentation.Proofs.Cleaning
import Indentation.Proofs.LineEnds
import Indentation.Proofs.LiteralBodies
import Indentation.Proofs.Lookup
import Indentation.Proofs.Memo

/-!
# Brackets in literals decide nothing

A bracket of one character, put into the body of a string or of a comment, changes no decision about
any line of the document. The lines are split and lexed as before, but for the label of the new
character, and sanitizing the line drops that character again.

One kind of literal is left out: a block comment whose closing delimiter is empty ends where it
begins, so that a bracket put into its body stands behind it.

## Main definitions

* `Text.insertAt` — a document with one more character in a line
* `Language.Erases` — a bracket that sanitizing drops from literals and no delimiter holds

## Main results

* `Text.splitLines_insertAt` — the lines of a document with one more character
* `Lexer.InLiteral.decideTokens_insert` — the line with the bracket decides what it decided without
* `decideText_insertAt` — so does every line of the document
-/

namespace Indentation

namespace Text

/-! ### Documents with one more character -/

/-- The document with a character at an offset of a line, where lines count from 0. -/
def insertAt (c : Char) : Nat → Nat → Text → Text
  | 0, offset, text => text.insertIdx offset c
  | _ + 1, _, [] => []
  | line + 1, offset, '\r' :: '\n' :: cs => '\r' :: '\n' :: insertAt c line offset cs
  | line + 1, offset, d :: cs =>
    d :: insertAt c (if d = '\r' ∨ d = '\n' then line else line + 1) offset cs

variable {c : Char}

/-- A character in the first line. -/
theorem splitLines_insertIdx (hc : ¬ (c = '\r' ∨ c = '\n')) {text first : Text} {lines : List Text}
    {offset : Nat} (hlines : splitLines text = first :: lines) (hoffset : offset ≤ first.length) :
    splitLines (text.insertIdx offset c) = first.insertIdx offset c :: lines := by
  cases offset with
  | zero =>
    rw [List.insertIdx_zero, splitLines_cons_of_not_lineEnd hc, hlines]
    rfl
  | succ offset =>
    fun_induction splitLines text generalizing first offset with
    | case1 | case2 | case3 =>
      -- the first line is empty, so it has no such offset
      obtain ⟨rfl, -⟩ := List.cons.inj hlines
      exact absurd hoffset (Nat.not_succ_le_zero offset)
    | case4 d cs _ hd ih =>
      cases hsplit : splitLines cs with
      | nil => exact absurd hsplit (splitLines_ne_nil cs)
      | cons head tail =>
        rw [hsplit, pushFirst] at hlines
        obtain ⟨rfl, rfl⟩ := List.cons.inj hlines
        rw [List.insertIdx_succ_cons, List.insertIdx_succ_cons, splitLines_cons_of_not_lineEnd hd]
        cases offset with
        | zero =>
          rw [List.insertIdx_zero, splitLines_cons_of_not_lineEnd hc, hsplit]
          rfl
        | succ offset =>
          rw [ih hsplit offset (Nat.le_of_succ_le_succ hoffset)]
          rfl

/-- The character does not make a line feed come first. -/
theorem eq_lineFeed_cons_of_insertAt (hc : ¬ (c = '\r' ∨ c = '\n')) {index offset : Nat}
    {text es : Text} (h : insertAt c index offset text = '\n' :: es) : ∃ fs, text = '\n' :: fs := by
  revert h
  fun_cases insertAt c index offset text with
  | case1 offset text =>
    intro h
    cases offset with
    | zero => exact absurd (Or.inr (List.cons.inj h).1) hc
    | succ offset =>
      cases text with
      | nil => exact absurd h (by simp)
      | cons d cs => exact ⟨cs, by rw [(List.cons.inj h).1]⟩
  | case2 => exact fun h => absurd h (by simp)
  | case3 => exact fun h => absurd (List.cons.inj h).1 (by decide)
  | case4 index offset d cs _ => exact fun h => ⟨cs, by rw [(List.cons.inj h).1]⟩

/-- A character in any line leaves the other lines as they are. -/
theorem splitLines_insertAt (hc : ¬ (c = '\r' ∨ c = '\n')) {text line : Text} {index offset : Nat}
    (hline : (splitLines text)[index]? = some line) (hoffset : offset ≤ line.length) :
    splitLines (insertAt c index offset text) =
      (splitLines text).set index (line.insertIdx offset c) := by
  fun_induction insertAt c index offset text with
  | case1 offset text =>
    cases hlines : splitLines text with
    | nil => exact absurd hlines (splitLines_ne_nil text)
    | cons first lines =>
      rw [hlines] at hline
      obtain rfl := Option.some.inj hline
      exact splitLines_insertIdx hc hlines hoffset
  | case2 index offset => exact absurd hline (by simp [splitLines])
  | case3 index offset cs ih =>
    rw [splitLines] at hline ⊢
    rw [splitLines, ih hline hoffset]
    rfl
  | case4 index offset d cs hpair ih =>
    by_cases hd : d = '\r' ∨ d = '\n'
    · -- the character cannot make a pair of a carriage return and what follows it
      rw [if_pos hd] at ih ⊢
      have hpair' : ∀ es, d = '\r' → insertAt c index offset cs ≠ '\n' :: es := by
        rintro es rfl heq
        obtain ⟨fs, rfl⟩ := eq_lineFeed_cons_of_insertAt hc heq
        exact hpair fs rfl rfl
      rw [splitLines_cons_of_lineEnd hd fun es hr => hpair es hr] at hline ⊢
      rw [splitLines_cons_of_lineEnd hd hpair', ih hline hoffset]
      rfl
    · rw [if_neg hd] at ih ⊢
      rw [splitLines_cons_of_not_lineEnd hd] at hline ⊢
      rw [splitLines_cons_of_not_lineEnd hd]
      cases hsplit : splitLines cs with
      | nil => exact absurd hsplit (splitLines_ne_nil cs)
      | cons head tail =>
        rw [hsplit] at hline ih
        rw [ih hline hoffset]
        rfl

end Text

/-! ### Lines with one more bracket -/

/-- A bracket of one character that sanitizing drops from literals. All brackets of the language
have one character, and no delimiter holds this one. -/
structure Language.Erases (language : Language) (c : Char) : Prop where
  inert : language.grammar.Inert c
  not_lineEnd : ¬ (c = '\r' ∨ c = '\n')
  brackets : ∃ pairs, language.brackets = some pairs ∧
    (∀ pair ∈ pairs, ∀ spelling ∈ pair.opens ++ pair.closes, spelling.length = 1) ∧
    ∃ pair ∈ pairs, [c] ∈ pair.opens ++ pair.closes

namespace Language.Erases

variable {registry : Registry} {id : String} {language : Language} {c : Char}

theorem grammar_inert (h : language.Erases c) (hlanguage : registry.get? id = some language) :
    (registry.grammar id).Inert c := by
  rw [Registry.grammar_of_get? hlanguage]
  exact h.inert

theorem brackets?_eq_some (h : language.Erases c) (hlanguage : registry.get? id = some language) :
    ∃ pairs, registry.brackets? id = some pairs ∧ [c] ∈ BracketPair.spellings pairs ∧
      ∀ spelling ∈ BracketPair.spellings pairs, spelling.length = 1 := by
  obtain ⟨pairs, hpairs, hsingle, pair, hpair, hmem⟩ := h.brackets
  refine ⟨pairs, ?_, ?_, fun spelling hspelling => ?_⟩
  · have hne : pairs ≠ [] := List.ne_nil_of_mem hpair
    rw [Registry.brackets?, hlanguage, Option.bind_some, hpairs]
    simp [hne]
  · exact BracketPair.mem_spellings.mpr ⟨⟨pair, hpair, hmem⟩, List.cons_ne_nil c []⟩
  · obtain ⟨⟨other, hother, hspelling⟩, -⟩ := BracketPair.mem_spellings.mp hspelling
    exact hsingle other hother spelling hspelling

end Language.Erases

theorem filter_insertIdx {α : Type} {p : α → Bool} {x : α} (hx : p x = false) (xs : List α)
    (i : Nat) : (xs.insertIdx i x).filter p = xs.filter p := by
  induction xs generalizing i with
  | nil => cases i <;> simp [hx]
  | cons y ys ih =>
    cases i with
    | zero => rw [List.insertIdx_zero, List.filter_cons_of_neg (by simp [hx])]
    | succ i => rw [List.insertIdx_succ_cons, List.filter_cons, List.filter_cons, ih]

theorem zip_insertIdx {α β : Type} {xs : List α} {ys : List β} (h : ys.length = xs.length) (i : Nat)
    (x : α) (y : β) :
    (xs.insertIdx i x).zip (ys.insertIdx i y) = (xs.zip ys).insertIdx i (x, y) := by
  induction i generalizing xs ys with
  | zero => rfl
  | succ i ih =>
    cases xs with
    | nil =>
      obtain rfl := List.eq_nil_of_length_eq_zero h
      rfl
    | cons a as =>
      cases ys with
      | nil => exact absurd h (by simp)
      | cons b bs =>
        rw [List.insertIdx_succ_cons, List.insertIdx_succ_cons, List.zip_cons_cons,
          List.zip_cons_cons, List.insertIdx_succ_cons, ih (Nat.succ.inj h)]

namespace Lexer

variable {registry : Registry} {id : String} {c : Char} {state : LineState}

/-- A line has the language of the document. -/
theorem language_first_tokenize (hgrammar : (registry.grammar id).Inert c)
    (hstate : state.Inert id c) (text : Text) :
    (tokenize registry state text).1.first.language = id := by
  have hlabels (label : Label) (hmem : label ∈ (labels registry state none text).1) :
      label.language = id :=
    @language_of_mem_labels registry id c hgrammar (Place.front state text) hstate label hmem
  rw [tokenize_fst]
  generalize (labels registry state none text).1 = labels at hlabels ⊢
  cases labels with
  | nil => exact hstate.language_eq
  | cons label others => exact hlabels label List.mem_cons_self

theorem inert_tokenize (hgrammar : (registry.grammar id).Inert c) (hstate : state.Inert id c)
    (text : Text) : (tokenize registry state text).2.Inert id c := by
  rw [tokenize_snd]
  exact @inert_labels registry id c hgrammar (Place.front state text) hstate

theorem inert_stateBehind (hgrammar : (registry.grammar id).Inert c) (hstate : state.Inert id c)
    (texts : List Text) : (stateBehind registry state texts).Inert id c := by
  induction texts generalizing state with
  | nil => exact hstate
  | cons text texts ih => exact ih (inert_tokenize hgrammar hstate text)

/-- With a bracket in the body of a literal a line decides what it decided without it, and leaves
the same state behind it. -/
theorem InLiteral.decideTokens_insert {language : Language}
    (hlanguage : registry.get? id = some language) (herases : language.Erases c)
    (hstate : state.Inert id c) {text : Text} {close : Option Text} (hclose : close ≠ some [])
    {i : Nat} (h : InLiteral registry (Place.front state text) close i) (indent? : Option Text) :
    registry.decideTokens (tokenize registry state (text.insertIdx i c)).1 indent? =
        registry.decideTokens (tokenize registry state text).1 indent? ∧
      (tokenize registry state (text.insertIdx i c)).2 = (tokenize registry state text).2 := by
  have hgrammar := herases.grammar_inert hlanguage
  obtain ⟨label, hliteral, hlabels⟩ := h.labels_insert hgrammar hstate hclose
  obtain ⟨pairs, hpairs, hmem, hsingle⟩ := herases.brackets?_eq_some hlanguage
  have hfirst := language_first_tokenize hgrammar hstate
  have hlabels' : labels registry state none (text.insertIdx i c) =
      ((labels registry state none text).1.insertIdx i label,
        (labels registry state none text).2) :=
    hlabels
  -- the only new cell is a bracket in a literal, and sanitizing drops it
  have hsanitize : registry.sanitize (tokenize registry state (text.insertIdx i c)).1 =
      registry.sanitize (tokenize registry state text).1 := by
    rw [TokenizedLine.sanitize_of_length_eq_one (by rw [hfirst]; exact hpairs) hsingle,
      TokenizedLine.sanitize_of_length_eq_one (by rw [hfirst]; exact hpairs) hsingle,
      cells_tokenize, cells_tokenize, hlabels',
      zip_insertIdx (length_labels registry state text none), filter_insertIdx]
    simp [hliteral, hmem]
  have hlast : (tokenize registry state (text.insertIdx i c)).2 =
      (tokenize registry state text).2 := by rw [tokenize_snd, tokenize_snd, hlabels']
  refine ⟨?_, hlast⟩
  rw [Registry.decideTokens, Registry.decideTokens, hfirst, hfirst, hsanitize]

/-- Changing a line so that the state behind it stays the same changes the tokens of that line
only. -/
theorem tokenizeLines_set {texts : List Text} {index : Nat} {text other : Text}
    (htext : texts[index]? = some text)
    (hlast : (tokenize registry (stateBehind registry state (texts.take index)) other).2 =
      (tokenize registry (stateBehind registry state (texts.take index)) text).2) :
    tokenizeLines registry state (texts.set index other) =
      (tokenizeLines registry state texts).set index
        (tokenize registry (stateBehind registry state (texts.take index)) other) := by
  induction texts generalizing state index with
  | nil => exact absurd htext (by simp)
  | cons head texts ih =>
    cases index with
    | zero =>
      obtain rfl := Option.some.inj htext
      have hlast' : (tokenize registry state other).2 = (tokenize registry state head).2 := hlast
      rw [List.set_cons_zero, tokenizeLines, tokenizeLines, hlast']
      rfl
    | succ index =>
      rw [List.set_cons_succ, tokenizeLines, tokenizeLines]
      exact congrArg (_ :: ·) (ih htext hlast)

end Lexer

/-! ### Documents with one more bracket -/

open Lexer in
/-- A bracket put into the body of a string or of a comment changes no decision about any line of
the document, whatever its margin, if the closing delimiter of the literal is not empty. -/
theorem decideText_insertAt {registry : Registry} {id : String} {language : Language} {c : Char}
    (hlanguage : registry.get? id = some language) (herases : language.Erases c)
    {source text : Text} {index offset : Nat} {close : Option Text}
    (htext : source.splitLines[index]? = some text)
    (hliteral : InLiteral registry
      (Place.front (stateBehind registry (.initial id) (source.splitLines.take index)) text) close
      offset)
    (hclose : close ≠ some []) (line : Int) (indent? : Option Text) :
    decideText (source.insertAt c index offset) line id registry indent? =
      decideText source line id registry indent? := by
  have hgrammar := herases.grammar_inert hlanguage
  have hinitial : (LineState.initial id).Inert id c :=
    ⟨rfl, rfl, fun _ hsome => absurd hsome (by simp [LineState.initial])⟩
  have hstate := inert_stateBehind hgrammar hinitial (source.splitLines.take index)
  have hinsert := hliteral.decideTokens_insert hlanguage herases hstate hclose indent?
  have hlines := Text.splitLines_insertAt herases.not_lineEnd htext hliteral.le_length
  have hlexed : (Document.ofText (source.insertAt c index offset) id registry).lexed =
      (Document.ofText source id registry).lexed.set index (tokenize registry
        (stateBehind registry (.initial id) (source.splitLines.take index))
        (text.insertIdx offset c)) := by
    rw [Document.lexed, Document.ofText, hlines]
    exact tokenizeLines_set htext hinsert.2
  refine decideText_congr ?_ fun i tokens state hsome => ?_
  · rw [Document.lineCount, Document.ofText, hlines, List.length_set]
    rfl
  · rw [hlexed, List.getElem?_set]
    by_cases hi : index = i
    · -- the line with the bracket
      subst hi
      have hlt := (List.getElem?_eq_some_iff.mp hsome).1
      have htokens : (Document.ofText source id registry).lexed[index]? =
          some (tokenize registry
            (stateBehind registry (.initial id) (source.splitLines.take index)) text) :=
        getElem?_tokenizeLines registry (.initial id) htext
      obtain rfl := congrArg Prod.fst (Option.some.inj (htokens.symm.trans hsome))
      rw [if_pos rfl, if_pos hlt]
      exact ⟨_, _, rfl, hinsert.1⟩
    · rw [if_neg hi]
      exact ⟨tokens, state, hsome, rfl⟩

open Lexer in
/-- A curly bracket in front of the second line of a document in CSS, whose first line leaves a
comment open. -/
theorem decideText_insertAt_open_comment :
    InLiteral .builtin (Place.front (stateBehind .builtin (.initial "css") [['/', '*']]) ['*', '/'])
        (some ['*', '/']) 0 ∧
      decideText (Text.insertAt '\x7b' 1 0 ['/', '*', '\n', '*', '/']) 2 "css" .builtin none =
        decideText ['/', '*', '\n', '*', '/'] 2 "css" .builtin none := by
  have hlanguage := Registry.get?_builtin_css
  have herases : Builtin.css.Erases '\x7b' :=
    ⟨⟨⟨by decide, by decide, by decide, by decide⟩, rfl, rfl, by decide⟩, by decide,
      ⟨_, rfl, by decide, by decide⟩⟩
  have hstep : (Place.front (.initial "css") ['/', '*']).step .builtin =
      ⟨2, ⟨.comment, "css"⟩, ⟨"css", [], some ['*', '/']⟩, none⟩ := by
    change plainStep (Registry.builtin.grammar "css") (.initial "css") none ['/', '*'] = _
    rw [Registry.grammar_of_get? hlanguage]
    decide
  have hstate : stateBehind .builtin (.initial "css") [['/', '*']] =
      ⟨"css", [], some ['*', '/']⟩ := by
    change (tokenize .builtin (.initial "css") ['/', '*']).2 = _
    rw [tokenize_snd]
    change ((Place.front (.initial "css") ['/', '*']).labels .builtin).2 = _
    rw [Place.labels_of_step_eq (List.cons_ne_nil _ _) hstep, Place.labels_of_rest_eq_nil rfl]
  have hliteral : InLiteral .builtin
      (Place.front (stateBehind .builtin (.initial "css") [['/', '*']]) ['*', '/'])
      (some ['*', '/']) 0 :=
    .here (.pending (by rw [hstate]; rfl) (Nat.zero_le _))
  exact ⟨hliteral, @decideText_insertAt .builtin "css" Builtin.css '\x7b' hlanguage herases
    ['/', '*', '\n', '*', '/'] ['*', '/'] 1 0 (some ['*', '/']) rfl hliteral (by decide) 2 none⟩

/-- A language whose block comments close where they open. -/
def hollowComments : Language where
  id := "hollow"
  brackets := some [⟨[['(']], [[')']]⟩]
  grammar := { blockComments := [⟨['#'], []⟩] }

theorem get?_hollowComments :
    (Registry.ofList [hollowComments]).get? "hollow" = some hollowComments := by
  rw [Registry.get?_ofList]
  rfl

open Lexer in
theorem step_hollowComments (operand : Option Char) (rest : Text) :
    Place.step (.ofList [hollowComments]) ⟨.initial "hollow", operand, rest⟩ =
      plainStep hollowComments.grammar (.initial "hollow") operand rest := by
  rw [← Registry.grammar_of_get? get?_hollowComments]
  rfl

open Lexer in
/-- What is put to the rules of the language for a document of one line. -/
theorem decideText_hollowComments {text : Text} (hlines : text.splitLines = [text])
    {labels : List Label}
    (hlabels :
      ((Place.front (.initial "hollow") text).labels (.ofList [hollowComments])).1 = labels)
    (hfirst : (TokenizedLine.ofLabels text ⟨.other, "hollow"⟩ labels).first.language = "hollow") :
    decideText text 1 "hollow" (.ofList [hollowComments]) none =
      .ok (IndentRules.decide {}
        ((TokenizedLine.ofLabels text ⟨.other, "hollow"⟩ labels).pieces.flatMap
          fun (label, text) => label.keep [['('], [')']] text)) := by
  have hindex : (Document.ofText text "hollow" (.ofList [hollowComments])).index? 1 = .ok 0 :=
    Document.index?_eq_ok_iff.mpr
      ⟨rfl, by rw [Document.lineCount, Document.ofText, hlines]; exact Nat.one_pos⟩
  have htext : (Document.ofText text "hollow" (.ofList [hollowComments])).lines[0]? =
      some text := by
    rw [Document.ofText, hlines]
    rfl
  have htokens : (tokenize (.ofList [hollowComments]) (.initial "hollow") text).1 =
      .ofLabels text ⟨.other, "hollow"⟩ labels := by
    rw [tokenize_fst, ← hlabels]
    rfl
  have hbrackets : (Registry.ofList [hollowComments]).brackets? "hollow" =
      some [⟨[['(']], [[')']]⟩] := by
    rw [Registry.brackets?, get?_hollowComments]
    rfl
  have hrules : (Registry.ofList [hollowComments]).rules? "hollow" = none := by
    rw [Registry.rules?, get?_hollowComments]
    rfl
  rw [decideText_of_ok hindex (getElem?_tokenizeLines _ _ htext)]
  change Except.ok (Registry.decideTokens _
    (tokenize (.ofList [hollowComments]) (.initial "hollow") text).1 none) = _
  rw [htokens, Registry.decideTokens, Registry.sanitize, hfirst, hbrackets, hrules]
  rfl

open Lexer in
/-- A bracket put into the body of a block comment with an empty closing delimiter stands behind the
comment, where it counts. -/
theorem decideText_insertAt_hollow_comment :
    ¬ ∀ (registry : Registry) (id : String) (language : Language) (c : Char) (source text : Text)
      (index offset : Nat) (close : Option Text) (line : Int) (indent? : Option Text),
      registry.get? id = some language → language.Erases c →
      source.splitLines[index]? = some text →
      InLiteral registry
        (Place.front (stateBehind registry (.initial id) (source.splitLines.take index)) text) close
        offset →
      decideText (source.insertAt c index offset) line id registry indent? =
        decideText source line id registry indent? := by
  intro hinsert
  have hgrammar := Registry.grammar_of_get? get?_hollowComments
  have herases : hollowComments.Erases '(' :=
    ⟨⟨⟨by decide, by decide, by decide, by decide⟩, rfl, rfl, by decide⟩, by decide,
      ⟨_, rfl, by decide, by decide⟩⟩
  have hliteral : InLiteral (.ofList [hollowComments]) (Place.front (.initial "hollow") ['#'])
      (some []) 1 := by
    refine .here (@Body.blockComment _ _ ⟨['#'], []⟩ 0 rfl ?_ ?_ (Nat.zero_le _))
    · change (Registry.grammar _ "hollow").lineComments.find? _ = _
      rw [hgrammar]
      rfl
    · change (Registry.grammar _ "hollow").blockComments.find? _ = _
      rw [hgrammar]
      rfl
  -- with and without the bracket, the comment takes the number sign only
  have hwithout : ((Place.front (.initial "hollow") ['#']).labels (.ofList [hollowComments])).1 =
      [⟨.comment, "hollow"⟩] := by
    rw [Place.front,
      Place.labels_of_step_eq (List.cons_ne_nil _ _) (step_hollowComments none ['#'])]
    change _ ++ (Place.labels _ ⟨.initial "hollow", none, []⟩).1 = _
    rw [Place.labels_of_rest_eq_nil rfl]
    rfl
  have hwith : ((Place.front (.initial "hollow") ['#', '(']).labels (.ofList [hollowComments])).1 =
      [⟨.comment, "hollow"⟩, ⟨.other, "hollow"⟩] := by
    rw [Place.front,
      Place.labels_of_step_eq (List.cons_ne_nil _ _) (step_hollowComments none ['#', '('])]
    change _ ++ (Place.labels _ ⟨.initial "hollow", none, ['(']⟩).1 = _
    rw [Place.labels_of_step_eq (List.cons_ne_nil _ _) (step_hollowComments none ['('])]
    change _ ++ (_ ++ (Place.labels _ ⟨.initial "hollow", some '(', []⟩).1) = _
    rw [Place.labels_of_rest_eq_nil rfl]
    rfl
  have hsame := hinsert (.ofList [hollowComments]) "hollow" hollowComments '(' ['#'] ['#'] 0 1
    (some []) 1 none get?_hollowComments herases rfl hliteral
  change decideText ['#', '('] _ _ _ _ = _ at hsame
  rw [decideText_hollowComments rfl hwith rfl, decideText_hollowComments rfl hwithout rfl] at hsame
  exact absurd (congrArg Decisions.text (Except.ok.inj hsame)) (by decide)

end Indentation
