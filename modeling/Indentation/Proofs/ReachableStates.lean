import Indentation.Proofs.Lookup
import Indentation.Proofs.Tiling

/-!
# States behind the lines of a document

What the lexer leaves open behind the lines of a document is opened by the grammars: every region
by an embedding of the language that it lies in, and a comment by a block comment of the language of
the text. Regions do not change while a comment is open, so the comment is one of the innermost
region, and the line ends with it.

## Main definitions

* `Nested` — regions that lie one inside the other
* `LineState.WellFormed` — states that the grammars account for

## Main results

* `Lexer.Place.wellFormed_next` — a step keeps a state well-formed
* `Lexer.Place.getLast?_labels` — a line that leaves a comment open ends with it
* `Lexer.exists_wellFormed_of_mem_tokens` — the languages of tokens
* `Lexer.wellFormed_of_mem_tokenizeLines` — the state behind each line of a document
-/

namespace Indentation

/-- `Nested registry document regions`: each of `regions`, the innermost of which comes first, is
opened by an embedding of the language that it lies in. The outermost lies in `document`. -/
inductive Nested (registry : Registry) (document : String) : List Region → Prop where
  | nil : Nested registry document []
  | cons {embedding : Embedding} {regions : List Region}
      (hmem : embedding ∈
        (registry.grammar (LineState.language ⟨document, regions, none⟩)).embedded)
      (h : Nested registry document regions) :
      Nested registry document (⟨embedding.language, embedding.closing⟩ :: regions)

/-- A state that lexing a document can leave behind a line. -/
structure LineState.WellFormed (registry : Registry) (document : String) (state : LineState) :
    Prop where
  document_eq : state.document = document
  nested : Nested registry document state.regions
  comment : ∀ close, state.commentClose = some close →
    ∃ comment ∈ (registry.grammar state.language).blockComments, comment.closing = close

namespace LineState.WellFormed

variable {registry : Registry} {document : String} {state : LineState}

theorem initial (registry : Registry) (document : String) :
    (LineState.initial document).WellFormed registry document :=
  ⟨rfl, .nil, fun _ hopen => absurd hopen (by simp [LineState.initial])⟩

/-- A state stays well-formed when other regions are open. -/
theorem withRegions (h : state.WellFormed registry document) (hopen : state.commentClose = none)
    {regions : List Region} (hnested : Nested registry document regions) :
    LineState.WellFormed registry document { state with regions } :=
  ⟨h.document_eq, hnested, fun close hclose => absurd (hopen.symm.trans hclose) (by simp)⟩

theorem endComment (h : state.WellFormed registry document) :
    state.endComment.WellFormed registry document :=
  ⟨h.document_eq, h.nested, fun _ hopen => absurd hopen (by simp [LineState.endComment])⟩

end LineState.WellFormed

namespace TokenizedLine

/-- The last token has the label of the last character. -/
theorem getLast?_ofLabels (text : Text) (blank : Label) (labels : List Label) :
    (ofLabels text blank labels).tokens.getLast?.map (·.toLabel) =
      some (labels.getLast?.getD blank) := by
  cases labels with
  | nil => rfl
  | cons label labels =>
    rw [tokens, List.getLast?_cons, List.getLast?_cons, Option.map_some, Option.getD_some]
    rw [← getLast?_changes label 1 labels]
    congr 1
    change ((changes label 1 labels).getLast?.getD _).toLabel = _
    cases (changes label 1 labels).getLast? <;> rfl

theorem toLabel_mem_of_mem_changes {previous : Label} {offset : Nat} {labels : List Label}
    {token : Token} (h : token ∈ changes previous offset labels) : token.toLabel ∈ labels := by
  induction labels generalizing previous offset with
  | nil => exact absurd h List.not_mem_nil
  | cons label labels ih =>
    rw [changes] at h
    split at h
    · exact List.mem_cons_of_mem label (ih h)
    · rcases List.mem_cons.mp h with rfl | hmem
      · exact List.mem_cons_self
      · exact List.mem_cons_of_mem label (ih hmem)

/-- Each token has the label of a character, or that of an empty line. -/
theorem toLabel_of_mem_ofLabels {text : Text} {blank : Label} {labels : List Label} {token : Token}
    (h : token ∈ (ofLabels text blank labels).tokens) :
    token.toLabel ∈ labels ∨ token.toLabel = blank := by
  cases labels with
  | nil =>
    obtain rfl := List.mem_singleton.mp h
    exact .inr rfl
  | cons label labels =>
    left
    rcases List.mem_cons.mp h with rfl | hmem
    · exact List.mem_cons_self
    · exact List.mem_cons_of_mem label (toLabel_mem_of_mem_changes hmem)

end TokenizedLine

namespace Lexer

variable {registry : Registry} {document : String} {state : LineState} {operand : Option Char}
  {rest close : Text} {step : Step} {place : Place}

/-! ### Steps -/

theorem CommentCase.wellFormed (h : CommentCase state operand rest close step)
    (hstate : state.WellFormed registry document) : step.state.WellFormed registry document := by
  rcases h.state_eq_or with ⟨-, heq⟩ | heq
  · rw [heq]
    exact hstate
  · rw [heq]
    exact hstate.endComment

theorem PlainCase.wellFormed
    (h : PlainCase (registry.grammar state.language) state operand rest step)
    (hstate : state.WellFormed registry document) (hopen : state.commentClose = none) :
    step.state.WellFormed registry document := by
  cases h with
  | leave hregions =>
    have hnested := hstate.nested
    rw [hregions] at hnested
    cases hnested with
    | cons _ hnested => exact hstate.withRegions hopen hnested
  | enter _ hfind =>
    have hmem := List.mem_of_find?_eq_some hfind
    refine hstate.withRegions hopen (.cons ?_ hstate.nested)
    rw [← hstate.document_eq]
    exact hmem
  | @blockComment comment body _ _ _ hfind hbody =>
    have hmem := List.mem_of_find?_eq_some hfind
    -- the comment that opens is one of the language of the text
    have hopened : LineState.WellFormed registry document
        { state with commentClose := some comment.closing } := by
      refine ⟨hstate.document_eq, hstate.nested, fun close hclose => ?_⟩
      exact ⟨comment, hmem, Option.some.inj hclose⟩
    exact hbody.wellFormed hopened
  | lineComment | string | regex | char => exact hstate

theorem Place.wellFormed_next (hstate : place.state.WellFormed registry document) :
    (place.next registry).state.WellFormed registry document := by
  cases hopen : place.state.commentClose with
  | some close => exact (Place.commentCase hopen).wellFormed hstate
  | none => exact (Place.plainCase hopen).wellFormed hstate hopen

theorem CommentCase.label_of_commentClose (h : CommentCase state operand rest close step)
    {pending : Text} (hopen : step.state.commentClose = some pending) :
    step.label = ⟨.comment, step.state.language⟩ := by
  rcases h.state_eq_or with ⟨-, heq⟩ | heq
  · rw [h.label_eq, heq]
  · rw [heq] at hopen
    exact absurd hopen (by simp [LineState.endComment])

/-- A step that leaves a comment open labels its characters as this comment. -/
theorem Place.label_of_commentClose
    (hopen : (place.next registry).state.commentClose = some close) :
    (place.step registry).label = ⟨.comment, (place.next registry).state.language⟩ := by
  rw [Place.next] at hopen ⊢
  dsimp only at hopen ⊢
  cases hcomment : place.state.commentClose with
  | some _ => exact (Place.commentCase hcomment).label_of_commentClose hopen
  | none =>
    have hcase := @Place.plainCase registry place hcomment
    generalize place.step registry = step at hcase hopen ⊢
    cases hcase with
    | blockComment _ _ _ _ hbody =>
      have hlabel := hbody.label_of_commentClose hopen
      exact hlabel
    | leave | enter | lineComment | string | regex | char =>
      exact absurd (hcomment.symm.trans hopen) (by simp)

/-- A step labels its characters with the language before it or the one behind it. -/
theorem Place.language_label :
    (place.step registry).label.language = place.state.language ∨
      (place.step registry).label.language = (place.next registry).state.language := by
  rw [Place.next]
  dsimp only
  cases hcomment : place.state.commentClose with
  | some _ => exact .inl (by rw [(Place.commentCase hcomment).label_eq])
  | none =>
    have hcase := @Place.plainCase registry place hcomment
    generalize place.step registry = step at hcase ⊢
    cases hcase with
    | leave => exact .inr rfl
    | blockComment _ _ _ _ hbody =>
      left
      dsimp only
      rw [hbody.label_eq]
      rfl
    | enter | lineComment | string | regex | char => exact .inl rfl

/-! ### Lines -/

theorem Place.wellFormed_labels (hstate : place.state.WellFormed registry document) :
    (place.labels registry).2.WellFormed registry document := by
  induction place using Place.induction registry with
  | stop place hrest => rwa [Place.labels_of_rest_eq_nil hrest]
  | step place hrest ih =>
    rw [Place.labels_of_rest_ne_nil hrest]
    exact ih (Place.wellFormed_next hstate)

/-- Each character has the language of a well-formed state. -/
theorem Place.exists_wellFormed_of_mem_labels (hstate : place.state.WellFormed registry document)
    {label : Label} (hmem : label ∈ (place.labels registry).1) :
    ∃ state : LineState, state.WellFormed registry document ∧ label.language = state.language := by
  induction place using Place.induction registry with
  | stop place hrest =>
    rw [Place.labels_of_rest_eq_nil hrest] at hmem
    exact absurd hmem List.not_mem_nil
  | step place hrest ih =>
    have hnext := @Place.wellFormed_next registry document place hstate
    rw [Place.labels_of_rest_ne_nil hrest] at hmem
    rcases List.mem_append.mp hmem with hstep | hmore
    · obtain rfl := List.eq_of_mem_replicate hstep
      rcases @Place.language_label registry place with hlanguage | hlanguage
      · exact ⟨_, hstate, hlanguage⟩
      · exact ⟨_, hnext, hlanguage⟩
    · exact ih hnext hmore

/-- A line that leaves a comment open ends with a character of it. -/
theorem Place.getLast?_labels (hrest : place.rest ≠ [])
    (hopen : (place.labels registry).2.commentClose = some close) :
    (place.labels registry).1.getLast? = some ⟨.comment, (place.labels registry).2.language⟩ := by
  induction place using Place.induction registry with
  | stop place hnil => exact absurd hnil hrest
  | step place _ ih =>
    rw [Place.labels_of_rest_ne_nil hrest] at hopen ⊢
    dsimp only at hopen ⊢
    by_cases hmore : (place.next registry).rest = []
    · -- this is the last step, and it takes some characters
      rw [Place.labels_of_rest_eq_nil hmore] at hopen ⊢
      have hpos : 0 < (place.step registry).size := by
        rcases step_progress place.state place.operand place.rest registry hrest with h | ⟨-, h⟩
        · exact h
        · exact absurd (h.symm.trans hopen) (by simp)
      rw [List.append_nil, List.getLast?_replicate, if_neg (Nat.ne_of_gt hpos),
        Place.label_of_commentClose hopen]
    · rw [List.getLast?_append, ih hmore hopen, Option.some_or]

theorem wellFormed_tokenize (hstate : state.WellFormed registry document) (text : Text) :
    (tokenize registry state text).2.WellFormed registry document := by
  rw [tokenize_snd]
  exact @Place.wellFormed_labels registry document (Place.front state text) hstate

/-- Each token has the language of a well-formed state. -/
theorem exists_wellFormed_of_mem_tokens (hstate : state.WellFormed registry document) {text : Text}
    {token : Token} (hmem : token ∈ (tokenize registry state text).1.tokens) :
    ∃ other : LineState, other.WellFormed registry document ∧
      token.language = other.language := by
  rw [tokenize_fst] at hmem
  rcases TokenizedLine.toLabel_of_mem_ofLabels hmem with hlabel | hblank
  · exact @Place.exists_wellFormed_of_mem_labels registry document (Place.front state text) hstate
      _ hlabel
  · have hlanguage := congrArg Label.language hblank
    exact ⟨state, hstate, hlanguage⟩

/-- The last token of a line that leaves a comment open belongs to the comment. -/
theorem getLast?_tokens_tokenize {text : Text}
    (hopen : (tokenize registry state text).2.commentClose = some close) :
    (tokenize registry state text).1.tokens.getLast?.map (·.toLabel) =
      some ⟨.comment, (tokenize registry state text).2.language⟩ := by
  rw [tokenize_snd] at hopen ⊢
  rw [tokenize_fst, TokenizedLine.getLast?_ofLabels]
  by_cases htext : text = []
  · -- an empty line has one token, which belongs to the comment that was open before it
    have hlabels : labels registry state none text = ([], state) :=
      @Place.labels_of_rest_eq_nil registry (Place.front state text) htext
    rw [hlabels] at hopen ⊢
    change some (blankLabel state) = _
    change state.commentClose = some close at hopen
    rw [blankLabel, hopen]
    rfl
  · have hlast : (labels registry state none text).1.getLast? = _ :=
      @Place.getLast?_labels registry close (Place.front state text) htext hopen
    rw [hlast]
    rfl

/-! ### Documents -/

/-- Each line of a document is lexed from a well-formed state. -/
theorem exists_wellFormed_of_mem_tokenizeLines {texts : List Text} {line : TokenizedLine}
    (h : (line, state) ∈ tokenizeLines registry (.initial document) texts) :
    ∃ before text, before.WellFormed registry document ∧
      line = (tokenize registry before text).1 ∧ state = (tokenize registry before text).2 := by
  obtain ⟨before, text, hbefore, heq⟩ := exists_of_mem_tokenizeLines
    (motive := LineState.WellFormed registry document)
    (fun _ text hstate => wellFormed_tokenize hstate text) (.initial registry document) h
  exact ⟨before, text, hbefore, congrArg Prod.fst heq, congrArg Prod.snd heq⟩

/-- The state behind each line of a document is well-formed, and a line that leaves a comment open
ends with a token of it. -/
theorem wellFormed_of_mem_tokenizeLines {registry : Registry} {document : String}
    {texts : List Text} {line : TokenizedLine} {state : LineState}
    (h : (line, state) ∈ tokenizeLines registry (.initial document) texts) :
    state.WellFormed registry document ∧
      ∀ close, state.commentClose = some close →
        line.tokens.getLast?.map (·.toLabel) = some ⟨.comment, state.language⟩ := by
  obtain ⟨before, text, hbefore, rfl, rfl⟩ := exists_wellFormed_of_mem_tokenizeLines h
  exact ⟨wellFormed_tokenize hbefore text, fun _ hopen => getLast?_tokens_tokenize hopen⟩

/-- A script whose comment goes on in the next line. -/
theorem wellFormed_of_mem_tokenizeLines_open_comment :
    let state : LineState :=
      ⟨"html", [⟨"javascript", "</script>".toList⟩], some "*/".toList⟩
    let line := (tokenize .builtin (.initial "html") "<script>/*".toList).1
    (line, state) ∈ tokenizeLines .builtin (.initial "html") ["<script>/*".toList] ∧
      state.WellFormed .builtin "html" ∧
      line.tokens.getLast?.map (·.toLabel) = some ⟨.comment, "javascript"⟩ := by
  intro state line
  have henter : (Place.front (.initial "html") "<script>/*".toList).step .builtin =
      ⟨8, ⟨.other, "html"⟩, ⟨"html", [⟨"javascript", "</script>".toList⟩], none⟩, none⟩ := by
    change plainStep (Registry.builtin.grammar "html") (.initial "html") none
      "<script>/*".toList = _
    rw [Registry.grammar_of_get? Registry.get?_builtin_html]
    decide
  have hcomment : Place.step .builtin
      ⟨⟨"html", [⟨"javascript", "</script>".toList⟩], none⟩, none, "/*".toList⟩ =
      ⟨2, ⟨.comment, "javascript"⟩, state, none⟩ := by
    change plainStep (Registry.builtin.grammar "javascript")
      ⟨"html", [⟨"javascript", "</script>".toList⟩], none⟩ none "/*".toList = _
    rw [Registry.grammar_of_get? Registry.get?_builtin_javascript]
    decide
  have hlast : (tokenize .builtin (.initial "html") "<script>/*".toList).2 = state := by
    rw [tokenize_snd]
    change ((Place.front (.initial "html") "<script>/*".toList).labels .builtin).2 = state
    rw [Place.labels_of_step_eq (by decide) henter]
    change (Place.labels .builtin
      ⟨⟨"html", [⟨"javascript", "</script>".toList⟩], none⟩, none, "/*".toList⟩).2 = state
    rw [Place.labels_of_step_eq (by decide) hcomment]
    exact congrArg Prod.snd (Place.labels_of_rest_eq_nil rfl)
  have hmem : (line, state) ∈ tokenizeLines .builtin (.initial "html") ["<script>/*".toList] :=
    List.mem_singleton.mpr (Prod.ext rfl hlast.symm)
  have hresult := wellFormed_of_mem_tokenizeLines hmem
  exact ⟨hmem, hresult.1, hresult.2 _ rfl⟩

end Lexer

end Indentation
