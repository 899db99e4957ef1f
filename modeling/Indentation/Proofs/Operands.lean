import Indentation.Proofs.Lookup
import Indentation.Proofs.Slices

/-!
# Where a regular expression starts

A slash opens a regular expression where an operand can stand, and otherwise it divides. The lexer
decides this by the last character it has seen that is not blank, and it forgets this character
whenever a block comment ends. So a regular expression starts at a slash behind a mark that asks for
an operand, or at the front of the line, or else behind a comment, which may hide any other
character from it.

## Main definitions

* `isSignificant` — a character that is neither blank nor in a comment
* `IsNearest` — the last significant character among some characters
* `lookBack` — the last significant character behind the last comment
* `Lexer.Recalls` — what the lexer remembers where it stands in a line of one language

## Main results

* `IsNearest.lookBack_eq_or` — looking back finds the nearest significant character, unless a
  comment stands behind it
* `Lexer.Recalls.next`, `Lexer.Recalls.of_reaches` — a step and a run keep what the lexer remembers
  true
* `Lexer.Recalls.exists_regex_start` — so regular expressions start where an operand can stand
* `Lexer.regex_starts_behind_mark` — where the regular expressions of a line start
-/

namespace Indentation

/-! ### Looking back -/

/-- A character that is neither blank nor in a comment. -/
def isSignificant (cell : Char × Label) : Prop :=
  Character.isBlank cell.1 = false ∧ cell.2.kind ≠ .comment

/-- The last one of some characters that is significant stands at `index`. -/
structure IsNearest (cells : List (Char × Label)) (index : Nat) (cell : Char × Label) : Prop where
  getElem?_eq : cells[index]? = some cell
  significant : isSignificant cell
  last : ∀ i other, index < i → cells[i]? = some other → ¬ isSignificant other

/-- What is remembered behind one more character: nothing of what stands before a comment. -/
def remember (operand : Option Char) (cell : Char × Label) : Option Char :=
  if cell.2.kind = .comment then none
  else if Character.isBlank cell.1 then operand
  else some cell.1

/-- The last significant character behind the last comment. -/
def lookBack (cells : List (Char × Label)) : Option Char :=
  cells.foldl remember none

section LookBack

variable {cells piece : List (Char × Label)} {cell : Char × Label} {index : Nat}

theorem remember_of_isSignificant (operand : Option Char) (h : isSignificant cell) :
    remember operand cell = some cell.1 := by
  rw [remember, if_neg h.2, if_neg (by simp [h.1])]

theorem lookBack_append (cells piece : List (Char × Label)) :
    lookBack (cells ++ piece) = piece.foldl remember (lookBack cells) :=
  List.foldl_append

theorem lookBack_concat (cells : List (Char × Label)) (cell : Char × Label) :
    lookBack (cells ++ [cell]) = remember (lookBack cells) cell :=
  lookBack_append cells [cell]

/-- Blanks are passed over. -/
theorem foldl_remember_of_blank (operand : Option Char)
    (h : ∀ cell ∈ piece, ¬ isSignificant cell ∧ cell.2.kind ≠ .comment) :
    piece.foldl remember operand = operand := by
  induction piece with
  | nil => rfl
  | cons cell piece ih =>
    obtain ⟨hnot, hcomment⟩ := h cell List.mem_cons_self
    have hblank : Character.isBlank cell.1 = true := by
      by_contra hblank
      exact hnot ⟨Bool.eq_false_iff.mpr hblank, hcomment⟩
    rw [List.foldl_cons, remember, if_neg hcomment, if_pos hblank]
    exact ih fun other hmem => h other (List.mem_cons_of_mem cell hmem)

/-- A comment hides all that stands before it. -/
theorem lookBack_append_comment {label : Label} (hlabel : label.kind = .comment) {chars : Text}
    (hchars : chars ≠ []) : lookBack (cells ++ chars.map (·, label)) = none := by
  obtain ⟨front, c, rfl⟩ := (List.eq_nil_or_concat' chars).resolve_left hchars
  rw [List.map_append, List.map_singleton, ← List.append_assoc, lookBack_concat, remember,
    if_pos hlabel]

/-- Looking back finds the nearest significant character, unless a comment stands behind it. -/
theorem IsNearest.lookBack_eq_or (h : IsNearest cells index cell) :
    lookBack cells = some cell.1 ∨
      ∃ i other, index < i ∧ cells[i]? = some other ∧ other.2.kind = .comment := by
  by_cases hcomment : ∃ other ∈ cells.drop (index + 1), other.2.kind = .comment
  · obtain ⟨other, hmem, hkind⟩ := hcomment
    obtain ⟨i, hi⟩ := List.mem_iff_getElem?.mp hmem
    rw [List.getElem?_drop] at hi
    exact .inr ⟨index + 1 + i, other, by omega, hi, hkind⟩
  · left
    obtain ⟨hlt, hcell⟩ := List.getElem?_eq_some_iff.mp h.getElem?_eq
    have hsplit : cells = cells.take index ++ [cell] ++ cells.drop (index + 1) := by
      rw [← hcell, List.take_append_getElem, List.take_append_drop]
    -- only blanks stand behind the nearest significant character
    have hblank : ∀ other ∈ cells.drop (index + 1),
        ¬ isSignificant other ∧ other.2.kind ≠ .comment := by
      intro other hmem
      obtain ⟨i, hi⟩ := List.mem_iff_getElem?.mp hmem
      rw [List.getElem?_drop] at hi
      exact ⟨h.last _ other (by omega) hi, fun hkind => hcomment ⟨other, hmem, hkind⟩⟩
    rw [hsplit, lookBack_append, lookBack_concat, remember_of_isSignificant _ h.significant]
    exact foldl_remember_of_blank _ hblank

end LookBack

namespace Lexer

theorem not_blank_of_mem_operandMarks {c : Char} (h : c ∈ operandMarks) :
    Character.isBlank c = false := by
  have hall : (operandMarks.all fun c => !Character.isBlank c) = true := by decide
  simpa using List.all_eq_true.mp hall c h

/-- A string that ends in front of more text ends with its quote. -/
theorem exists_take_stringSize {quote : Char} {cs : Text}
    (h : Text.stringSize [] quote cs < cs.length) :
    ∃ body, cs.take (Text.stringSize [] quote cs) = body ++ [quote] := by
  fun_induction Text.stringSize [] quote cs with
  | case1 => exact absurd h (Nat.lt_irrefl 0)
  | case2 c hclose | case4 c d cs hclose => exact absurd hclose (by simp [Text.beginsWith])
  | case3 c => exact absurd h (Nat.lt_irrefl 1)
  | case5 d cs _ ih =>
    obtain ⟨body, hbody⟩ := ih (by simpa using h)
    exact ⟨'\\' :: d :: body, by rw [List.take_succ_cons, List.take_succ_cons, hbody]; rfl⟩
  | case6 d cs => exact ⟨[], rfl⟩
  | case7 c d cs _ _ _ ih =>
    obtain ⟨body, hbody⟩ := ih (by simpa using h)
    exact ⟨c :: body, by rw [List.take_succ_cons, hbody]; rfl⟩

theorem CommentCase.regions_eq {state : LineState} {operand : Option Char} {rest close : Text}
    {step : Step} (h : CommentCase state operand rest close step) :
    step.state.regions = state.regions ∧ step.state.document = state.document := by
  rcases h.state_eq_or with ⟨-, hstate⟩ | hstate <;> rw [hstate] <;> exact ⟨rfl, rfl⟩

theorem charStep_cons (state : LineState) (operand : Option Char) (c : Char) (cs : Text) :
    charStep state operand (c :: cs) =
      ⟨1, ⟨.other, state.language⟩, state, if Character.isBlank c then operand else some c⟩ :=
  rfl

/-! ### What the lexer remembers -/

/-- The lexer stands behind some characters of a line, outside of all regions and in a language
without embedded ones. Where it would take a slash for the start of a regular expression now or
behind the comment that is open, looking back finds nothing or a mark that asks for an operand. -/
structure Recalls (registry : Registry) (place : Place) (before : List (Char × Label)) : Prop where
  regions_eq : place.state.regions = []
  embedded_eq : (registry.grammar place.state.document).embedded = []
  admits : place.rest ≠ [] →
    place.state.commentClose.isSome = true ∨ admitsOperand place.operand = true →
    admitsOperand (lookBack before) = true

section Steps

variable {registry : Registry} {place : Place} {before : List (Char × Label)}

namespace Recalls

theorem language_eq (h : Recalls registry place before) :
    place.state.language = place.state.document := by
  rw [LineState.language, h.regions_eq]
  rfl

theorem close_eq (h : Recalls registry place before) : place.state.close = [] := by
  rw [LineState.close, LineState.close?, h.regions_eq]
  rfl

/-- Behind a comment that has characters there is nothing to remember. -/
theorem of_comment (h : Recalls registry place before) {target : Place} {label : Label}
    {chars : Text} (hregions : target.state.regions = place.state.regions)
    (hdocument : target.state.document = place.state.document) (hlabel : label.kind = .comment)
    (hchars : chars ≠ []) : Recalls registry target (before ++ chars.map (·, label)) where
  regions_eq := hregions.trans h.regions_eq
  embedded_eq := by
    rw [hdocument]
    exact h.embedded_eq
  admits _ _ := by
    rw [lookBack_append_comment hlabel hchars]
    rfl

/-- The rest of a comment keeps what the lexer remembers true. -/
theorem next_of_comment (h : Recalls registry place before) (hrest : place.rest ≠ [])
    {close : Text} (hopen : place.state.commentClose = some close) {step : Step}
    (hcase : CommentCase place.state place.operand place.rest close step) :
    Recalls registry ⟨step.state, step.operand, place.rest.drop step.size⟩
      (before ++ (place.rest.take step.size).map (·, step.label)) := by
  obtain ⟨hregions, hdocument⟩ := hcase.regions_eq
  by_cases hzero : step.size = 0
  · -- nothing is taken, so looking back finds what it found before
    rw [hzero, List.take_zero, List.map_nil, List.append_nil]
    refine ⟨hregions.trans h.regions_eq, ?_, fun _ _ => h.admits hrest (.inl (by simp [hopen]))⟩
    rw [hdocument]
    exact h.embedded_eq
  · refine h.of_comment hregions hdocument (by rw [hcase.label_eq]) ?_
    rw [Ne, List.take_eq_nil_iff]
    exact not_or.mpr ⟨hzero, hrest⟩

/-- A step outside of comments keeps what the lexer remembers true. -/
theorem next_of_plain (h : Recalls registry place before) (hrest : place.rest ≠ [])
    (hopen : place.state.commentClose = none) {step : Step}
    (hcase : PlainCase (registry.grammar place.state.language) place.state place.operand place.rest
      step) :
    Recalls registry ⟨step.state, step.operand, place.rest.drop step.size⟩
      (before ++ (place.rest.take step.size).map (·, step.label)) := by
  have htaken : place.rest.take step.size ≠ [] := by
    rw [Ne, List.take_eq_nil_iff]
    exact not_or.mpr ⟨(hcase.size_pos hrest).ne', hrest⟩
  have hclosed : ¬ place.state.commentClose.isSome = true := by simp [hopen]
  cases hcase with
  | leave hregions => exact absurd (h.regions_eq.symm.trans hregions) (by simp)
  | enter _ hfind =>
    rw [h.language_eq, h.embedded_eq] at hfind
    exact absurd hfind (by simp)
  | lineComment => exact h.of_comment rfl rfl rfl htaken
  | blockComment _ _ _ _ hbody =>
    obtain ⟨hregions, hdocument⟩ := hbody.regions_eq
    exact h.of_comment hregions hdocument (congrArg Label.kind hbody.label_eq) htaken
  | @string quote cs _ _ _ _ hcons _ =>
    refine ⟨h.regions_eq, h.embedded_eq, fun hmore hadmits => ?_⟩
    have hmark := hadmits.resolve_left hclosed
    have hblank := not_blank_of_mem_operandMarks (c := quote) (by simpa [admitsOperand] using hmark)
    -- the string does not reach the end of the line, so that its last character is the quote
    dsimp only at hmore ⊢
    rw [h.close_eq, hcons, List.drop_succ_cons, Ne, List.drop_eq_nil_iff, Nat.not_le] at hmore
    obtain ⟨body, hbody⟩ := exists_take_stringSize hmore
    rw [h.close_eq, hcons, List.take_succ_cons, hbody, ← List.cons_append, List.map_append,
      ← List.append_assoc, List.map_singleton, lookBack_concat,
      remember_of_isSignificant _ ⟨hblank, by simp⟩]
    exact hmark
  | regex =>
    refine ⟨h.regions_eq, h.embedded_eq, fun _ hadmits => ?_⟩
    have hslash : admitsOperand (some '/') = true := hadmits.resolve_left hclosed
    exact absurd hslash (by decide)
  | char =>
    obtain ⟨c, cs, hcons⟩ := List.exists_cons_of_ne_nil hrest
    rw [hcons, charStep_cons]
    refine ⟨h.regions_eq, h.embedded_eq, fun _ hadmits => ?_⟩
    have hnext := hadmits.resolve_left hclosed
    dsimp only at hnext ⊢
    rw [List.take_succ_cons, List.take_zero, List.map_singleton, lookBack_concat, remember,
      if_neg (by simp)]
    by_cases hblank : Character.isBlank c = true
    · rw [if_pos hblank] at hnext ⊢
      exact h.admits hrest (.inr hnext)
    · rw [if_neg hblank] at hnext ⊢
      exact hnext

/-- A step keeps what the lexer remembers true. -/
theorem next (h : Recalls registry place before) (hrest : place.rest ≠ []) :
    Recalls registry (place.next registry)
      (before ++ (place.rest.take (place.step registry).size).map
        (·, (place.step registry).label)) := by
  cases hopen : place.state.commentClose with
  | some close => exact h.next_of_comment hrest hopen (Place.commentCase hopen)
  | none => exact h.next_of_plain hrest hopen (Place.plainCase hopen)

end Recalls

/-- A regular expression is only taken at a slash, and where the character that is remembered admits
an operand. -/
theorem Place.of_regex_step (hkind : (place.step registry).label.kind = .regex) :
    place.rest[0]? = some '/' ∧ admitsOperand place.operand = true := by
  cases hopen : place.state.commentClose with
  | some close =>
    rw [(@Place.commentCase registry place close hopen).label_eq] at hkind
    exact absurd hkind (by simp)
  | none =>
    have hcase := @Place.plainCase registry place hopen
    generalize place.step registry = step at hcase hkind
    cases hcase with
    | regex _ _ _ _ _ hcons hallowed => exact ⟨by rw [hcons]; rfl, hallowed.2⟩
    | blockComment _ _ _ _ hbody =>
      rw [hbody.label_eq] at hkind
      exact absurd hkind (by simp)
    | leave | enter | lineComment | string | char => exact absurd hkind (by simp [charStep])

/-- The characters that a step takes, with their labels, and those behind them. -/
theorem Place.zip_labels (hrest : place.rest ≠ []) :
    place.rest.zip (place.labels registry).1 =
      (place.rest.take (place.step registry).size).map (·, (place.step registry).label) ++
        (place.next registry).rest.zip ((place.next registry).labels registry).1 := by
  have hsize := Place.step_size_le registry hrest
  have hlength : (place.rest.take (place.step registry).size).length =
      (List.replicate (place.step registry).size (place.step registry).label).length := by
    rw [List.length_take, List.length_replicate, Nat.min_eq_left hsize]
  conv_lhs => rw [← List.take_append_drop (place.step registry).size place.rest]
  rw [Place.labels_of_rest_ne_nil hrest, List.zip_append hlength]
  congr 1
  rw [List.map_prod_left_eq_zip, List.map_const', hlength, List.length_replicate]

/-- A run keeps what the lexer remembers true. -/
theorem Recalls.of_reaches {n : Nat} {target : Place} (h : Recalls registry place before)
    (hreach : Reaches registry place n target) :
    Recalls registry target (before ++ (place.rest.zip (place.labels registry).1).take n) := by
  induction hreach generalizing before with
  | refl =>
    rw [List.take_zero, List.append_nil]
    exact h
  | @step place target n hrest _ ih =>
    have hsize := Place.step_size_le registry hrest
    have htaken : ((place.rest.take (place.step registry).size).map
        (·, (place.step registry).label)).length = (place.step registry).size := by
      rw [List.length_map, List.length_take, Nat.min_eq_left hsize]
    have htarget := ih (h.next hrest)
    rw [Place.zip_labels hrest, List.take_append, List.take_of_length_le (by omega), htaken,
      Nat.add_sub_cancel_left, ← List.append_assoc]
    exact htarget

/-- A character of a regular expression belongs to one that starts at a slash, where looking back
finds nothing or a mark that asks for an operand. -/
theorem Recalls.exists_regex_start (h : Recalls registry place before) {i : Nat} {label : Label}
    (hlabel : (place.labels registry).1[i]? = some label) (hkind : label.kind = .regex) :
    ∃ j ≤ i, (∀ k, j ≤ k → k ≤ i → (place.labels registry).1[k]? = some label) ∧
      place.rest[j]? = some '/' ∧
      admitsOperand (lookBack (before ++ (place.rest.zip (place.labels registry).1).take j)) =
        true := by
  have hi := (List.getElem?_eq_some_iff.mp hlabel).1
  rw [Place.length_labels] at hi
  -- the step that takes the character takes the regular expression from its start
  obtain ⟨j, target, hreach, hrest, hj, hlt⟩ := place.exists_reaches registry hi
  have hfront (k : Nat) (hjk : j ≤ k) (hk : k ≤ i) :
      (place.labels registry).1[k]? = some (target.step registry).label := by
    obtain ⟨k, rfl⟩ := Nat.exists_eq_add_of_le hjk
    exact hreach.getElem?_labels hrest (by omega)
  obtain rfl := Option.some.inj ((hfront i hj (Nat.le_refl i)).symm.trans hlabel)
  obtain ⟨hslash, hadmits⟩ := Place.of_regex_step hkind
  refine ⟨j, hj, hfront, ?_, (h.of_reaches hreach).admits hrest (.inr hadmits)⟩
  rw [hreach.rest_eq, List.getElem?_drop] at hslash
  exact hslash

end Steps

/-! ### Regular expressions of a line -/

section Lines

variable {registry : Registry} {state : LineState} {text : Text}

theorem recalls_front (hembedded : (registry.grammar state.document).embedded = [])
    (hregions : state.regions = []) : Recalls registry (Place.front state text) [] :=
  ⟨hregions, hembedded, fun _ _ => rfl⟩

theorem tokenize_nil :
    tokenize registry state [] = (.single [] (blankLabel state), state) := by
  rw [tokenize_eq, labels, dif_pos rfl]
  rfl

theorem start_lt_length_of_regex {token : Token}
    (hmem : token ∈ (tokenize registry state text).1.tokens) (hkind : token.kind = .regex) :
    token.start < text.length := by
  have htext : text ≠ [] := by
    rintro rfl
    -- an empty line has one token, which is no literal or a comment
    rw [tokenize_nil] at hmem
    obtain rfl := List.mem_singleton.mp hmem
    change (blankLabel state).kind = .regex at hkind
    cases hopen : state.commentClose <;> simp [blankLabel, hopen] at hkind
  have hlt := (canonical_tokenize registry state text).start_lt_length (by simpa using htext) token
    hmem
  rwa [tokenize_text] at hlt

/-- Where a regular expression of a line starts, there is a slash, and looking back finds nothing or
a mark that asks for an operand. -/
theorem slash_of_regex (hembedded : (registry.grammar state.document).embedded = [])
    (hregions : state.regions = []) {token : Token}
    (hmem : token ∈ (tokenize registry state text).1.tokens) (hkind : token.kind = .regex) :
    text[token.start]? = some '/' ∧
      admitsOperand (lookBack ((tokenize registry state text).1.cells.take token.start)) =
        true := by
  have hlt := start_lt_length_of_regex hmem hkind
  obtain ⟨hat, hbefore⟩ := (canonical_tokenize registry state text).labelOf_start hmem
  have hlabel := @getElem?_labels_eq_labelOf registry state text token.start hlt
  rw [hat] at hlabel
  obtain ⟨j, hj, hsame, hslash, hadmits⟩ :=
    (@recalls_front registry state text hembedded hregions).exists_regex_start hlabel hkind
  -- the literal starts where its token does, since in front of the token there is another label
  obtain rfl : j = token.start := by
    by_contra hne
    have hpred := hsame (token.start - 1) (by omega) (by omega)
    rw [getElem?_labels_eq_labelOf (by omega)] at hpred
    exact hbefore (by omega) (Option.some.inj hpred)
  rw [cells_tokenize]
  exact ⟨hslash, hadmits⟩

end Lines

/-- In a line of a language without embedded regions, whatever comment is open in front of it, every
regular expression starts at a slash. The nearest character before it that is neither blank nor in a
comment is a mark that asks for an operand, unless there is no such character or a comment stands
between the two. -/
theorem regex_starts_behind_mark (registry : Registry) (state : LineState) (text : Text)
    (hembedded : (registry.grammar state.document).embedded = []) (hregions : state.regions = [])
    (token : Token) (hmem : token ∈ (tokenize registry state text).1.tokens)
    (hkind : token.kind = .regex) :
    text[token.start]? = some '/' ∧
      ∀ index cell, IsNearest ((tokenize registry state text).1.cells.take token.start) index cell →
        cell.1 ∈ operandMarks ∨ ∃ i, index < i ∧ i < token.start ∧
          ((tokenize registry state text).1.labelOf (i : Nat)).kind = .comment := by
  obtain ⟨hslash, hadmits⟩ := slash_of_regex hembedded hregions hmem hkind
  refine ⟨hslash, fun index cell hnearest => ?_⟩
  rcases hnearest.lookBack_eq_or with hback | ⟨i, other, hlt, hother, hcomment⟩
  · rw [hback] at hadmits
    exact .inl (by simpa [admitsOperand] using hadmits)
  · have hi : i < token.start := by
      have := (List.getElem?_eq_some_iff.mp hother).1
      rw [List.length_take] at this
      omega
    rw [List.getElem?_take_of_lt hi,
      TokenizedLine.cells_getElem? (canonical_tokenize registry state text).ascending] at hother
    obtain ⟨c, -, rfl⟩ := Option.map_eq_some_iff.mp hother
    exact .inr ⟨i, hlt, hi, hcomment⟩

/-- The tokens of a line in which a comment stands between an operand and a slash. -/
theorem tokenize_hidden_operand :
    (tokenize .builtin (.initial "javascript") "a/**//b/".toList).1 =
      ⟨"a/**//b/".toList, ⟨.other, "javascript"⟩,
        [⟨⟨.comment, "javascript"⟩, 1⟩, ⟨⟨.regex, "javascript"⟩, 5⟩]⟩ := by
  have hstep (operand : Option Char) (rest : Text) :
      Place.step .builtin ⟨.initial "javascript", operand, rest⟩ =
        plainStep Builtin.javascript.grammar (.initial "javascript") operand rest := by
    rw [step_of_no_comment rfl, ← Registry.grammar_of_get? Registry.get?_builtin_javascript]
    rfl
  have hname : (Place.front (.initial "javascript") "a/**//b/".toList).step .builtin =
      ⟨1, ⟨.other, "javascript"⟩, .initial "javascript", some 'a'⟩ :=
    (hstep none "a/**//b/".toList).trans (by decide)
  have hcomment : Place.step .builtin ⟨.initial "javascript", some 'a', "/**//b/".toList⟩ =
      ⟨4, ⟨.comment, "javascript"⟩, .initial "javascript", none⟩ :=
    (hstep (some 'a') "/**//b/".toList).trans (by decide)
  -- behind the comment the name is forgotten
  have hregex : Place.step .builtin ⟨.initial "javascript", none, "/b/".toList⟩ =
      ⟨3, ⟨.regex, "javascript"⟩, .initial "javascript", some '/'⟩ :=
    (hstep none "/b/".toList).trans (by decide)
  have hlabels : (labels .builtin (.initial "javascript") none "a/**//b/".toList).1 =
      List.replicate 1 ⟨.other, "javascript"⟩ ++ (List.replicate 4 ⟨.comment, "javascript"⟩ ++
        (List.replicate 3 ⟨.regex, "javascript"⟩ ++ [])) := by
    change ((Place.front (.initial "javascript") "a/**//b/".toList).labels .builtin).1 = _
    rw [Place.labels_of_step_eq (by decide) hname]
    change _ ++ (Place.labels .builtin ⟨.initial "javascript", some 'a', "/**//b/".toList⟩).1 = _
    rw [Place.labels_of_step_eq (by decide) hcomment]
    change _ ++ (_ ++ (Place.labels .builtin ⟨.initial "javascript", none, "/b/".toList⟩).1) = _
    rw [Place.labels_of_step_eq (by decide) hregex, Place.labels_of_rest_eq_nil rfl]
  rw [tokenize_fst, hlabels]
  rfl

/-- A comment hides the operand in front of it, and what follows is no division any more. -/
theorem regex_starts_behind_mark_hidden :
    let line := (tokenize .builtin (.initial "javascript") "a/**//b/".toList).1
    (⟨⟨.regex, "javascript"⟩, 5⟩ : Token) ∈ line.tokens ∧
      IsNearest (line.cells.take 5) 0 ('a', ⟨.other, "javascript"⟩) ∧ 'a' ∉ operandMarks ∧
      ∃ i, 0 < i ∧ i < 5 ∧ (line.labelOf (i : Nat)).kind = .comment := by
  intro line
  have hline : line = _ := tokenize_hidden_operand
  have hmem : (⟨⟨.regex, "javascript"⟩, 5⟩ : Token) ∈ line.tokens := by
    rw [hline]
    decide
  have hnearest : IsNearest (line.cells.take 5) 0 ('a', ⟨.other, "javascript"⟩) := by
    have hcells : line.cells.take 5 = ('a', ⟨.other, "javascript"⟩) ::
        "/**/".toList.map (·, ⟨.comment, "javascript"⟩) := by
      rw [hline]
      decide
    rw [hcells]
    refine ⟨rfl, ⟨by decide, by decide⟩, fun i other hpos hother hsignificant => ?_⟩
    obtain ⟨i, rfl⟩ : ∃ j, i = j + 1 := ⟨i - 1, by omega⟩
    obtain ⟨c, -, rfl⟩ := List.mem_map.mp (List.mem_of_getElem? hother)
    exact hsignificant.2 rfl
  have hembedded : (Registry.builtin.grammar "javascript").embedded = [] := by
    rw [Registry.grammar_of_get? Registry.get?_builtin_javascript]
    rfl
  have hresult := regex_starts_behind_mark .builtin (.initial "javascript") "a/**//b/".toList
    hembedded rfl _ hmem rfl
  exact ⟨hmem, hnearest, by decide, (hresult.2 0 _ hnearest).resolve_left (by decide)⟩

end Lexer

end Indentation
