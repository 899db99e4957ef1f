import Indentation.Proofs.Items
import Indentation.Proofs.Runs

/-!
# The bodies of literals

Where a character can be put into a line so that it lands in a literal: behind the opening delimiter
of a string or of a comment and not behind the start of its closing one, but never between a
backslash and the character that it escapes. If no delimiter of the language holds the character,
the lexer goes on as before: the literal becomes one character longer, every other step stays as it
is, and so does the state behind the line.

The language has no embedded regions and no regular expressions here.

## Main definitions

* `Lexer.StringBoundary` — the offsets between the items of a string
* `Lexer.Body` — the offsets in the body of the literal that the lexer takes at a place
* `Lexer.InLiteral` — the offsets in the body of a literal further on in the line
* `Grammar.Foreign`, `Grammar.Inert` — a character that no delimiter holds

## Main results

* `Lexer.Body.step_insert` — a character in the body makes the step one character longer
* `Lexer.step_insert_of_le` — a character further on does not change a step
* `Lexer.InLiteral.labels_insert` — the labels of the line with the character
-/

namespace Indentation

namespace Lexer

/-- The offsets in a string, counted behind its opening quote, that lie between two items: at the
front, behind an item that is not the closing quote, and behind a backslash that ends the line. -/
inductive StringBoundary (quote : Char) : Text → Nat → Prop where
  | front (cs : Text) : StringBoundary quote cs 0
  | escape {d : Char} {cs : Text} {offset : Nat} (h : StringBoundary quote cs offset) :
      StringBoundary quote ('\\' :: d :: cs) (offset + 2)
  | lone : StringBoundary quote ['\\'] 1
  | char {c : Char} {cs : Text} {offset : Nat} (hescape : c ≠ '\\') (hquote : c ≠ quote)
      (h : StringBoundary quote cs offset) : StringBoundary quote (c :: cs) (offset + 1)

/-- `Body registry place close offset`: the lexer takes a literal at `place`, and `offset` lies in
its body. Only the literals of strings and block comments have a closing delimiter. -/
inductive Body (registry : Registry) (place : Place) : Option Text → Nat → Prop where
  /-- The rest of a block comment that is open. -/
  | pending {close : Text} {offset : Nat} (hopen : place.state.commentClose = some close)
      (hle : offset ≤ (Text.find? close place.rest).getD place.rest.length) :
      Body registry place (some close) offset
  | lineComment {opening : Text} {offset : Nat} (hopen : place.state.commentClose = none)
      (hline : (registry.grammar place.state.language).lineComments.find? place.rest.beginsWith =
        some opening)
      (hstart : opening.length ≤ offset) (hle : offset ≤ place.rest.length) :
      Body registry place none offset
  | blockComment {comment : BlockComment} {offset : Nat} (hopen : place.state.commentClose = none)
      (hline : (registry.grammar place.state.language).lineComments.find? place.rest.beginsWith =
        none)
      (hblock : ((registry.grammar place.state.language).blockComments.find?
        fun comment => place.rest.beginsWith comment.opening) = some comment)
      (hle : offset ≤ (Text.find? comment.closing (place.rest.drop comment.opening.length)).getD
        (place.rest.length - comment.opening.length)) :
      Body registry place (some comment.closing) (comment.opening.length + offset)
  | string {quote : Char} {cs : Text} {offset : Nat} (hopen : place.state.commentClose = none)
      (hline : (registry.grammar place.state.language).lineComments.find? place.rest.beginsWith =
        none)
      (hblock : ((registry.grammar place.state.language).blockComments.find?
        fun comment => place.rest.beginsWith comment.opening) = none)
      (hrest : place.rest = quote :: cs)
      (hquote : [quote] ∈ (registry.grammar place.state.language).quotes)
      (hboundary : StringBoundary quote cs offset) :
      Body registry place (some [quote]) (offset + 1)

/-- `InLiteral registry place close offset`: counted from `place`, `offset` lies in the body of the
literal at `place`, or of one behind the step that the lexer takes there. -/
inductive InLiteral (registry : Registry) : Place → Option Text → Nat → Prop where
  | here {place : Place} {close : Option Text} {offset : Nat}
      (h : Body registry place close offset) : InLiteral registry place close offset
  | later {place : Place} {close : Option Text} {offset : Nat}
      (hmore : (place.next registry).rest ≠ [])
      (h : InLiteral registry (place.next registry) close offset) :
      InLiteral registry place close ((place.step registry).size + offset)

end Lexer

/-- A character that no delimiter of comments and strings holds. -/
structure Grammar.Foreign (grammar : Grammar) (c : Char) : Prop where
  not_mem_lineComment : ∀ opening ∈ grammar.lineComments, c ∉ opening
  not_mem_opening : ∀ comment ∈ grammar.blockComments, c ∉ comment.opening
  not_mem_closing : ∀ comment ∈ grammar.blockComments, c ∉ comment.closing
  not_mem_quotes : [c] ∉ grammar.quotes

/-- Such a character, which is no backslash either, in a language with neither embedded regions nor
regular expressions. -/
structure Grammar.Inert (grammar : Grammar) (c : Char) : Prop extends grammar.Foreign c where
  embedded_eq_nil : grammar.embedded = []
  regexLiterals_eq_false : grammar.regexLiterals = false
  ne_backslash : c ≠ '\\'

/-- What is open between two lines of a document in one language: no region, and no comment whose
closing delimiter holds the character. -/
structure LineState.Inert (state : LineState) (language : String) (c : Char) : Prop where
  document_eq : state.document = language
  regions_eq_nil : state.regions = []
  not_mem_commentClose : ∀ close, state.commentClose = some close → c ∉ close

namespace LineState.Inert

variable {state : LineState} {language : String} {c : Char}

theorem language_eq (h : state.Inert language c) : state.language = language := by
  rw [LineState.language, h.regions_eq_nil]
  exact h.document_eq

theorem close_eq_nil (h : state.Inert language c) : state.close = [] := by
  rw [LineState.close, LineState.close?, h.regions_eq_nil]
  rfl

end LineState.Inert

namespace Lexer

/-! ### Comments and strings with one more character -/

section Scanning

variable {state : LineState} {operand : Option Char} {rest close : Text} {c : Char} {i : Nat}

/-- The rest of a block comment outside of every region. -/
theorem commentStep_of_regions_eq_nil (hregions : state.regions = []) :
    commentStep state operand rest close =
      match Text.find? close rest with
      | none => ⟨rest.length, ⟨.comment, state.language⟩, state, operand⟩
      | some stop => ⟨stop + close.length, ⟨.comment, state.language⟩, state.endComment, none⟩ := by
  have hregion : Text.closeOffset? state.close rest = none := by
    rw [LineState.close, LineState.close?, hregions]
    exact Text.closeOffset?_nil_left
  rw [commentStep, hregion]
  cases Text.find? close rest <;> rfl

theorem commentStep_label : (commentStep state operand rest close).label =
    ⟨.comment, state.language⟩ :=
  (commentCase state operand rest close).label_eq

theorem le_size_commentStep (hregions : state.regions = [])
    (hi : i ≤ (Text.find? close rest).getD rest.length) :
    i ≤ (commentStep state operand rest close).size := by
  rw [commentStep_of_regions_eq_nil hregions]
  cases hfind : Text.find? close rest with
  | none =>
    rw [hfind] at hi
    exact hi
  | some stop =>
    rw [hfind] at hi
    exact Nat.le_trans hi (Nat.le_add_right stop close.length)

theorem commentStep_insert (hregions : state.regions = []) (hc : c ∉ close) (hclose : close ≠ [])
    (hi : i ≤ (Text.find? close rest).getD rest.length) :
    commentStep state operand (rest.insertIdx i c) close =
      { commentStep state operand rest close with
        size := (commentStep state operand rest close).size + 1 } := by
  rw [commentStep_of_regions_eq_nil hregions, commentStep_of_regions_eq_nil hregions]
  cases hfind : Text.find? close rest with
  | none =>
    rw [hfind] at hi
    rw [Text.find?_insertIdx_of_none hc hfind hi]
    dsimp only
    rw [List.length_insertIdx_of_le_length hi]
  | some stop =>
    rw [hfind] at hi
    rw [Text.find?_insertIdx_of_le hc hclose hfind hi]
    dsimp only
    rw [Nat.add_right_comm]

theorem commentStep_insert_of_le (hregions : state.regions = []) (hc : c ∉ close)
    (hmore : rest.drop (commentStep state operand rest close).size ≠ [])
    (hsize : (commentStep state operand rest close).size ≤ i) (hi : i ≤ rest.length) :
    commentStep state operand (rest.insertIdx i c) close =
      commentStep state operand rest close := by
  rw [commentStep_of_regions_eq_nil hregions] at hmore hsize ⊢
  rw [commentStep_of_regions_eq_nil hregions]
  cases hfind : Text.find? close rest with
  | none =>
    rw [hfind] at hmore
    exact absurd (List.drop_length) hmore
  | some stop =>
    rw [hfind] at hsize
    rw [Text.find?_insertIdx_of_add_le hc hfind hsize hi]

theorem stringSize_nil_cons {quote d : Char} {cs : Text} (hescape : d ≠ '\\') (hquote : d ≠ quote) :
    Text.stringSize [] quote (d :: cs) = Text.stringSize [] quote cs + 1 := by
  rw [Text.stringSize_char (by simp [Text.beginsWith]) hescape, if_neg hquote]

theorem stringSize_nil_escape {quote d : Char} {cs : Text} :
    Text.stringSize [] quote ('\\' :: d :: cs) = Text.stringSize [] quote cs + 2 :=
  Text.stringSize_escape (by simp [Text.beginsWith])

theorem stringSize_nil_quote {quote : Char} {cs : Text} (hquote : quote ≠ '\\') :
    Text.stringSize [] quote (quote :: cs) = 1 := by
  rw [Text.stringSize_char (by simp [Text.beginsWith]) hquote, if_pos rfl]

/-- A character between two items of a string makes it one character longer. -/
theorem StringBoundary.stringSize_insert {quote : Char} {cs : Text}
    (h : StringBoundary quote cs i) (hescape : c ≠ '\\') (hquote : c ≠ quote) :
    i ≤ Text.stringSize [] quote cs ∧
      Text.stringSize [] quote (cs.insertIdx i c) = Text.stringSize [] quote cs + 1 := by
  induction h with
  | front cs => exact ⟨Nat.zero_le _, stringSize_nil_cons hescape hquote⟩
  | @escape d cs offset _ ih =>
    rw [List.insertIdx_succ_cons, List.insertIdx_succ_cons, stringSize_nil_escape,
      stringSize_nil_escape, ih.2]
    exact ⟨Nat.add_le_add_right ih.1 2, rfl⟩
  | lone => exact ⟨Nat.le_refl 1, rfl⟩
  | @char d cs offset hescape' hquote' _ ih =>
    rw [List.insertIdx_succ_cons, stringSize_nil_cons hescape' hquote',
      stringSize_nil_cons hescape' hquote', ih.2]
    exact ⟨Nat.succ_le_succ ih.1, rfl⟩

/-- A character behind a string that closes does not belong to it. -/
theorem stringSize_insert_of_le {quote : Char} {cs : Text}
    (hmore : Text.stringSize [] quote cs < cs.length) (hsize : Text.stringSize [] quote cs ≤ i) :
    Text.stringSize [] quote (cs.insertIdx i c) = Text.stringSize [] quote cs := by
  fun_induction Text.stringSize [] quote cs generalizing i with
  | case1 => exact absurd hmore (Nat.lt_irrefl 0)
  | case2 d hbegins | case4 d e cs hbegins => exact absurd hbegins (by simp [Text.beginsWith])
  | case3 => exact absurd hmore (Nat.lt_irrefl 1)
  | case5 e cs _ ih =>
    obtain ⟨i, rfl⟩ : ∃ j, i = j + 2 := ⟨i - 2, by omega⟩
    rw [List.insertIdx_succ_cons, List.insertIdx_succ_cons, stringSize_nil_escape,
      ih (Nat.lt_of_add_lt_add_right hmore) (by omega)]
  | case6 e cs _ hescape =>
    obtain ⟨i, rfl⟩ : ∃ j, i = j + 1 := ⟨i - 1, by omega⟩
    rw [List.insertIdx_succ_cons, stringSize_nil_quote hescape]
  | case7 d e cs _ hescape hquote ih =>
    obtain ⟨i, rfl⟩ : ∃ j, i = j + 1 := ⟨i - 1, by omega⟩
    rw [List.insertIdx_succ_cons, stringSize_nil_cons hescape hquote,
      ih (Nat.lt_of_add_lt_add_right hmore) (by omega)]

/-- The first delimiter at the front of a text is also the first one of the text with one more
character behind it. -/
theorem find?_delimiter_insert {α : Type} {delimiters : List α} {spelling : α → Text}
    (hc : ∀ delimiter ∈ delimiters, c ∉ spelling delimiter) (hi : i ≤ rest.length)
    (hbehind : ∀ delimiter,
      (delimiters.find? fun delimiter => rest.beginsWith (spelling delimiter)) = some delimiter →
        (spelling delimiter).length ≤ i) :
    (delimiters.find? fun delimiter =>
      Text.beginsWith (rest.insertIdx i c) (spelling delimiter)) =
      delimiters.find? fun delimiter => rest.beginsWith (spelling delimiter) := by
  induction delimiters with
  | nil => rfl
  | cons delimiter delimiters ih =>
    -- a delimiter in front of the character stays, and no other one comes up
    have hdelimiter := hc delimiter List.mem_cons_self
    rw [List.find?_cons, List.find?_cons]
    cases hbegins : rest.beginsWith (spelling delimiter) with
    | true =>
      have hlength := hbehind delimiter (by rw [List.find?_cons, hbegins])
      rw [(Text.beginsWith_insertIdx hdelimiter hi).mpr ⟨hbegins, hlength⟩]
    | false =>
      have hnot : Text.beginsWith (rest.insertIdx i c) (spelling delimiter) = false := by
        rw [← Bool.not_eq_true, Text.beginsWith_insertIdx hdelimiter hi, hbegins]
        simp
      rw [hnot]
      refine ih (fun other hmem => hc other (List.mem_cons_of_mem delimiter hmem)) ?_
      intro other hfind
      exact hbehind other (by rw [List.find?_cons, hbegins]; exact hfind)

end Scanning

end Lexer

namespace Grammar.Inert

variable {grammar : Grammar} {c : Char} {rest : Text} {i : Nat}

theorem find?_lineComments_insert (h : grammar.Inert c) (hi : i ≤ rest.length)
    (hbehind : ∀ opening, grammar.lineComments.find? rest.beginsWith = some opening →
      opening.length ≤ i) :
    grammar.lineComments.find? (Text.beginsWith (rest.insertIdx i c)) =
      grammar.lineComments.find? rest.beginsWith :=
  @Lexer.find?_delimiter_insert rest c i Text grammar.lineComments (fun opening => opening)
    h.not_mem_lineComment hi hbehind

theorem find?_blockComments_insert (h : grammar.Inert c) (hi : i ≤ rest.length)
    (hbehind : ∀ comment, (grammar.blockComments.find?
      fun comment => rest.beginsWith comment.opening) = some comment → comment.opening.length ≤ i) :
    (grammar.blockComments.find?
      fun comment => Text.beginsWith (rest.insertIdx i c) comment.opening) =
      grammar.blockComments.find? fun comment => rest.beginsWith comment.opening :=
  Lexer.find?_delimiter_insert h.not_mem_opening hi hbehind

theorem find?_lineComments_insert_of_none (h : grammar.Inert c) (hi : i ≤ rest.length)
    (hnone : grammar.lineComments.find? rest.beginsWith = none) :
    grammar.lineComments.find? (Text.beginsWith (rest.insertIdx i c)) = none := by
  rw [h.find?_lineComments_insert hi
    fun opening hsome => absurd (hnone.symm.trans hsome) (by simp), hnone]

theorem find?_blockComments_insert_of_none (h : grammar.Inert c) (hi : i ≤ rest.length)
    (hnone : (grammar.blockComments.find? fun comment => rest.beginsWith comment.opening) = none) :
    (grammar.blockComments.find?
      fun comment => Text.beginsWith (rest.insertIdx i c) comment.opening) = none := by
  rw [h.find?_blockComments_insert hi
    fun comment hsome => absurd (hnone.symm.trans hsome) (by simp), hnone]

theorem find?_blockComments_insert_of_some (h : grammar.Inert c) (hi : i ≤ rest.length)
    {comment : BlockComment}
    (hsome : (grammar.blockComments.find? fun comment => rest.beginsWith comment.opening) =
      some comment) (hbehind : comment.opening.length ≤ i) :
    (grammar.blockComments.find?
      fun comment => Text.beginsWith (rest.insertIdx i c) comment.opening) = some comment := by
  rw [h.find?_blockComments_insert hi fun other hother => ?_, hsome]
  obtain rfl := Option.some.inj (hsome.symm.trans hother)
  exact hbehind

end Grammar.Inert

namespace Lexer

/-! ### Steps in a language without regions -/

section Steps

variable {registry : Registry} {place : Place} {id : String} {c : Char} {i : Nat}

/-- A comment stays open with the delimiter that it has, or it ends. -/
theorem CommentCase.inert {state : LineState} {operand : Option Char} {rest close : Text}
    {step : Step} (h : CommentCase state operand rest close step) (hstate : state.Inert id c) :
    step.state.Inert id c ∧ step.label.language = id := by
  have hended : state.endComment.Inert id c :=
    ⟨hstate.document_eq, hstate.regions_eq_nil,
      fun _ hsome => absurd hsome (by simp [LineState.endComment])⟩
  cases h with
  | unclosed => exact ⟨hstate, hstate.language_eq⟩
  | cut => exact ⟨hended, hstate.language_eq⟩
  | closed => exact ⟨hended, hstate.language_eq⟩

variable (hgrammar : (registry.grammar id).Inert c) (hstate : place.state.Inert id c)

include hgrammar hstate

theorem step_of_commentClose_eq_none (hopen : place.state.commentClose = none) :
    place.step registry =
      (lineComment? (registry.grammar id) place.state place.operand place.rest
        <|> blockComment? (registry.grammar id) place.state place.operand place.rest
        <|> string? (registry.grammar id) place.state place.rest).getD
          (charStep place.state place.operand place.rest) := by
  have hleave : leaveRegion? place.state place.rest = none := by
    rw [leaveRegion?, hstate.regions_eq_nil]
  have henter : enterRegion? (registry.grammar id) place.state place.rest = none := by
    rw [enterRegion?, hgrammar.embedded_eq_nil]
    rfl
  have hregex : regex? (registry.grammar id) place.state place.operand place.rest = none := by
    unfold regex?
    rw [hgrammar.regexLiterals_eq_false]
    split <;> rfl
  rw [Place.step, step, hopen]
  dsimp only
  rw [hstate.language_eq, plainStep, hleave, henter, hregex]
  simp

theorem step_of_lineComment (hopen : place.state.commentClose = none) {opening : Text}
    (hline : (registry.grammar id).lineComments.find? place.rest.beginsWith = some opening) :
    place.step registry = ⟨place.rest.length, ⟨.comment, id⟩, place.state, place.operand⟩ := by
  rw [step_of_commentClose_eq_none hgrammar hstate hopen, lineComment?, hline, hstate.close_eq_nil,
    hstate.language_eq]
  simp

theorem step_of_blockComment (hopen : place.state.commentClose = none)
    (hline : (registry.grammar id).lineComments.find? place.rest.beginsWith = none)
    {comment : BlockComment} (hblock : ((registry.grammar id).blockComments.find?
      fun comment => place.rest.beginsWith comment.opening) = some comment) :
    place.step registry =
      let body := commentStep { place.state with commentClose := some comment.closing }
        place.operand (place.rest.drop comment.opening.length) comment.closing
      { body with size := comment.opening.length + body.size } := by
  rw [step_of_commentClose_eq_none hgrammar hstate hopen, lineComment?, hline, blockComment?,
    hblock]
  simp

theorem step_of_string (hopen : place.state.commentClose = none)
    (hline : (registry.grammar id).lineComments.find? place.rest.beginsWith = none)
    (hblock : ((registry.grammar id).blockComments.find?
      fun comment => place.rest.beginsWith comment.opening) = none)
    {quote : Char} {cs : Text} (hrest : place.rest = quote :: cs)
    (hquote : [quote] ∈ (registry.grammar id).quotes) :
    place.step registry =
      ⟨Text.stringSize [] quote cs + 1, ⟨.string, id⟩, place.state, some quote⟩ := by
  rw [step_of_commentClose_eq_none hgrammar hstate hopen, lineComment?, hline, blockComment?,
    hblock, hrest, string?, if_pos (by simpa using hquote), hstate.close_eq_nil, hstate.language_eq]
  simp

theorem step_of_char (hopen : place.state.commentClose = none)
    (hline : (registry.grammar id).lineComments.find? place.rest.beginsWith = none)
    (hblock : ((registry.grammar id).blockComments.find?
      fun comment => place.rest.beginsWith comment.opening) = none)
    {d : Char} {cs : Text} (hrest : place.rest = d :: cs)
    (hquote : [d] ∉ (registry.grammar id).quotes) :
    place.step registry =
      ⟨1, ⟨.other, id⟩, place.state, if Character.isBlank d then place.operand else some d⟩ := by
  rw [step_of_commentClose_eq_none hgrammar hstate hopen, lineComment?, hline, blockComment?,
    hblock, hrest, string?, if_neg (by simpa using hquote), charStep, hstate.language_eq]
  simp

/-- A step leaves no region open, and it labels its characters with the language of the document. -/
theorem step_inert : (place.step registry).state.Inert id c ∧
    (place.step registry).label.language = id := by
  cases hopen : place.state.commentClose with
  | some close =>
    rw [step_of_commentClose hopen]
    exact (commentCase ..).inert hstate
  | none =>
    have hstep : place.step registry =
        plainStep (registry.grammar id) place.state place.operand place.rest := by
      rw [Place.step, step, hopen]
      dsimp only
      rw [hstate.language_eq]
    have hcase := plainCase (registry.grammar id) place.state place.operand place.rest
    rw [hstep]
    generalize plainStep (registry.grammar id) place.state place.operand place.rest = step at hcase
    cases hcase with
    | leave hregions => exact absurd (hstate.regions_eq_nil.symm.trans hregions) (by simp)
    | enter _ hfind => exact absurd hfind (by rw [hgrammar.embedded_eq_nil]; simp)
    | @blockComment comment body _ _ _ hfind hbody =>
      have hmem := List.mem_of_find?_eq_some hfind
      have hopened :
          LineState.Inert { place.state with commentClose := some comment.closing } id c := by
        refine ⟨hstate.document_eq, hstate.regions_eq_nil, fun close hclose => ?_⟩
        obtain rfl := Option.some.inj hclose
        exact hgrammar.not_mem_closing comment hmem
      have hbody' := hbody.inert hopened
      exact hbody'
    | lineComment | string | regex | char => exact ⟨hstate, hstate.language_eq⟩

end Steps

/-! ### Lines with one more character -/

/-- The place with a character put into what is left of the line. -/
def Place.insert (place : Place) (offset : Nat) (c : Char) : Place :=
  { place with rest := place.rest.insertIdx offset c }

theorem Place.insert_rest_ne_nil {place : Place} {offset : Nat} (h : offset ≤ place.rest.length)
    (c : Char) : (place.insert offset c).rest ≠ [] := by
  refine List.ne_nil_of_length_pos ?_
  rw [Place.insert, List.length_insertIdx_of_le_length h]
  exact Nat.succ_pos _

theorem Place.rest_ne_nil_of_next {registry : Registry} {place : Place}
    (h : (place.next registry).rest ≠ []) : place.rest ≠ [] := by
  intro hnil
  exact h (by rw [Place.next, hnil, List.drop_nil])

section Insertion

variable {registry : Registry} {place : Place} {id : String} {c : Char} {i : Nat}
  {close : Option Text}

theorem Body.le_length (h : Body registry place close i) : i ≤ place.rest.length := by
  -- a search that succeeds does so in the text
  have hfind (needle text : Text) : (Text.find? needle text).getD text.length ≤ text.length := by
    cases hsome : Text.find? needle text with
    | none => exact Nat.le_refl _
    | some k => exact (Text.find?_eq_some_iff.mp hsome).1
  cases h with
  | @pending close offset _ hle => exact Nat.le_trans hle (hfind close place.rest)
  | lineComment _ _ _ hle => exact hle
  | @blockComment comment offset _ _ hblock hle =>
    have hbegins := List.find?_some hblock
    have hopening := length_le_of_beginsWith hbegins
    have hbody := hfind comment.closing (place.rest.drop comment.opening.length)
    rw [List.length_drop] at hbody
    omega
  | @string quote cs offset _ _ _ hrest _ hboundary =>
    have hoffset : offset ≤ cs.length := by
      clear hrest
      induction hboundary with
      | front => exact Nat.zero_le _
      | escape _ ih => exact Nat.add_le_add_right ih 2
      | lone => exact Nat.le_refl 1
      | char _ _ _ ih => exact Nat.succ_le_succ ih
    rw [hrest]
    exact Nat.succ_le_succ hoffset

/-- At the end of a line only an open comment can go on, and it stays open. -/
theorem Body.step_of_rest_eq_nil (h : Body registry place close i) (hclose : close ≠ some [])
    (hregions : place.state.regions = []) (hrest : place.rest = []) :
    (place.step registry).size = 0 ∧ (place.step registry).state = place.state := by
  have hbegins (spelling : Text) : ¬ place.rest.beginsWith spelling = true := by
    rw [hrest, Text.beginsWith_iff, List.prefix_nil]
    exact fun h => h.1 h.2
  cases h with
  | @pending close i hopen =>
    have hfind : Text.find? close [] = none := by
      rw [Text.find?, if_neg]
      rw [List.isEmpty_iff]
      exact fun hnil => hclose (by rw [hnil])
    rw [step_of_commentClose hopen, commentStep_of_regions_eq_nil hregions, hrest, hfind]
    exact ⟨rfl, rfl⟩
  | lineComment _ hline => exact absurd (List.find?_some hline) (hbegins _)
  | blockComment _ _ hblock =>
    have hbegins' := List.find?_some hblock
    exact absurd hbegins' (hbegins _)
  | string _ _ _ hcons => exact absurd (hrest.symm.trans hcons) (by simp)

theorem InLiteral.le_length (h : InLiteral registry place close i) : i ≤ place.rest.length := by
  induction h with
  | here h => exact h.le_length
  | @later place close offset hmore _ ih =>
    have hsize := Place.step_size_le registry (Place.rest_ne_nil_of_next hmore)
    rw [Place.next, List.length_drop] at ih
    omega

variable (hgrammar : (registry.grammar id).Inert c) (hstate : place.state.Inert id c)

include hgrammar hstate

/-- A character in the body of a literal makes its step one character longer and changes nothing
else. -/
theorem Body.step_insert (h : Body registry place close i) (hclose : close ≠ some []) :
    i ≤ (place.step registry).size ∧ (place.step registry).label.kind.isLiteral ∧
      (place.insert i c).step registry =
        { place.step registry with size := (place.step registry).size + 1 } := by
  have hi := h.le_length
  have hstate' : (place.insert i c).state.Inert id c := hstate
  have hlength : (place.insert i c).rest.length = place.rest.length + 1 :=
    List.length_insertIdx_of_le_length hi c
  cases h with
  | @pending close i hopen hle =>
    have hc := hstate.not_mem_commentClose close hopen
    have hne : close ≠ [] := fun hnil => hclose (by rw [hnil])
    have hopen' : (place.insert i c).state.commentClose = some close := hopen
    rw [step_of_commentClose hopen, step_of_commentClose hopen']
    refine ⟨?_, ?_, commentStep_insert hstate.regions_eq_nil hc hne hle⟩
    · exact le_size_commentStep hstate.regions_eq_nil hle
    · rw [commentStep_label]
      rfl
  | @lineComment opening i hopen hline hstart hle =>
    -- the same opening is found, because the character stands behind it
    rw [hstate.language_eq] at hline
    have hline' : (registry.grammar id).lineComments.find? (place.insert i c).rest.beginsWith =
        some opening := by
      rw [← hline]
      refine hgrammar.find?_lineComments_insert hi fun other hother => ?_
      obtain rfl := Option.some.inj (hline.symm.trans hother)
      exact hstart
    rw [step_of_lineComment hgrammar hstate hopen hline,
      step_of_lineComment hgrammar hstate' hopen hline', hlength]
    exact ⟨hle, rfl, rfl⟩
  | @blockComment comment i hopen hline hblock hle =>
    rw [hstate.language_eq] at hline hblock
    have hc := hgrammar.not_mem_closing comment (List.mem_of_find?_eq_some hblock)
    have hne : comment.closing ≠ [] := fun hnil => hclose (by rw [hnil])
    have hline' := hgrammar.find?_lineComments_insert_of_none hi hline
    have hblock' := hgrammar.find?_blockComments_insert_of_some hi hblock (Nat.le_add_right _ i)
    have hdrop : (place.insert (comment.opening.length + i) c).rest.drop comment.opening.length =
        (place.rest.drop comment.opening.length).insertIdx i c := by
      rw [Place.insert, Text.drop_insertIdx_of_le (Nat.le_add_right _ i) hi,
        Nat.add_sub_cancel_left]
    have hopened :
        LineState.regions { place.state with commentClose := some comment.closing } = [] :=
      hstate.regions_eq_nil
    rw [← List.length_drop] at hle
    rw [step_of_blockComment hgrammar hstate hopen hline hblock,
      step_of_blockComment hgrammar hstate' hopen hline' hblock', hdrop]
    dsimp only [Place.insert]
    refine ⟨?_, ?_, ?_⟩
    · exact Nat.add_le_add_left (le_size_commentStep hopened hle) _
    · rw [commentStep_label]
      rfl
    · rw [commentStep_insert hopened hc hne hle, Nat.add_assoc]
  | @string quote cs i hopen hline hblock hrest hquote hboundary =>
    rw [hstate.language_eq] at hline hblock hquote
    -- the new character neither closes the string nor escapes anything
    have hquote' : c ≠ quote := by
      rintro rfl
      exact hgrammar.not_mem_quotes hquote
    obtain ⟨hsize, hinsert⟩ := hboundary.stringSize_insert hgrammar.ne_backslash hquote'
    have hrest' : (place.insert (i + 1) c).rest = quote :: cs.insertIdx i c := by
      rw [Place.insert, hrest, List.insertIdx_succ_cons]
    rw [step_of_string hgrammar hstate hopen hline hblock hrest hquote,
      step_of_string hgrammar hstate' hopen (hgrammar.find?_lineComments_insert_of_none hi hline)
        (hgrammar.find?_blockComments_insert_of_none hi hblock) hrest' hquote, hinsert]
    exact ⟨Nat.succ_le_succ hsize, rfl, rfl⟩

/-- A character behind a block comment that closes on the line does not change its step. -/
theorem step_insert_of_blockComment (hopen : place.state.commentClose = none)
    (hline : (registry.grammar id).lineComments.find? place.rest.beginsWith = none)
    {comment : BlockComment} (hblock : ((registry.grammar id).blockComments.find?
      fun comment => place.rest.beginsWith comment.opening) = some comment)
    (hmore : place.rest.drop (place.step registry).size ≠ [])
    (hsize : (place.step registry).size ≤ i) (hi : i ≤ place.rest.length) :
    (place.insert i c).step registry = place.step registry := by
  have hstate' : (place.insert i c).state.Inert id c := hstate
  have hopened : LineState.regions { place.state with commentClose := some comment.closing } = [] :=
    hstate.regions_eq_nil
  have hc := hgrammar.not_mem_closing comment (List.mem_of_find?_eq_some hblock)
  rw [step_of_blockComment hgrammar hstate hopen hline hblock] at hsize hmore ⊢
  dsimp only at hsize hmore
  have hbehind : comment.opening.length ≤ i := by omega
  have hdrop : (place.insert i c).rest.drop comment.opening.length =
      (place.rest.drop comment.opening.length).insertIdx (i - comment.opening.length) c :=
    Text.drop_insertIdx_of_le hbehind hi
  rw [← List.drop_drop] at hmore
  rw [step_of_blockComment hgrammar hstate' hopen
    (hgrammar.find?_lineComments_insert_of_none hi hline)
    (hgrammar.find?_blockComments_insert_of_some hi hblock hbehind), hdrop]
  dsimp only [Place.insert]
  rw [commentStep_insert_of_le hopened hc hmore (Nat.le_sub_of_add_le' hsize)
    (by rw [List.length_drop]; omega)]

/-- A character behind a string that closes on the line, or behind a single character, does not
change the step. -/
theorem step_insert_of_cons (hopen : place.state.commentClose = none)
    (hline : (registry.grammar id).lineComments.find? place.rest.beginsWith = none)
    (hblock : ((registry.grammar id).blockComments.find?
      fun comment => place.rest.beginsWith comment.opening) = none)
    {d : Char} {cs : Text} (hrest : place.rest = d :: cs)
    (hmore : place.rest.drop (place.step registry).size ≠ [])
    (hsize : (place.step registry).size ≤ i) (hi : i ≤ place.rest.length) :
    (place.insert i c).step registry = place.step registry := by
  have hstate' : (place.insert i c).state.Inert id c := hstate
  have hline' := hgrammar.find?_lineComments_insert_of_none hi hline
  have hblock' := hgrammar.find?_blockComments_insert_of_none hi hblock
  -- either step takes the first character
  have hpos : 0 < (place.step registry).size :=
    (Place.plainCase hopen).size_pos (by rw [hrest]; exact List.cons_ne_nil d cs)
  have hrest' : (place.insert i c).rest = d :: cs.insertIdx (i - 1) c := by
    obtain ⟨i, rfl⟩ : ∃ j, i = j + 1 := ⟨i - 1, by omega⟩
    rw [Place.insert, hrest, List.insertIdx_succ_cons]
    rfl
  by_cases hquote : [d] ∈ (registry.grammar id).quotes
  · rw [step_of_string hgrammar hstate hopen hline hblock hrest hquote] at hsize hmore ⊢
    rw [step_of_string hgrammar hstate' hopen hline' hblock' hrest' hquote]
    rw [hrest, List.drop_succ_cons, Ne, List.drop_eq_nil_iff, Nat.not_le] at hmore
    rw [stringSize_insert_of_le hmore (Nat.le_sub_one_of_lt hsize)]
    rfl
  · rw [step_of_char hgrammar hstate hopen hline hblock hrest hquote,
      step_of_char hgrammar hstate' hopen hline' hblock' hrest' hquote]
    rfl

/-- A character behind the step does not change it, if the line goes on there. -/
theorem step_insert_of_le (hmore : (place.next registry).rest ≠ [])
    (hsize : (place.step registry).size ≤ i) (hi : i ≤ place.rest.length) :
    (place.insert i c).step registry = place.step registry := by
  rw [Place.next] at hmore
  cases hopen : place.state.commentClose with
  | some close =>
    have hc := hstate.not_mem_commentClose close hopen
    have hopen' : (place.insert i c).state.commentClose = some close := hopen
    rw [step_of_commentClose hopen] at hsize hmore ⊢
    rw [step_of_commentClose hopen']
    exact commentStep_insert_of_le hstate.regions_eq_nil hc hmore hsize hi
  | none =>
    cases hline : (registry.grammar id).lineComments.find? place.rest.beginsWith with
    | some opening =>
      -- a line comment takes the rest of the line
      rw [step_of_lineComment hgrammar hstate hopen hline] at hmore
      exact absurd List.drop_length hmore
    | none =>
      cases hblock : (registry.grammar id).blockComments.find?
          fun comment => place.rest.beginsWith comment.opening with
      | some comment =>
        exact step_insert_of_blockComment hgrammar hstate hopen hline hblock hmore hsize hi
      | none =>
        cases hrest : place.rest with
        | nil => exact absurd (by rw [hrest, List.drop_nil]) hmore
        | cons d cs =>
          exact step_insert_of_cons hgrammar hstate hopen hline hblock hrest hmore hsize hi

end Insertion

/-! ### Labels -/

theorem replicate_append_insertIdx {α : Type} {n i : Nat} {x : α} (hi : i ≤ n) (xs : List α) :
    (List.replicate n x ++ xs).insertIdx i x = List.replicate (n + 1) x ++ xs := by
  induction i generalizing n with
  | zero => rfl
  | succ i ih =>
    obtain ⟨n, rfl⟩ : ∃ m, n = m + 1 := ⟨n - 1, by omega⟩
    rw [List.replicate_succ, List.cons_append, List.insertIdx_succ_cons,
      ih (Nat.le_of_succ_le_succ hi), ← List.cons_append, ← List.replicate_succ]

theorem append_insertIdx {α : Type} {n : Nat} {xs : List α} (hn : xs.length = n) (ys : List α)
    (i : Nat) (x : α) : (xs ++ ys).insertIdx (n + i) x = xs ++ ys.insertIdx i x := by
  subst hn
  induction xs with
  | nil => rw [List.nil_append, List.nil_append, List.length_nil, Nat.zero_add]
  | cons y xs ih =>
    rw [List.cons_append, List.length_cons, Nat.add_right_comm, List.insertIdx_succ_cons, ih,
      List.cons_append]

section Labels

variable {registry : Registry} {id : String} {c : Char}

/-- All characters of a line have the language of the document. -/
theorem language_of_mem_labels (hgrammar : (registry.grammar id).Inert c) {place : Place}
    (hstate : place.state.Inert id c) {label : Label} (h : label ∈ (place.labels registry).1) :
    label.language = id := by
  induction place using Place.induction registry with
  | stop place hrest =>
    rw [Place.labels_of_rest_eq_nil hrest] at h
    exact absurd h List.not_mem_nil
  | step place hrest ih =>
    obtain ⟨hnext, hlanguage⟩ := step_inert hgrammar hstate
    rw [Place.labels_of_rest_ne_nil hrest] at h
    rcases List.mem_append.mp h with hmem | hmem
    · rw [List.eq_of_mem_replicate hmem, hlanguage]
    · exact ih hnext hmem

theorem inert_labels (hgrammar : (registry.grammar id).Inert c) {place : Place}
    (hstate : place.state.Inert id c) : (place.labels registry).2.Inert id c := by
  induction place using Place.induction registry with
  | stop place hrest =>
    rw [Place.labels_of_rest_eq_nil hrest]
    exact hstate
  | step place hrest ih =>
    rw [Place.labels_of_rest_ne_nil hrest]
    exact ih (step_inert hgrammar hstate).1

/-- A character in the body of a literal gets the label of a literal. The other labels, and the
state behind the line, are those of the line without it. -/
theorem InLiteral.labels_insert (hgrammar : (registry.grammar id).Inert c) {place : Place}
    (hstate : place.state.Inert id c) {close : Option Text} (hclose : close ≠ some []) {i : Nat}
    (h : InLiteral registry place close i) :
    ∃ label : Label, label.kind.isLiteral ∧
      (place.insert i c).labels registry =
        ((place.labels registry).1.insertIdx i label, (place.labels registry).2) := by
  induction h with
  | @here place close i h =>
    -- the step takes the new character too, and the lexer goes on where it went on before
    obtain ⟨hsize, hliteral, hstep⟩ := h.step_insert hgrammar hstate hclose
    have hi := h.le_length
    have hrest' := Place.insert_rest_ne_nil hi c
    have hnext : (place.insert i c).next registry = place.next registry := by
      rw [Place.next, hstep, Place.next, Place.insert]
      dsimp only
      rw [Text.drop_succ_insertIdx hsize]
    have hlabels : (place.insert i c).labels registry =
        (List.replicate ((place.step registry).size + 1) (place.step registry).label ++
          ((place.next registry).labels registry).1,
          ((place.next registry).labels registry).2) := by
      rw [Place.labels_of_rest_ne_nil hrest', hnext, hstep]
    refine ⟨(place.step registry).label, hliteral, ?_⟩
    by_cases hrest : place.rest = []
    · -- an empty line in a comment, which stays open
      obtain ⟨hzero, hsame⟩ := h.step_of_rest_eq_nil hclose hstate.regions_eq_nil hrest
      have hnil : (place.next registry).rest = [] := by rw [Place.next, hrest, List.drop_nil]
      obtain rfl : i = 0 := by rw [hrest] at hi; exact Nat.le_zero.mp hi
      rw [hlabels, hzero, Place.labels_of_rest_eq_nil hnil, Place.labels_of_rest_eq_nil hrest,
        Place.next, hsame]
      rfl
    · rw [hlabels, Place.labels_of_rest_ne_nil hrest, replicate_append_insertIdx hsize]
  | @later place close i hmore h ih =>
    -- the step stays as it is, and the character stands further on
    have hrest := Place.rest_ne_nil_of_next hmore
    have hle := (InLiteral.later hmore h).le_length
    have hstep := step_insert_of_le hgrammar hstate hmore (Nat.le_add_right _ i) hle
    have hnext : (place.insert ((place.step registry).size + i) c).next registry =
        (place.next registry).insert i c := by
      rw [Place.next, hstep, Place.insert, Place.insert, Place.next]
      dsimp only
      rw [Text.drop_insertIdx_of_le (Nat.le_add_right _ i) hle, Nat.add_sub_cancel_left]
    have hrest' := Place.insert_rest_ne_nil hle c
    obtain ⟨label, hliteral, hlabels⟩ := ih (step_inert hgrammar hstate).1 hclose
    refine ⟨label, hliteral, ?_⟩
    rw [Place.labels_of_rest_ne_nil hrest', Place.labels_of_rest_ne_nil hrest, hnext, hstep,
      hlabels, append_insertIdx List.length_replicate]

end Labels

end Lexer

end Indentation
