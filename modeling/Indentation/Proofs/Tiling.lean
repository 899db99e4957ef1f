import Indentation.Proofs.Emission
import Mathlib.Data.List.SplitBy

/-!
# Tokens tile their line

If the tokens of a line start in ascending order, their texts put together give the line, and each
character has the label of the last token that starts at or before it. A line is *canonical* if its
tokens are the maximal runs of characters with one label: then the tokens and the labels of the
characters determine each other. Whatever the grammars are and whatever is open in front of a line,
the lexer makes a canonical line of it.

## Main definitions

* `TokenizedLine.cells` — the characters of a line with their labels
* `TokenizedLine.Ascending` — the tokens start in ascending order
* `TokenizedLine.Canonical` — the tokens are the maximal runs of one label
* `TokenizedLine.Tiles` — what this means for the tokens of a text, all in all

## Main results

* `TokenizedLine.flatMap_pieces` — the texts of ascending tokens give the line
* `TokenizedLine.cells_getElem?` — the label of a character
* `TokenizedLine.Canonical.map_pieces` — the pieces of a canonical line are the runs of its cells
* `Lexer.cells_tokenize` — the lexer labels the characters as its steps do
* `Lexer.tokenize_tiles` — the lexer tiles every line
-/

namespace Indentation

namespace Text

variable {text : Text} {start stop : Nat}

theorem slice_append_drop (h : start ≤ stop) :
    text.slice start stop ++ text.drop stop = text.drop start := by
  have hsplit : text.drop start = (text.take stop ++ text.drop stop).drop start := by
    rw [List.take_append_drop]
  rw [hsplit, List.drop_append, slice]
  congr 1
  rw [List.drop_drop, List.length_take]
  rcases Nat.le_total stop text.length with hle | hge
  · rw [Nat.min_eq_left hle, Nat.sub_eq_zero_of_le h, Nat.add_zero]
  · rw [List.drop_eq_nil_of_le hge, List.drop_eq_nil_of_le (by omega)]

theorem length_slice : (text.slice start stop).length = min stop text.length - start := by
  rw [slice, List.length_drop, List.length_take]

theorem getElem?_slice {i : Nat} (h : start + i < stop) :
    (text.slice start stop)[i]? = text[start + i]? := by
  rw [slice, List.getElem?_drop, List.getElem?_take_of_lt h]

end Text

/-- A token can be followed by another one in a canonical line: this one starts later and has
another label. -/
def Token.Precedes (token next : Token) : Prop :=
  token.start < next.start ∧ token.toLabel ≠ next.toLabel

namespace TokenizedLine

/-- The characters of a piece, each with the label of the piece. -/
def paint (piece : Label × Text) : List (Char × Label) :=
  piece.2.map (·, piece.1)

variable (line : TokenizedLine)

/-- The characters of a line, each with the label of the token whose text it belongs to. -/
def cells : List (Char × Label) :=
  line.pieces.flatMap paint

/-- No token starts before the one in front of it. -/
def Ascending : Prop :=
  line.tokens.IsChain (·.start ≤ ·.start)

/-- The tokens are the maximal runs of characters with one label; a line without characters has a
single token. -/
structure Canonical : Prop where
  isChain : line.tokens.IsChain Token.Precedes
  start_lt_length : line.text ≠ [] → ∀ token ∈ line.tokens, token.start < line.text.length
  rest_eq_nil : line.text = [] → line.rest = []

/-- The tokens tile a text: there is a first one and it starts at 0, the starts increase and lie in
the text, an empty text has one token, neighbouring tokens differ in their labels, and the texts of
the tokens put together are the text. -/
structure Tiles (text : Text) : Prop where
  text_eq : line.text = text
  count_pos : 0 < line.count
  startAt_zero : line.startAt 0 = 0
  starts_lt : (line.tokens.map (·.start)).Pairwise (· < ·)
  start_lt_length : text ≠ [] → ∀ token ∈ line.tokens, token.start < text.length
  count_eq_one : text = [] → line.count = 1
  labels_ne : line.tokens.IsChain (·.toLabel ≠ ·.toLabel)
  flatten_pieces : (line.pieces.map (·.2)).flatten = text

variable {line}

theorem Canonical.starts_lt (h : line.Canonical) : line.tokens.IsChain (·.start < ·.start) :=
  h.isChain.imp fun _ _ => And.left

theorem Canonical.labels_ne (h : line.Canonical) : line.tokens.IsChain (·.toLabel ≠ ·.toLabel) :=
  h.isChain.imp fun _ _ => And.right

theorem Canonical.ascending (h : line.Canonical) : line.Ascending :=
  h.starts_lt.imp fun _ _ => Nat.le_of_lt

/-! ### Pieces -/

/-- The pieces of a text from a token on, which the other tokens follow. -/
def segments (text : Text) (token : Token) : List Token → List (Label × Text)
  | [] => [(token.toLabel, text.drop token.start)]
  | next :: tokens =>
    (token.toLabel, text.slice token.start next.start) :: segments text next tokens

theorem map_range_eq_segments (text : Text) (label : Label) (token : Token) (tokens : List Token) :
    ((List.range (token :: tokens).length).map fun index =>
      (((token :: tokens)[index]?.map (·.toLabel)).getD label,
        text.slice (((token :: tokens)[index]?.map (·.start)).getD text.length)
          (((token :: tokens)[index + 1]?.map (·.start)).getD text.length))) =
      segments text token tokens := by
  induction tokens generalizing token with
  | nil => simp [segments, Text.slice]
  | cons next tokens ih =>
    rw [List.length_cons, List.range_succ_eq_map, List.map_cons, List.map_map, segments, ← ih next]
    rfl

theorem pieces_eq_segments :
    line.pieces = segments line.text ⟨line.first, 0⟩ line.rest :=
  map_range_eq_segments line.text line.first _ line.rest

theorem flatMap_segments {text : Text} {token : Token} {tokens : List Token}
    (h : (token :: tokens).IsChain (·.start ≤ ·.start)) :
    (segments text token tokens).flatMap (·.2) = text.drop token.start := by
  induction tokens generalizing token with
  | nil => simp [segments]
  | cons next tokens ih =>
    obtain ⟨hle, hchain⟩ := List.isChain_cons_cons.mp h
    rw [segments, List.flatMap_cons, ih hchain, Text.slice_append_drop hle]

/-- The texts of the tokens, put together, are the line. -/
theorem flatMap_pieces (h : line.Ascending) : line.pieces.flatMap (·.2) = line.text := by
  rw [pieces_eq_segments, flatMap_segments h, List.drop_zero]

/-! ### Labels of characters -/

/-- The label at an offset behind some tokens, where `label` holds before them. -/
def labelFrom (offset : Nat) (label : Label) : List Token → Label
  | [] => label
  | token :: tokens =>
    if token.start ≤ offset then labelFrom offset token.toLabel tokens else label

theorem labelOf_eq_labelFrom (offset : Nat) :
    line.labelOf offset = labelFrom offset line.first line.rest := by
  obtain ⟨text, first, rest⟩ := line
  unfold labelOf find labelAt tokens
  dsimp only
  -- the token found is in range, so what stands for a missing one does not matter
  suffices h : ∀ (label : Label) (start : Nat) (fallback : Label),
      ((({ label with start } : Token) :: rest)[
        (rest.takeWhile fun token => (token.start : Int) ≤ offset).length]?.map
          (·.toLabel)).getD fallback = labelFrom offset label rest from h first 0 first
  induction rest with
  | nil =>
    intro label start fallback
    rfl
  | cons token tokens ih =>
    intro label start fallback
    by_cases hstart : token.start ≤ offset
    · have hint : (token.start : Int) ≤ offset := Int.ofNat_le.mpr hstart
      rw [labelFrom, if_pos hstart, List.takeWhile_cons_of_pos (by simpa using hint)]
      exact ih token.toLabel token.start fallback
    · have hint : ¬ (token.start : Int) ≤ offset := fun h => hstart (Int.ofNat_le.mp h)
      rw [labelFrom, if_neg hstart, List.takeWhile_cons_of_neg (by simpa using hint)]
      rfl

theorem labelFrom_of_lt {offset : Nat} {label : Label} {tokens : List Token}
    (h : ∀ token ∈ tokens, offset < token.start) : labelFrom offset label tokens = label := by
  cases tokens with
  | nil => rfl
  | cons token tokens =>
    have hlt := h token List.mem_cons_self
    rw [labelFrom, if_neg (by omega)]

theorem getElem?_flatMap_segments {text : Text} {token : Token} {tokens : List Token}
    (h : (token :: tokens).IsChain (·.start ≤ ·.start)) (i : Nat) :
    ((segments text token tokens).flatMap paint)[i]? =
      text[token.start + i]?.map (·, labelFrom (token.start + i) token.toLabel tokens) := by
  induction tokens generalizing token i with
  | nil => simp [segments, labelFrom, paint]
  | cons next tokens ih =>
    obtain ⟨hle, hchain⟩ := List.isChain_cons_cons.mp h
    rw [segments, List.flatMap_cons, labelFrom]
    have hlength : (paint (token.toLabel, text.slice token.start next.start)).length =
        min next.start text.length - token.start := by
      rw [paint, List.length_map, Text.length_slice]
    -- the character lies in the piece of the first token, or in a later one
    rcases Nat.lt_or_ge (token.start + i) next.start with hlt | hge
    · rw [if_neg (Nat.not_le.mpr hlt)]
      rcases Nat.lt_or_ge (token.start + i) text.length with hin | hout
      · rw [List.getElem?_append_left (by rw [hlength]; omega), paint, List.getElem?_map,
          Text.getElem?_slice hlt]
      · rw [List.getElem?_append_right (by rw [hlength]; omega), ih hchain,
          List.getElem?_eq_none (by rw [hlength]; omega), List.getElem?_eq_none hout]
        rfl
    · rw [if_pos hge, List.getElem?_append_right (by rw [hlength]; omega), ih hchain, hlength]
      rcases Nat.le_total next.start text.length with hin | hout
      · have hoffset : next.start + (i - (min next.start text.length - token.start)) =
            token.start + i := by omega
        rw [hoffset]
      · rw [List.getElem?_eq_none (by omega), List.getElem?_eq_none (by omega)]
        rfl

/-- A character has the label of the last token that starts at or before it. -/
theorem cells_getElem? (h : line.Ascending) (i : Nat) :
    line.cells[i]? = line.text[i]?.map (·, line.labelOf i) := by
  rw [cells, pieces_eq_segments, getElem?_flatMap_segments h, labelOf_eq_labelFrom, Nat.zero_add]

theorem map_fst_cells (h : line.Ascending) : line.cells.map (·.1) = line.text := by
  rw [cells, List.map_flatMap]
  simpa [paint, Function.comp_def] using flatMap_pieces h

theorem length_cells (h : line.Ascending) : line.cells.length = line.text.length := by
  rw [← map_fst_cells h, List.length_map]

/-! ### Runs of labels -/

theorem isChain_changes {previous : Label} {start offset : Nat} (hstart : start < offset)
    (labels : List Label) :
    (({ previous with start } : Token) :: changes previous offset labels).IsChain
      Token.Precedes := by
  induction labels generalizing previous start offset with
  | nil => exact .singleton _
  | cons label labels ih =>
    rw [changes]
    split
    · exact ih (Nat.lt_succ_of_lt hstart)
    · rename_i hne
      exact .cons_cons ⟨hstart, Ne.symm hne⟩ (ih (Nat.lt_succ_self offset))

theorem labelFrom_changes {previous label : Label} {offset i : Nat} {labels : List Label}
    (h : labels[i]? = some label) :
    labelFrom (offset + i) previous (changes previous offset labels) = label := by
  induction labels generalizing previous offset i with
  | nil => exact absurd h (by simp)
  | cons head labels ih =>
    have hhead (label : Label) :
        labelFrom offset label (changes label (offset + 1) labels) = label :=
      labelFrom_of_lt fun token hmem => (mem_changes hmem).1
    rw [changes]
    cases i with
    | zero =>
      obtain rfl := Option.some.inj h
      split
      · rename_i heq
        rw [heq]
        exact hhead previous
      · rw [labelFrom, if_pos (Nat.le_add_right offset 0)]
        exact hhead head
    | succ i =>
      have hnext : offset + (i + 1) = offset + 1 + i := by omega
      rw [hnext]
      split
      · exact ih h
      · rw [labelFrom, if_pos (by dsimp only; omega)]
        exact ih h

/-- The tokens made from labels are the maximal runs of these. -/
theorem canonical_ofLabels {text : Text} (blank : Label) {labels : List Label}
    (h : labels.length = text.length) : (ofLabels text blank labels).Canonical := by
  cases labels with
  | nil =>
    have htext : text = [] := List.eq_nil_of_length_eq_zero h.symm
    exact ⟨.singleton _, fun hne => absurd htext hne, fun _ => rfl⟩
  | cons label labels =>
    refine ⟨@isChain_changes label 0 1 Nat.zero_lt_one labels, ?_, ?_⟩
    · intro _ token hmem
      rw [List.length_cons] at h
      change token.start < text.length
      rcases List.mem_cons.mp hmem with rfl | hrest
      · dsimp only
        omega
      · have := mem_changes hrest
        omega
    · rintro (rfl : text = [])
      exact absurd h (by simp)

theorem labelOf_ofLabels {text : Text} (blank : Label) {labels : List Label} {label : Label}
    {i : Nat} (h : labels[i]? = some label) : (ofLabels text blank labels).labelOf i = label := by
  rw [labelOf_eq_labelFrom]
  cases labels with
  | nil => exact absurd h (by simp)
  | cons head labels =>
    cases i with
    | zero =>
      obtain rfl := Option.some.inj h
      exact labelFrom_of_lt fun token hmem => (mem_changes hmem).1
    | succ i =>
      rw [Nat.add_comm]
      exact labelFrom_changes h

theorem cells_ofLabels {text : Text} (blank : Label) {labels : List Label}
    (h : labels.length = text.length) : (ofLabels text blank labels).cells = text.zip labels := by
  have hascending := (canonical_ofLabels blank h).ascending
  have htext : (ofLabels text blank labels).text = text := by cases labels <;> rfl
  -- both lists pair the characters, one by one, with the labels
  have hlength : (ofLabels text blank labels).cells.length = (text.zip labels).length := by
    rw [length_cells hascending, htext, List.length_zip, h, Nat.min_self]
  refine List.ext_getElem hlength fun i hi hzip => ?_
  have hlt : i < labels.length := by
    rw [List.length_zip] at hzip
    omega
  have hcell := cells_getElem? hascending i
  rw [List.getElem?_eq_getElem hi, htext, List.getElem?_eq_getElem (h ▸ hlt),
    labelOf_ofLabels blank (List.getElem?_eq_getElem hlt)] at hcell
  rw [List.getElem_zip]
  exact Option.some.inj hcell

/-! ### Canonical lines -/

/-- Pieces with characters, neighbours of which differ in their labels, are the runs of their
characters. -/
theorem splitBy_flatMap_paint {pieces : List (Label × Text)}
    (hne : ∀ piece ∈ pieces, piece.2 ≠ []) (hlabels : pieces.IsChain (·.1 ≠ ·.1)) :
    (pieces.flatMap paint).splitBy (fun a b => a.2 == b.2) = pieces.map paint := by
  rw [List.flatMap_def]
  -- no piece is empty, a piece has one label, and the next piece has another one
  refine List.splitBy_flatten ?_ ?_ ?_
  · intro hmem
    obtain ⟨piece, hpiece, hnil⟩ := List.mem_map.mp hmem
    exact hne piece hpiece (List.map_eq_nil_iff.mp hnil)
  · intro cells hmem
    obtain ⟨piece, -, rfl⟩ := List.mem_map.mp hmem
    rw [paint, List.isChain_map]
    exact (List.pairwise_of_forall fun _ _ => by simp).isChain
  · rw [List.isChain_map]
    refine hlabels.imp_of_mem_imp fun a b ha hb hne' => ?_
    have hlast : paint a ≠ [] := fun h => hne a ha (List.map_eq_nil_iff.mp h)
    have hhead : paint b ≠ [] := fun h => hne b hb (List.map_eq_nil_iff.mp h)
    refine ⟨hlast, hhead, ?_⟩
    simpa [paint, List.getLast_map, List.head_map] using hne'

theorem map_fst_segments (text : Text) (token : Token) (tokens : List Token) :
    (segments text token tokens).map (·.1) = (token :: tokens).map (·.toLabel) := by
  induction tokens generalizing token with
  | nil => rfl
  | cons next tokens ih => rw [segments, List.map_cons, List.map_cons, ih]

theorem ne_nil_of_mem_segments {text : Text} {token : Token} {tokens : List Token}
    (hstarts : (token :: tokens).IsChain (·.start < ·.start))
    (hinside : ∀ other ∈ token :: tokens, other.start < text.length) {piece : Label × Text}
    (h : piece ∈ segments text token tokens) : piece.2 ≠ [] := by
  induction tokens generalizing token with
  | nil =>
    obtain rfl := List.mem_singleton.mp h
    have := hinside token List.mem_cons_self
    exact fun hnil => by simp at hnil; omega
  | cons next tokens ih =>
    obtain ⟨hlt, hchain⟩ := List.isChain_cons_cons.mp hstarts
    rcases List.mem_cons.mp h with rfl | hmem
    · have hnext := hinside next (List.mem_cons_of_mem token List.mem_cons_self)
      refine List.ne_nil_of_length_pos ?_
      rw [Text.length_slice]
      omega
    · exact ih hchain (fun other hother => hinside other (List.mem_cons_of_mem token hother)) hmem

/-- The pieces of a canonical line are the maximal runs of characters with one label. -/
theorem Canonical.map_pieces (h : line.Canonical) (htext : line.text ≠ []) :
    line.pieces.map paint = line.cells.splitBy fun a b => a.2 == b.2 := by
  rw [cells, splitBy_flatMap_paint]
  · intro piece hmem
    rw [pieces_eq_segments] at hmem
    exact ne_nil_of_mem_segments h.starts_lt (h.start_lt_length htext) hmem
  · have hchain : (line.pieces.map (·.1)).IsChain (· ≠ ·) := by
      rw [pieces_eq_segments, map_fst_segments, List.isChain_map]
      exact h.labels_ne
    exact (List.isChain_map _).mp hchain

end TokenizedLine

/-! ### Lines of the lexer -/

namespace Lexer

open TokenizedLine

variable (registry : Registry) (state : LineState) (text : Text)

theorem length_labels (operand : Option Char) :
    (labels registry state operand text).1.length = text.length :=
  @Place.length_labels registry ⟨state, operand, text⟩

@[simp] theorem tokenize_text : (tokenize registry state text).1.text = text := by
  rw [tokenize_fst]
  cases (labels registry state none text).1 <;> rfl

theorem canonical_tokenize : (tokenize registry state text).1.Canonical := by
  rw [tokenize_fst]
  exact canonical_ofLabels _ (length_labels registry state text none)

/-- The tokens of a line give every character the label of the step that took it. -/
theorem cells_tokenize :
    (tokenize registry state text).1.cells = text.zip (labels registry state none text).1 := by
  rw [tokenize_fst]
  exact cells_ofLabels _ (length_labels registry state text none)

theorem getElem?_labels_eq_labelOf {registry : Registry} {state : LineState} {text : Text} {i : Nat}
    (hi : i < text.length) :
    ((Place.front state text).labels registry).1[i]? =
      some ((tokenize registry state text).1.labelOf (i : Nat)) := by
  have hlt : i < (labels registry state none text).1.length := by
    rw [length_labels]
    exact hi
  have hsome := List.getElem?_eq_getElem hlt
  rw [tokenize_fst, labelOf_ofLabels (blankLabel state) hsome]
  exact hsome

/-- The tokens that the lexer emits for a line, one of which is there and starts at 0. -/
theorem tokens_tokenize :
    (tokenize registry state text).1.tokens = (emission registry state text).1 :=
  tokens_ofFront text _ (start_head?_emission registry state text)

/-- In every state and with any grammars, the tokens that the steps of the lexer emit for a line
make a line, and are a canonical tiling of it. -/
theorem tokenize_tiles (registry : Registry) (state : LineState) (text : Text) :
    let emitted := (emission registry state text).1
    let line := (tokenize registry state text).1
    ofTokens text (emitted.head?.map fun token => (↑token.start, token.toLabel)) emitted.tail =
        .ok line ∧
      line.tokens = emitted ∧ line.Tiles text := by
  intro emitted line
  have htokens : line.tokens = emitted := tokens_tokenize registry state text
  have hcanonical := canonical_tokenize registry state text
  have htext : line.text = text := tokenize_text registry state text
  refine ⟨?_, htokens, htext, Nat.succ_pos _, rfl, ?_, ?_, ?_, hcanonical.labels_ne, ?_⟩
  · rw [← htokens, ← htext]
    rfl
  · rw [← List.isChain_iff_pairwise, List.isChain_map]
    exact hcanonical.starts_lt
  · intro hne token hmem
    rw [← htext] at hne ⊢
    exact hcanonical.start_lt_length hne token hmem
  · intro hnil
    have hrest := hcanonical.rest_eq_nil (htext.trans hnil)
    rw [count, tokens, hrest]
    rfl
  · rw [← List.flatMap_def, flatMap_pieces hcanonical.ascending, htext]

end Lexer

end Indentation
