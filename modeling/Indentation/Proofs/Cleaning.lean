import Indentation.Proofs.Cuts
import Indentation.Sanitize

/-!
# Cleaning by character

What is left of a line without literal brackets, told from the labels of its characters alone: the
characters are cut into the maximal runs of one label, and from each run of a literal every spelling
is deleted in turn, the opening ones before the closing ones. Sanitizing a canonical line, or a
slice of one that lies in one language, gives this text.

## Main definitions

* `Text.without` — a text after deleting the occurrences of a spelling from left to right
* `Registry.clean` — what is left of labelled characters in a language

## Main results

* `Text.eraseAll_eq_without` — erasing deletes the occurrences that a search finds one after another
* `TokenizedLine.Canonical.sanitize_eq_clean`, `TokenizedLine.Canonical.sanitize_slice` — sanitizing
  cleans the cells
* `TokenizedLine.sanitize_of_length_eq_one` — with brackets of one character, sanitizing keeps or
  drops each character on its own
-/

namespace Indentation

namespace Text

/-- The text after deleting the first occurrence of the spelling, the next one behind it, and so on.
Deleting the empty spelling changes nothing. -/
def without (spelling text : Text) : Text :=
  match find? spelling text with
  | none => text
  | some offset =>
    if spelling = [] ∨ text = [] then
      text
    else
      text.take offset ++ without spelling (text.drop (offset + spelling.length))
termination_by text.length
decreasing_by
  rename_i h
  rw [not_or] at h
  have hspelling := List.length_pos_iff.mpr h.1
  have htext := List.length_pos_iff.mpr h.2
  rw [List.length_drop]
  omega

variable {spelling text : Text}

theorem without_nil_left (text : Text) : without [] text = text := by
  rw [without, find?_nil_left]
  exact if_pos (Or.inl rfl)

theorem eraseAfter_eq_eraseAll (spelling : Text) (skip : Nat) (text : Text) :
    eraseAfter spelling skip text = eraseAll spelling (text.drop skip) := by
  induction skip generalizing text with
  | zero => rfl
  | succ skip ih =>
    cases text with
    | nil => rfl
    | cons c cs =>
      rw [eraseAfter, List.drop_succ_cons]
      exact ih cs

theorem eraseAll_of_find?_eq_none (h : find? spelling text = none) :
    eraseAll spelling text = text := by
  induction text with
  | nil => rfl
  | cons c cs ih =>
    have hfront : ¬ spelling.isPrefixOf (c :: cs) := by
      rw [List.isPrefixOf_iff_prefix]
      exact find?_eq_none_iff.mp h 0
    rw [eraseAll, eraseAfter, if_neg hfront]
    exact congrArg (c :: ·) (ih (@find?_drop_of_none spelling (c :: cs) 1 h))

theorem eraseAll_of_find?_eq_some {offset : Nat} (hspelling : spelling ≠ [])
    (h : find? spelling text = some offset) :
    eraseAll spelling text =
      text.take offset ++ eraseAll spelling (text.drop (offset + spelling.length)) := by
  induction text generalizing offset with
  | nil =>
    rw [find?, if_neg (by simpa using hspelling)] at h
    exact absurd h (by simp)
  | cons c cs ih =>
    have hpos := List.length_pos_iff.mpr hspelling
    rw [find?] at h
    by_cases hfront : spelling.isPrefixOf (c :: cs)
    · -- an occurrence at the front, of which the first character is passed over at once
      rw [if_pos hfront] at h
      obtain rfl := Option.some.inj h
      obtain ⟨n, hn⟩ : ∃ n, spelling.length = n + 1 := ⟨spelling.length - 1, by omega⟩
      rw [eraseAll, eraseAfter, if_pos hfront, eraseAfter_eq_eraseAll, hn]
      simp
    · rw [if_neg hfront] at h
      obtain ⟨offset, hfind, rfl⟩ := Option.map_eq_some_iff.mp h
      rw [eraseAll, eraseAfter, if_neg hfront, List.take_succ_cons, List.cons_append,
        Nat.add_right_comm, List.drop_succ_cons]
      exact congrArg (c :: ·) (ih hfind)

/-- Erasing a spelling deletes the occurrences that a search finds one after another. -/
theorem eraseAll_eq_without (hspelling : spelling ≠ []) (text : Text) :
    eraseAll spelling text = without spelling text := by
  fun_induction without spelling text with
  | case1 text hfind => exact eraseAll_of_find?_eq_none hfind
  | case2 text offset hfind hnil =>
    rcases hnil with hnil | rfl
    · exact absurd hnil hspelling
    · rfl
  | case3 text offset hfind _ ih => rw [eraseAll_of_find?_eq_some hspelling hfind, ih]

theorem stripSpellings_eq_foldl_without (pairs : List BracketPair) (text : Text) :
    text.stripSpellings (BracketPair.spellings pairs) =
      (pairs.flatMap (·.opens) ++ pairs.flatMap (·.closes)).foldl
        (fun text spelling => without spelling text) text := by
  rw [stripSpellings, BracketPair.spellings]
  generalize pairs.flatMap (·.opens) ++ pairs.flatMap (·.closes) = spellings
  induction spellings generalizing text with
  | nil => rfl
  | cons spelling spellings ih =>
    rw [List.foldl_cons, ← ih]
    cases spelling with
    | nil => rw [List.filter_cons_of_neg (by simp), without_nil_left]
    | cons c cs =>
      rw [List.filter_cons_of_pos (by simp), List.foldl_cons, eraseAll_eq_without (by simp)]

@[simp] theorem stripSpellings_nil (spellings : List Text) : stripSpellings spellings [] = [] := by
  rw [stripSpellings]
  induction spellings with
  | nil => rfl
  | cons spelling spellings ih => rw [List.foldl_cons, eraseAll, eraseAfter, ih]

end Text

/-! ### Labelled characters -/

/-- What is left of a run of characters with one label: the characters of a literal without the
spellings of the brackets, the opening ones deleted before the closing ones, and others as they
are. -/
def cleanRun (pairs : List BracketPair) (run : List (Char × Label)) : Text :=
  let text := run.map (·.1)
  if run.any (·.2.kind.isLiteral) then
    (pairs.flatMap (·.opens) ++ pairs.flatMap (·.closes)).foldl
      (fun text spelling => Text.without spelling text) text
  else
    text

/-- What is left of labelled characters in a language: all of them if it has no brackets, and
otherwise what is left of their maximal runs of one label. -/
def Registry.clean (registry : Registry) (language : String) (cells : List (Char × Label)) : Text :=
  match registry.brackets? language with
  | none => cells.map (·.1)
  | some pairs => (cells.splitBy fun a b => a.2 == b.2).flatMap (cleanRun pairs)

theorem cleanRun_paint (pairs : List BracketPair) (piece : Label × Text) :
    cleanRun pairs (TokenizedLine.paint piece) =
      piece.1.keep (BracketPair.spellings pairs) piece.2 := by
  obtain ⟨label, text⟩ := piece
  have hchars : (TokenizedLine.paint (label, text)).map (·.1) = text := by
    simp [TokenizedLine.paint, Function.comp_def]
  rw [cleanRun, hchars, ← Text.stripSpellings_eq_foldl_without, Label.keep]
  cases text with
  | nil => simp [TokenizedLine.paint]
  | cons c cs =>
    have hany : (TokenizedLine.paint (label, c :: cs)).any (·.2.kind.isLiteral) =
        label.kind.isLiteral := by
      rw [Bool.eq_iff_iff, List.any_eq_true]
      simp [TokenizedLine.paint]
    rw [hany]

@[simp] theorem Registry.clean_nil (registry : Registry) (language : String) :
    registry.clean language [] = [] := by
  rw [clean]
  cases registry.brackets? language <;> rfl

namespace TokenizedLine

variable {line : TokenizedLine} {registry : Registry}

/-- Sanitizing an empty line leaves nothing, whatever its tokens are. -/
theorem sanitize_of_text_eq_nil (h : line.text = []) : registry.sanitize line = [] := by
  rw [Registry.sanitize]
  cases registry.brackets? line.first.language with
  | none => exact h
  | some pairs =>
    rw [List.flatMap_eq_nil_iff]
    intro piece hmem
    obtain ⟨index, -, rfl⟩ := List.mem_map.mp hmem
    simp [textAt, h, Text.slice, Label.keep]

/-- Sanitizing a canonical line cleans its cells in the language of its first token. -/
theorem Canonical.sanitize_eq_clean (h : line.Canonical) :
    registry.sanitize line = registry.clean line.first.language line.cells := by
  by_cases htext : line.text = []
  · have hcells : line.cells = [] := by
      rw [← List.length_eq_zero_iff, length_cells h.ascending, htext]
      rfl
    rw [sanitize_of_text_eq_nil htext, hcells, Registry.clean_nil]
  · rw [Registry.sanitize, Registry.clean]
    cases registry.brackets? line.first.language with
    | none => exact (map_fst_cells h.ascending).symm
    | some pairs =>
      dsimp only
      rw [← h.map_pieces htext, List.flatMap_map]
      exact List.flatMap_congr fun piece _ => (cleanRun_paint pairs piece).symm

/-- Sanitizing a slice in one language cleans the cells between its offsets in that language. An
empty slice may carry the label of a character of another language, but nothing is left of it. -/
theorem Canonical.sanitize_slice (h : line.Canonical) {start stop : Nat} {language : String}
    (hle : start ≤ stop) (hstop : stop ≤ line.text.length)
    (hlanguage : start < stop → (line.labelOf start).language = language) :
    registry.sanitize (line.slice start stop) =
      registry.clean language ((line.cells.take stop).drop start) := by
  have hcells := h.ascending.cells_slice hle hstop
  rcases Nat.eq_or_lt_of_le hle with rfl | hlt
  · -- an empty slice, whatever its label
    have hnil : (line.cells.take start).drop start = [] :=
      List.drop_eq_nil_of_le (List.length_take_le _ _)
    have htext : (line.slice start start).text = [] := by
      rw [← map_fst_cells (h.slice start start).ascending, hcells, hnil]
      rfl
    rw [sanitize_of_text_eq_nil htext, hnil, Registry.clean_nil]
  · rw [(h.slice start stop).sanitize_eq_clean, hcells, slice_first,
      clampOffset_of_le (hle.trans hstop), hlanguage hlt]

end TokenizedLine

/-! ### Brackets of one character -/

theorem BracketPair.mem_spellings {pairs : List BracketPair} {spelling : Text} :
    spelling ∈ spellings pairs ↔
      (∃ pair ∈ pairs, spelling ∈ pair.opens ++ pair.closes) ∧ spelling ≠ [] := by
  rw [spellings, List.mem_filter, List.mem_append, List.mem_flatMap, List.mem_flatMap]
  simp only [List.mem_append, ← exists_or, ← and_or_left]
  simp

theorem Text.eraseAll_singleton (c : Char) (text : Text) :
    Text.eraseAll [c] text = text.filter fun d => d ≠ c := by
  induction text with
  | nil => rfl
  | cons d ds ih =>
    rw [Text.eraseAll, Text.eraseAfter]
    by_cases hd : d = c
    · subst hd
      rw [if_pos (by simp), List.filter_cons_of_neg (by simp)]
      exact ih
    · rw [if_neg (by simpa using Ne.symm hd), List.filter_cons_of_pos (by simpa using hd)]
      exact congrArg (d :: ·) ih

/-- Erasing spellings of one character keeps the characters that are none of them. -/
theorem Text.stripSpellings_of_length_eq_one {spellings : List Text}
    (h : ∀ spelling ∈ spellings, spelling.length = 1) (text : Text) :
    text.stripSpellings spellings = text.filter fun c => [c] ∉ spellings := by
  rw [Text.stripSpellings]
  induction spellings generalizing text with
  | nil => simp
  | cons spelling spellings ih =>
    obtain ⟨c, rfl⟩ := List.length_eq_one_iff.mp (h spelling List.mem_cons_self)
    -- what is none of the other spellings, and not this one
    have hspellings := fun other hmem => h other (List.mem_cons_of_mem [c] hmem)
    rw [List.foldl_cons, ih hspellings, Text.eraseAll_singleton, List.filter_filter]
    refine List.filter_congr fun d _ => ?_
    simp [Bool.and_comm]

/-- With brackets of one character, sanitizing drops the brackets among the literal characters. -/
theorem TokenizedLine.sanitize_of_length_eq_one {line : TokenizedLine} {registry : Registry}
    {pairs : List BracketPair} (hpairs : registry.brackets? line.first.language = some pairs)
    (h : ∀ spelling ∈ BracketPair.spellings pairs, spelling.length = 1) :
    registry.sanitize line =
      (line.cells.filter fun cell => ¬ (cell.2.kind.isLiteral ∧
        [cell.1] ∈ BracketPair.spellings pairs)).map (·.1) := by
  rw [Registry.sanitize, hpairs, TokenizedLine.cells, List.filter_flatMap, List.map_flatMap]
  refine List.flatMap_congr ?_
  rintro ⟨label, text⟩ -
  dsimp only [Label.keep]
  rw [TokenizedLine.paint, List.filter_map, List.map_map]
  by_cases hliteral : label.kind.isLiteral
  · rw [if_pos hliteral, Text.stripSpellings_of_length_eq_one h]
    simp [Function.comp_def, hliteral]
  · rw [if_neg hliteral]
    simp [Function.comp_def, hliteral]

end Indentation
