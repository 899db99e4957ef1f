import Indentation.Proofs.Slices

/-!
# Slices of any line

The tokens of a line only have to start in ascending order: several of them may start at one offset,
and some past the end of the text. A slice of such a line is tidier than the line. Its tokens start
at different offsets, all of them inside of the slice, and still every character has the label that
it has in the line.

## Main definitions

* `TokenizedLine.IsCut` — a line is what another one shows between two offsets

## Main results

* `TokenizedLine.pairwise_lastOfEach` — of the tokens at one offset only the last one is kept
* `TokenizedLine.Ascending.cells_slice` — the characters of a slice with their labels
* `TokenizedLine.slice_isCut` — what is known of every slice
-/

namespace Indentation.TokenizedLine

/-- `part` is what `line` shows from offset `start` up to but not including `stop`: its characters
with their labels, in tokens that start at different offsets inside of it. Where there are no
characters, a single token has the label at `start`. -/
structure IsCut (line part : TokenizedLine) (start stop : Nat) : Prop where
  text_eq : part.text = line.text.slice start stop
  startAt_zero : part.startAt 0 = 0
  starts_lt : (part.tokens.map (·.start)).Pairwise (· < ·)
  start_lt : start < stop → ∀ token ∈ part.tokens, token.start < stop - start
  labelAt_find : ∀ i : Nat, i < stop - start →
    part.labelAt (part.find i) = line.labelAt (line.find (start + i : Nat))
  tokens_of_eq : start = stop → part.tokens = [⟨line.labelAt (line.find start), 0⟩]

variable {line : TokenizedLine}

/-! ### Offsets moved into the line -/

theorem natCast_clampOffset (line : TokenizedLine) (offset : Int) :
    (line.clampOffset offset : Int) = min (max offset 0) line.text.length := by
  rw [clampOffset]
  omega

theorem natCast_max_clampOffset (line : TokenizedLine) (start stop : Int) :
    (max (line.clampOffset start) (line.clampOffset stop) : Nat) =
      min (max stop (line.clampOffset start)) (line.text.length : Int) := by
  have hstart := line.clampOffset_le start
  have hstop := line.natCast_clampOffset stop
  omega

/-! ### Tokens behind an offset -/

theorem Ascending.pairwise (h : line.Ascending) : line.tokens.Pairwise (·.start ≤ ·.start) := by
  rw [← List.pairwise_map, ← List.isChain_iff_pairwise, List.isChain_map]
  exact h

theorem lt_start_of_mem_dropWhile {offset : Nat} {tokens : List Token} {token : Token}
    (h : tokens.Pairwise (·.start ≤ ·.start))
    (hmem : token ∈ tokens.dropWhile fun token => token.start ≤ offset) :
    offset < token.start := by
  induction tokens with
  | nil => exact absurd hmem List.not_mem_nil
  | cons first tokens ih =>
    obtain ⟨hfirst, htokens⟩ := List.pairwise_cons.mp h
    by_cases hle : first.start ≤ offset
    · rw [List.dropWhile_cons_of_pos (by simpa using hle)] at hmem
      exact ih htokens hmem
    · -- all that follow the first token behind the offset start there or later
      rw [List.dropWhile_cons_of_neg (by simpa using hle)] at hmem
      rcases List.mem_cons.mp hmem with rfl | hmem
      · exact Nat.not_le.mp hle
      · exact (Nat.not_le.mp hle).trans_le (hfirst token hmem)

theorem lastOfEach_sublist (tokens : List Token) : (lastOfEach tokens).Sublist tokens := by
  fun_induction lastOfEach tokens with
  | case1 token next tokens _ ih => exact ih.cons token
  | case2 token next tokens _ ih => exact ih.cons_cons token
  | case3 tokens => exact List.Sublist.refl tokens

/-- Of ascending tokens, the last ones at each offset start at different offsets. -/
theorem pairwise_lastOfEach {tokens : List Token} (h : tokens.Pairwise (·.start ≤ ·.start)) :
    (lastOfEach tokens).Pairwise (·.start < ·.start) := by
  fun_induction lastOfEach tokens with
  | case1 token next tokens _ ih => exact ih (List.pairwise_cons.mp h).2
  | case2 token next tokens hne ih =>
    obtain ⟨htoken, htokens⟩ := List.pairwise_cons.mp h
    have hnext : token.start < next.start :=
      Nat.lt_of_le_of_ne (htoken next List.mem_cons_self) hne
    refine List.pairwise_cons.mpr ⟨fun other hmem => ?_, ih htokens⟩
    -- what is kept of the rest is the next token or follows it
    rcases List.mem_cons.mp ((lastOfEach_sublist _).mem hmem) with rfl | hmem
    · exact hnext
    · exact hnext.trans_le ((List.pairwise_cons.mp htokens).1 other hmem)
  | case3 tokens hshort =>
    rcases tokens with _ | ⟨token, _ | ⟨next, tokens⟩⟩
    · exact .nil
    · exact List.pairwise_singleton _ token
    · exact (hshort token next tokens rfl).elim

/-! ### The tokens of a slice -/

theorem Ascending.pairwise_rest (h : line.Ascending) : line.rest.Pairwise (·.start ≤ ·.start) :=
  (List.pairwise_cons.mp h.pairwise).2

theorem Ascending.pairwise_between (h : line.Ascending) (start stop : Nat) :
    ((line.rest.dropWhile fun token => token.start ≤ start).takeWhile
      fun token => token.start < stop).Pairwise (·.start ≤ ·.start) :=
  h.pairwise_rest.sublist ((List.takeWhile_sublist _).trans (List.dropWhile_sublist _))

/-- The tokens that a slice keeps start between its bounds. -/
theorem Ascending.start_between (h : line.Ascending) {start stop : Nat} {token : Token}
    (hmem : token ∈ lastOfEach ((line.rest.dropWhile fun token => token.start ≤ start).takeWhile
      fun token => token.start < stop)) :
    start < token.start ∧ token.start < stop := by
  have hbetween := (lastOfEach_sublist _).mem hmem
  constructor
  · exact lt_start_of_mem_dropWhile h.pairwise_rest ((List.takeWhile_sublist _).mem hbetween)
  · simpa using List.mem_takeWhile_imp hbetween

/-- The tokens of a slice behind its first one start inside of it. -/
theorem Ascending.mem_slice_rest (h : line.Ascending) {start stop : Int} {token : Token}
    (hmem : token ∈ (line.slice start stop).rest) :
    0 < token.start ∧ token.start <
      max (line.clampOffset start) (line.clampOffset stop) - line.clampOffset start := by
  rw [slice_rest] at hmem
  obtain ⟨origin, horigin, rfl⟩ := List.mem_map.mp hmem
  obtain ⟨hstart, hstop⟩ := h.start_between horigin
  dsimp only
  omega

/-- The tokens of a slice start at different offsets. -/
theorem Ascending.pairwise_slice (h : line.Ascending) (start stop : Int) :
    (line.slice start stop).tokens.Pairwise (·.start < ·.start) := by
  refine List.pairwise_cons.mpr ⟨fun token hmem => (h.mem_slice_rest hmem).1, ?_⟩
  have hkept := pairwise_lastOfEach (h.pairwise_between (line.clampOffset start)
    (max (line.clampOffset start) (line.clampOffset stop)))
  rw [slice_rest, List.pairwise_map]
  -- the tokens start behind the start of the slice, so that counting from there keeps their order
  refine hkept.imp_of_mem fun hmem _ hlt => ?_
  have hbehind := (h.start_between hmem).1
  dsimp only
  omega

/-- A slice of a line with ascending tokens has ascending tokens. -/
theorem Ascending.slice (h : line.Ascending) (start stop : Int) :
    (line.slice start stop).Ascending :=
  (h.pairwise_slice start stop).isChain.imp fun _ _ => Nat.le_of_lt

/-- The cells of a slice are those between its offsets. -/
theorem Ascending.cells_slice (h : line.Ascending) {start stop : Nat} (hle : start ≤ stop)
    (hstop : stop ≤ line.text.length) :
    (line.slice start stop).cells = (line.cells.take stop).drop start := by
  have hslice := h.slice start stop
  have hstart : line.clampOffset start = start := clampOffset_of_le (hle.trans hstop)
  have hclamp : line.clampOffset stop = stop := clampOffset_of_le hstop
  have htext : (line.slice start stop).text = line.text.slice start stop := by
    rw [slice_text, hstart, hclamp, Nat.max_eq_right hle]
  refine List.ext_getElem? fun i => ?_
  rw [cells_getElem? hslice, List.getElem?_drop, htext]
  -- inside of the slice characters and labels are the same, and behind it there are none
  rcases Nat.lt_or_ge (start + i) stop with hlt | hge
  · rw [Text.getElem?_slice hlt, List.getElem?_take_of_lt hlt, cells_getElem? h,
      labelOf_slice (by rw [hstart, hclamp]; omega), hstart]
  · rw [List.getElem?_eq_none (by rw [Text.length_slice]; omega),
      List.getElem?_eq_none (by rw [List.length_take]; omega)]
    rfl

theorem Ascending.slice_rest_eq_nil (h : line.Ascending) {start stop : Int}
    (hempty : max (line.clampOffset start) (line.clampOffset stop) = line.clampOffset start) :
    (line.slice start stop).rest = [] := by
  refine List.eq_nil_iff_forall_not_mem.mpr fun token hmem => ?_
  have hinside := h.mem_slice_rest hmem
  omega

/-- A slice of a line with ascending tokens shows what the line shows between the two offsets, after
these have been moved into the line and the second one at least to the first. -/
theorem slice_isCut (line : TokenizedLine) (h : line.Ascending) (a b : Int) :
    ∃ start stop : Nat, (start : Int) = min (max a 0) line.text.length ∧
      (stop : Int) = min (max b start) line.text.length ∧ line.IsCut (line.slice a b) start stop := by
  refine ⟨line.clampOffset a, max (line.clampOffset a) (line.clampOffset b),
    line.natCast_clampOffset a, line.natCast_max_clampOffset a b, ?_⟩
  refine ⟨line.slice_text a b, rfl, ?_, fun hlt token hmem => ?_, fun i hi => ?_, fun hempty => ?_⟩
  · rw [List.pairwise_map]
    exact h.pairwise_slice a b
  · rcases List.mem_cons.mp hmem with rfl | hrest
    · exact Nat.sub_pos_of_lt hlt
    · exact (h.mem_slice_rest hrest).2
  · exact labelOf_slice (by omega)
  · rw [tokens, h.slice_rest_eq_nil hempty.symm]
    rfl

/-- Two tokens start at one offset and another one past the end, and the slice starts in front of
the line. -/
theorem slice_isCut_crowded :
    Ascending ⟨"ab(c".toList, ⟨.other, "js"⟩, [⟨⟨.string, "js"⟩, 2⟩, ⟨⟨.comment, "js"⟩, 2⟩,
      ⟨⟨.other, "html"⟩, 9⟩]⟩ ∧
      ∃ start stop : Nat, (start : Int) = min (max (-3) 0) ("ab(c".toList.length : Int) ∧
        (stop : Int) = min (max 3 (start : Int)) ("ab(c".toList.length : Int) ∧
        IsCut ⟨"ab(c".toList, ⟨.other, "js"⟩, [⟨⟨.string, "js"⟩, 2⟩, ⟨⟨.comment, "js"⟩, 2⟩,
          ⟨⟨.other, "html"⟩, 9⟩]⟩
          ⟨"ab(".toList, ⟨.other, "js"⟩, [⟨⟨.comment, "js"⟩, 2⟩]⟩ start stop := by
  have h : Ascending ⟨"ab(c".toList, ⟨.other, "js"⟩, [⟨⟨.string, "js"⟩, 2⟩, ⟨⟨.comment, "js"⟩, 2⟩,
      ⟨⟨.other, "html"⟩, 9⟩]⟩ := by
    simp [Ascending, tokens]
  exact ⟨h, slice_isCut _ h (-3) 3⟩

end Indentation.TokenizedLine
