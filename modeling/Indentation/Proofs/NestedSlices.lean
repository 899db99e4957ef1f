import Indentation.Proofs.Cuts

/-!
# Slices of slices

A slice of a slice is a slice of the line. Taking the first slice drops tokens, keeps one of several
that start at one offset and counts offsets from another place; none of this shows in the second
one. The reason is that in ascending order the tokens between two offsets are a filter by the
offset, and that keeping the last token at each offset commutes with every such filter.

## Main definitions

* `TokenizedLine.tokensWithin` — the tokens that start strictly between two offsets

## Main results

* `TokenizedLine.lastOfEach_filter` — the last token at each offset, and filters by offset
* `TokenizedLine.Ascending.slice_rest_eq` — the tokens of a slice behind its first one
* `TokenizedLine.slice_slice` — a slice of a slice
-/

namespace Indentation

/-- A slice of a slice of a text. -/
theorem Text.slice_slice {text : Text} {start stop first last : Nat} (h : start + last ≤ stop) :
    (text.slice start stop).slice first last = text.slice (start + first) (start + last) := by
  simp only [Text.slice, List.take_drop, List.drop_drop, List.take_take]
  rw [Nat.min_eq_left h]

namespace TokenizedLine

attribute [ext] TokenizedLine

variable {line : TokenizedLine}

/-! ### Prefixes as filters -/

section Prefixes

variable {α : Type} {p : α → Bool} {xs : List α}

theorem takeWhile_eq_filter (h : xs.Pairwise fun x y => p y → p x) :
    xs.takeWhile p = xs.filter p := by
  induction xs with
  | nil => rfl
  | cons x xs ih =>
    obtain ⟨hx, hxs⟩ := List.pairwise_cons.mp h
    by_cases hp : p x
    · rw [List.takeWhile_cons_of_pos hp, List.filter_cons_of_pos hp, ih hxs]
    · -- once the condition fails it fails for all that follow
      rw [List.takeWhile_cons_of_neg hp, List.filter_cons_of_neg hp, eq_comm,
        List.filter_eq_nil_iff]
      exact fun y hmem hy => hp (hx y hmem hy)

theorem dropWhile_eq_filter (h : xs.Pairwise fun x y => p y → p x) :
    xs.dropWhile p = xs.filter fun x => !p x := by
  induction xs with
  | nil => rfl
  | cons x xs ih =>
    obtain ⟨hx, hxs⟩ := List.pairwise_cons.mp h
    by_cases hp : p x
    · rw [List.dropWhile_cons_of_pos hp, List.filter_cons_of_neg (by simpa using hp), ih hxs]
    · rw [List.dropWhile_cons_of_neg hp, eq_comm, List.filter_eq_self]
      intro y hmem
      rcases List.mem_cons.mp hmem with rfl | hmem
      · simpa using hp
      · simpa using fun hy => hp (hx y hmem hy)

end Prefixes

/-- The tokens that start behind `start` and before `stop`. -/
def tokensWithin (start stop : Nat) (tokens : List Token) : List Token :=
  tokens.filter fun token => start < token.start ∧ token.start < stop

/-- In ascending order the tokens between two offsets are found by looking for the first token behind
each of them. -/
theorem takeWhile_dropWhile_eq_tokensWithin {tokens : List Token} (start stop : Nat)
    (h : tokens.Pairwise (·.start ≤ ·.start)) :
    ((tokens.dropWhile fun token => token.start ≤ start).takeWhile fun token => token.start < stop) =
      tokensWithin start stop tokens := by
  have hbehind : (tokens.dropWhile fun token => token.start ≤ start) =
      tokens.filter fun token => !decide (token.start ≤ start) := by
    refine dropWhile_eq_filter (h.imp fun hle hnext => ?_)
    simp only [decide_eq_true_eq] at hnext ⊢
    exact hle.trans hnext
  have hbefore : (tokens.filter fun token => !decide (token.start ≤ start)).Pairwise
      fun token next => decide (next.start < stop) → decide (token.start < stop) := by
    refine (h.sublist List.filter_sublist).imp fun hle hnext => ?_
    simp only [decide_eq_true_eq] at hnext ⊢
    exact Nat.lt_of_le_of_lt hle hnext
  rw [hbehind, takeWhile_eq_filter hbefore, List.filter_filter, tokensWithin]
  refine List.filter_congr fun token _ => ?_
  simp only [Bool.and_comm, ← decide_not, Nat.not_le, Bool.decide_and]

/-! ### The last token at each offset -/

theorem lastOfEach_cons_of_ne {token : Token} {tokens : List Token}
    (h : ∀ other ∈ tokens, token.start ≠ other.start) :
    lastOfEach (token :: tokens) = token :: lastOfEach tokens := by
  cases tokens with
  | nil => rfl
  | cons next tokens => rw [lastOfEach, if_neg (h next List.mem_cons_self)]

/-- Which token is kept of those at one offset does not depend on the tokens at other offsets, so
that tokens may be left out by their offset before or after. -/
theorem lastOfEach_filter {tokens : List Token} {p : Token → Bool}
    (hp : ∀ token other : Token, token.start = other.start → p token = p other)
    (h : tokens.Pairwise (·.start ≤ ·.start)) :
    lastOfEach (tokens.filter p) = (lastOfEach tokens).filter p := by
  fun_induction lastOfEach tokens with
  | case1 token next tokens heq ih =>
    rw [← ih (List.pairwise_cons.mp h).2]
    -- the two tokens stand at one offset, so both are left out or both stay
    by_cases hnext : p next
    · rw [List.filter_cons_of_pos (by rwa [hp token next heq]), List.filter_cons_of_pos hnext,
        lastOfEach, if_pos heq]
    · rw [List.filter_cons_of_neg (by rwa [hp token next heq])]
  | case2 token next tokens hne ih =>
    obtain ⟨htoken, htokens⟩ := List.pairwise_cons.mp h
    have hlater : ∀ other ∈ next :: tokens, token.start ≠ other.start := by
      intro other hmem
      have hlt := Nat.lt_of_le_of_ne (htoken next List.mem_cons_self) hne
      rcases List.mem_cons.mp hmem with rfl | hmem
      · exact hne
      · exact (hlt.trans_le ((List.pairwise_cons.mp htokens).1 other hmem)).ne
    by_cases hkept : p token
    · rw [List.filter_cons_of_pos hkept, List.filter_cons_of_pos hkept,
        lastOfEach_cons_of_ne fun other hmem => hlater other (List.mem_of_mem_filter hmem),
        ih htokens]
    · rw [List.filter_cons_of_neg hkept, List.filter_cons_of_neg hkept, ih htokens]
  | case3 tokens hshort =>
    rcases tokens with _ | ⟨token, _ | ⟨next, tokens⟩⟩
    · rfl
    · by_cases hkept : p token <;> simp [hkept, lastOfEach]
    · exact (hshort token next tokens rfl).elim

/-- The last tokens at each offset, between two offsets. -/
theorem lastOfEach_tokensWithin {tokens : List Token} (h : tokens.Pairwise (·.start ≤ ·.start))
    (start stop : Nat) :
    lastOfEach (tokensWithin start stop tokens) = tokensWithin start stop (lastOfEach tokens) :=
  lastOfEach_filter (fun token other heq => by rw [heq]) h

/-- Tokens between two offsets, counted from a place in front of them. -/
theorem tokensWithin_rebase {tokens : List Token} {start stop first last : Nat}
    (h : start + last ≤ stop) :
    tokensWithin first last ((tokensWithin start stop tokens).map
      fun token => { token with start := token.start - start }) =
      (tokensWithin (start + first) (start + last) tokens).map
        fun token => { token with start := token.start - start } := by
  rw [tokensWithin, tokensWithin, tokensWithin, List.filter_map, List.filter_filter]
  refine congrArg _ (List.filter_congr fun token _ => ?_)
  rw [Function.comp_apply, ← Bool.decide_and, decide_eq_decide]
  dsimp only
  omega

/-! ### Slices -/

/-- The tokens of a slice behind its first one: those between its offsets, one for each offset,
counted from its start. -/
theorem Ascending.slice_rest_eq (h : line.Ascending) {a b : Int} {start stop : Nat}
    (hstart : line.clampOffset a = start)
    (hstop : max (line.clampOffset a) (line.clampOffset b) = stop) :
    (line.slice a b).rest =
      (tokensWithin start stop (lastOfEach line.rest)).map
        fun token => { token with start := token.start - start } := by
  rw [slice_rest, hstop, hstart, takeWhile_dropWhile_eq_tokensWithin _ _ h.pairwise_rest,
    lastOfEach_tokensWithin h.pairwise_rest]

/-- The tokens of a slice start at different offsets, so that none of them is dropped for another. -/
theorem Ascending.lastOfEach_slice_rest (h : line.Ascending) (a b : Int) :
    lastOfEach (line.slice a b).rest = (line.slice a b).rest :=
  lastOfEach_of_isChain_lt (List.pairwise_cons.mp (h.pairwise_slice a b)).2.isChain

/-- A slice of a slice is a slice of the line, whatever the second one asks for: it may end before
it starts or behind the first one. -/
theorem slices_compose (line : TokenizedLine) (h : line.Ascending) (a b c d : Int) (ha : 0 ≤ a)
    (hab : a < b) (hb : b ≤ line.text.length) (hc : 0 ≤ c) (hcb : c < b - a) :
    (line.slice a b).slice c d = line.slice (a + c) (min (a + d) b) := by
  lift a to Nat using ha
  lift c to Nat using hc
  lift b to Nat using by omega
  have hstart : line.clampOffset a = a := clampOffset_of_le (by omega)
  have hstop : max (line.clampOffset a) (line.clampOffset b) = b := by
    rw [hstart, clampOffset_of_le (by omega)]
    omega
  have htext : (line.slice a b).text = line.text.slice a b := by
    rw [slice_text, hstop, hstart]
  have hlength : (line.slice a b).text.length = b - a := by
    rw [htext, Text.length_slice]
    omega
  -- the offsets of the second slice in the first one and in the line
  obtain ⟨last, hlast⟩ : ∃ last, max ((line.slice a b).clampOffset c)
    ((line.slice a b).clampOffset d) = last := ⟨_, rfl⟩
  have hfirst : (line.slice a b).clampOffset c = c := clampOffset_of_le (by omega)
  have hfirst' : line.clampOffset (a + c) = a + c := clampOffset_of_le (by omega)
  have hlast' : max (line.clampOffset (a + c)) (line.clampOffset (min (a + d) b)) = a + last := by
    rw [← hlast, hfirst, hfirst', clampOffset, clampOffset, hlength]
    omega
  have hle : a + last ≤ b := by
    rw [← hlast, hfirst, clampOffset, hlength]
    omega
  ext1
  · rw [slice_text, hlast, hfirst, htext, Text.slice_slice hle, slice_text, hlast', hfirst']
  · have hinside : line.clampOffset a + c < max (line.clampOffset a) (line.clampOffset b) := by
      rw [hstop, hstart]
      omega
    rw [slice_first, hfirst, labelOf_slice hinside, hstart, slice_first, hfirst']
  · rw [(h.slice a b).slice_rest_eq hfirst hlast, h.lastOfEach_slice_rest,
      h.slice_rest_eq hstart hstop, tokensWithin_rebase hle, h.slice_rest_eq hfirst' hlast',
      List.map_map]
    refine List.map_congr_left fun token _ => ?_
    rw [Function.comp_apply, Nat.sub_sub]

/-- The first slice drops one of two tokens at an offset and a token past the end, and the second one
ends behind it. -/
theorem slices_compose_crowded :
    Ascending ⟨"ab(c)".toList, ⟨.other, "js"⟩, [⟨⟨.string, "js"⟩, 2⟩, ⟨⟨.comment, "js"⟩, 2⟩,
      ⟨⟨.other, "html"⟩, 3⟩, ⟨⟨.regex, "js"⟩, 9⟩]⟩ ∧
      slice ⟨"b(c".toList, ⟨.other, "js"⟩, [⟨⟨.comment, "js"⟩, 1⟩, ⟨⟨.other, "html"⟩, 2⟩]⟩ 1 7 =
        slice ⟨"ab(c)".toList, ⟨.other, "js"⟩, [⟨⟨.string, "js"⟩, 2⟩, ⟨⟨.comment, "js"⟩, 2⟩,
          ⟨⟨.other, "html"⟩, 3⟩, ⟨⟨.regex, "js"⟩, 9⟩]⟩ 2 4 := by
  have h : Ascending ⟨"ab(c)".toList, ⟨.other, "js"⟩, [⟨⟨.string, "js"⟩, 2⟩,
      ⟨⟨.comment, "js"⟩, 2⟩, ⟨⟨.other, "html"⟩, 3⟩, ⟨⟨.regex, "js"⟩, 9⟩]⟩ := by
    simp [Ascending, tokens]
  exact ⟨h, slices_compose _ h 1 4 1 7 (by decide) (by decide) (by decide) (by decide) (by decide)⟩

end TokenizedLine

end Indentation
