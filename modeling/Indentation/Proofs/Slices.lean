import Indentation.Proofs.Tiling
import Indentation.Scope
import Mathlib.Data.List.TakeWhile

/-!
# Slices and scopes by character

A slice keeps the labels of its characters, and a slice of a canonical line is canonical. The scope
at an offset covers the maximal run of characters of one language.

## Main definitions

* `IsRun` — a maximal interval on which a function does not change

## Main results

* `IsRun.unique` — there is only one such interval around an index
* `TokenizedLine.labelOf_slice` — the labels of a slice
* `TokenizedLine.Canonical.slice` — slices of canonical lines
* `TokenizedLine.Canonical.labelOf_start` — the labels around the start of a token
* `TokenizedLine.isRun_tokens`, `TokenizedLine.Canonical.isRun_scopeAt` — the tokens and the
  characters of a scope
-/

namespace Indentation

/-- The offsets from `start` up to `stop` are the longest stretch around `index`, among those below
`length`, on which `f` does not change. -/
structure IsRun {β : Type} (f : Nat → β) (length index start stop : Nat) : Prop where
  start_le : start ≤ index
  lt_stop : index < stop
  stop_le : stop ≤ length
  same : ∀ i, start ≤ i → i < stop → f i = f index
  left : 0 < start → f (start - 1) ≠ f index
  right : stop < length → f stop ≠ f index

namespace IsRun

variable {β : Type} {f : Nat → β} {length index start stop start' stop' : Nat}

theorem start_le_of_isRun (h : IsRun f length index start stop)
    (h' : IsRun f length index start' stop') : start ≤ start' := by
  by_contra hlt
  have hsame : f (start - 1) = f index :=
    h'.same (start - 1) (by omega) (by have := h.start_le; have := h'.lt_stop; omega)
  exact h.left (by omega) hsame

theorem stop_le_of_isRun (h : IsRun f length index start stop)
    (h' : IsRun f length index start' stop') : stop ≤ stop' := by
  by_contra hlt
  have hsame : f stop' = f index :=
    h.same stop' (by have := h.start_le; have := h'.lt_stop; omega) (by omega)
  exact h'.right (by have := h.stop_le; omega) hsame

/-- There is only one maximal interval around an index. -/
theorem unique (h : IsRun f length index start stop) (h' : IsRun f length index start' stop') :
    start = start' ∧ stop = stop' :=
  ⟨Nat.le_antisymm (h.start_le_of_isRun h') (h'.start_le_of_isRun h),
    Nat.le_antisymm (h.stop_le_of_isRun h') (h'.stop_le_of_isRun h)⟩

theorem congr {γ : Type} {g : Nat → γ} (h : IsRun f length index start stop)
    (hfg : ∀ i < length, f i = f index ↔ g i = g index) : IsRun g length index start stop := by
  have hstart := h.start_le
  have hlt := h.lt_stop
  have hle := h.stop_le
  refine ⟨hstart, hlt, hle, fun i hi hstop => ?_, fun hpos => ?_, fun hstop => ?_⟩
  · exact (hfg i (by omega)).mp (h.same i hi hstop)
  · exact fun heq => h.left hpos ((hfg _ (by omega)).mpr heq)
  · exact fun heq => h.right hstop ((hfg _ hstop).mpr heq)

end IsRun

section Growth

variable {α β : Type} {xs : List α}

theorem length_takeWhile_eq_findIdx (p : α → Bool) :
    (xs.takeWhile p).length = xs.findIdx fun x => !p x := by
  rw [List.takeWhile_eq_take_findIdx_not, List.length_take]
  exact Nat.min_eq_left List.findIdx_le_length

theorem of_lt_length_takeWhile {p : α → Bool} {i : Nat} {x : α} (hx : xs[i]? = some x)
    (h : i < (xs.takeWhile p).length) : p x = true := by
  rw [length_takeWhile_eq_findIdx] at h
  have hnot := List.not_of_lt_findIdx h
  obtain ⟨hlt, rfl⟩ := List.getElem?_eq_some_iff.mp hx
  simpa using hnot

theorem of_length_takeWhile {p : α → Bool} {x : α} (hx : xs[(xs.takeWhile p).length]? = some x) :
    p x = false := by
  rw [length_takeWhile_eq_findIdx] at hx
  obtain ⟨hlt, rfl⟩ := List.getElem?_eq_some_iff.mp hx
  simpa using List.findIdx_getElem (w := hlt)

/-- Growing to the left from an index. -/
theorem grow_left (p : α → Bool) {k n : Nat} (hk : k ≤ xs.length)
    (hn : ((xs.take k).reverse.takeWhile p).length = n) :
    n ≤ k ∧ (∀ i x, k - n ≤ i → i < k → xs[i]? = some x → p x = true) ∧
      (∀ x, n < k → xs[k - n - 1]? = some x → p x = false) := by
  have hle : n ≤ k := by
    have := (List.takeWhile_sublist (l := (xs.take k).reverse) p).length_le
    rw [hn, List.length_reverse, List.length_take] at this
    omega
  -- the characters before the index, counted from it
  have hbefore (i : Nat) (hi : i < k) : (xs.take k).reverse[k - 1 - i]? = xs[i]? := by
    rw [List.getElem?_reverse (by rw [List.length_take]; omega), List.length_take,
      Nat.min_eq_left hk, List.getElem?_take_of_lt (by omega)]
    congr 1
    omega
  refine ⟨hle, fun i x hstart hlt hx => ?_, fun x hlt hx => ?_⟩
  · rw [← hbefore i hlt] at hx
    exact of_lt_length_takeWhile hx (by omega)
  · rw [← hbefore _ (by omega), show k - 1 - (k - n - 1) = n by omega, ← hn] at hx
    exact of_length_takeWhile hx

/-- Growing to the right from an index. -/
theorem grow_right (p : α → Bool) {k n : Nat} (hn : ((xs.drop k).takeWhile p).length = n) :
    n ≤ xs.length - k ∧ (∀ i x, k ≤ i → i < k + n → xs[i]? = some x → p x = true) ∧
      (∀ x, xs[k + n]? = some x → p x = false) := by
  refine ⟨?_, fun i x hstart hlt hx => ?_, fun x hx => ?_⟩
  · have := (List.takeWhile_sublist (l := xs.drop k) p).length_le
    rwa [hn, List.length_drop] at this
  · have hdrop : (xs.drop k)[i - k]? = some x := by
      rw [List.getElem?_drop, Nat.add_sub_cancel' hstart, hx]
    exact of_lt_length_takeWhile hdrop (by omega)
  · rw [← List.getElem?_drop, ← hn] at hx
    exact of_length_takeWhile hx

variable [DecidableEq β]

/-- Growing to the left and to the right for as long as a value stays the same gives the maximal
interval. -/
theorem isRun_grow (g : α → β) {k : Nat} {x : α} (hx : xs[k]? = some x) :
    IsRun (fun i => xs[i]?.map g) xs.length k
      (k - ((xs.take k).reverse.takeWhile fun y => g y = g x).length)
      (k + 1 + ((xs.drop (k + 1)).takeWhile fun y => g y = g x).length) := by
  have hk : k < xs.length := (List.getElem?_eq_some_iff.mp hx).1
  obtain ⟨hle, hleft, hleft'⟩ := @grow_left α xs (fun y => g y = g x) k _ hk.le rfl
  obtain ⟨hle', hright, hright'⟩ := @grow_right α xs (fun y => g y = g x) (k + 1) _ rfl
  generalize ((xs.take k).reverse.takeWhile fun y => g y = g x).length = m at *
  generalize ((xs.drop (k + 1)).takeWhile fun y => g y = g x).length = n at *
  refine ⟨by omega, by omega, by omega, fun i hstart hstop => ?_, fun hpos => ?_, fun hlt => ?_⟩
  · have hi : xs[i]? = some xs[i] := List.getElem?_eq_getElem (by omega)
    rw [hi, hx]
    rcases Nat.lt_trichotomy i k with hlt | rfl | hgt
    · simpa using hleft i _ hstart hlt hi
    · simp_all
    · simpa using hright i _ (by omega) (by omega) hi
  · have hi : xs[k - m - 1]? = some xs[k - m - 1] := List.getElem?_eq_getElem (by omega)
    rw [hi, hx]
    simpa using hleft' _ (by omega) hi
  · have hi : xs[k + 1 + n]? = some xs[k + 1 + n] := List.getElem?_eq_getElem hlt
    rw [hi, hx]
    simpa using hright' _ hi

end Growth

namespace TokenizedLine

variable {line : TokenizedLine}

/-! ### Slices -/

/-- The offsets between which a slice is taken lie in the line. -/
theorem clampOffset_le (line : TokenizedLine) (offset : Int) :
    line.clampOffset offset ≤ line.text.length :=
  Nat.min_le_right _ _

theorem clampOffset_of_le {offset : Nat} (h : offset ≤ line.text.length) :
    line.clampOffset offset = offset := by
  rw [clampOffset, Int.toNat_natCast, Nat.min_eq_left h]

theorem labelFrom_dropWhile (start i : Nat) (label : Label) (tokens : List Token) :
    labelFrom (start + i) (labelFrom start label tokens)
      (tokens.dropWhile fun token => token.start ≤ start) =
      labelFrom (start + i) label tokens := by
  induction tokens generalizing label with
  | nil => rfl
  | cons token tokens ih =>
    by_cases hle : token.start ≤ start
    · rw [List.dropWhile_cons_of_pos (by simpa using hle), labelFrom, if_pos hle, ih]
      rw [labelFrom, if_pos (by omega)]
    · rw [List.dropWhile_cons_of_neg (by simpa using hle), labelFrom.eq_2 start, if_neg hle]

theorem labelFrom_takeWhile {stop offset : Nat} (h : offset < stop) (label : Label)
    (tokens : List Token) :
    labelFrom offset label (tokens.takeWhile fun token => token.start < stop) =
      labelFrom offset label tokens := by
  induction tokens generalizing label with
  | nil => rfl
  | cons token tokens ih =>
    by_cases hlt : token.start < stop
    · rw [List.takeWhile_cons_of_pos (by simpa using hlt), labelFrom, labelFrom, ih]
    · rw [List.takeWhile_cons_of_neg (by simpa using hlt), labelFrom, labelFrom, if_neg (by omega)]

theorem labelFrom_lastOfEach (offset : Nat) (label : Label) (tokens : List Token) :
    labelFrom offset label (lastOfEach tokens) = labelFrom offset label tokens := by
  fun_induction lastOfEach tokens generalizing label with
  | case1 token next tokens heq ih =>
    rw [ih, labelFrom, labelFrom.eq_2 offset label, heq]
    split
    · rw [labelFrom, if_pos ‹_›]
    · rfl
  | case2 token next tokens hne ih =>
    rw [labelFrom, labelFrom.eq_2 offset label, ih]
  | case3 => rfl

theorem labelFrom_rebase (start i : Nat) (label : Label) (tokens : List Token) :
    labelFrom i label (tokens.map fun token => { token with start := token.start - start }) =
      labelFrom (start + i) label tokens := by
  induction tokens generalizing label with
  | nil => rfl
  | cons token tokens ih =>
    rw [List.map_cons, labelFrom, labelFrom, ih]
    simp only [Nat.sub_le_iff_le_add']

theorem drop_find (start : Nat) :
    line.rest.drop (line.find start) = line.rest.dropWhile fun token => token.start ≤ start := by
  have hfind : line.find start =
      (line.rest.takeWhile fun token => decide (token.start ≤ start)).length := by
    simp only [find, Int.ofNat_le]
  rw [hfind]
  generalize line.rest = tokens
  induction tokens with
  | nil => rfl
  | cons token tokens ih =>
    by_cases hle : token.start ≤ start
    · rw [List.takeWhile_cons_of_pos (by simpa using hle),
        List.dropWhile_cons_of_pos (by simpa using hle), List.length_cons, List.drop_succ_cons, ih]
    · rw [List.takeWhile_cons_of_neg (by simpa using hle),
        List.dropWhile_cons_of_neg (by simpa using hle)]
      rfl

/-- The tokens of a line behind an offset and before another one. -/
theorem slice_rest (line : TokenizedLine) (start stop : Int) :
    (line.slice start stop).rest =
      (lastOfEach ((line.rest.dropWhile fun token => token.start ≤ line.clampOffset start).takeWhile
        fun token => token.start < max (line.clampOffset start) (line.clampOffset stop))).map
        fun token => { token with start := token.start - line.clampOffset start } := by
  rw [← drop_find]
  rfl

/-- The label in front of a slice. -/
theorem slice_first (line : TokenizedLine) (start stop : Int) :
    (line.slice start stop).first = line.labelOf (line.clampOffset start) :=
  rfl

/-- A slice keeps the labels of its characters. -/
theorem labelOf_slice {start stop : Int} {i : Nat}
    (h : line.clampOffset start + i < max (line.clampOffset start) (line.clampOffset stop)) :
    (line.slice start stop).labelOf i = line.labelOf (line.clampOffset start + i : Nat) := by
  rw [labelOf_eq_labelFrom, slice_first, slice_rest, labelFrom_rebase, labelFrom_lastOfEach,
    labelFrom_takeWhile h, labelOf_eq_labelFrom, labelFrom_dropWhile, labelOf_eq_labelFrom]

/-- The characters of a slice. -/
theorem slice_text (line : TokenizedLine) (start stop : Int) :
    (line.slice start stop).text =
      line.text.slice (line.clampOffset start)
        (max (line.clampOffset start) (line.clampOffset stop)) :=
  rfl

theorem lastOfEach_of_isChain_lt {tokens : List Token} (h : tokens.IsChain (·.start < ·.start)) :
    lastOfEach tokens = tokens := by
  fun_induction lastOfEach tokens with
  | case1 token next tokens heq _ =>
    have := (List.isChain_cons_cons.mp h).1
    omega
  | case2 token next tokens _ ih => rw [ih (List.isChain_cons_cons.mp h).2]
  | case3 => rfl

theorem start_lt_of_mem {token other : Token} {tokens : List Token}
    (h : (token :: tokens).IsChain Token.Precedes) (hmem : other ∈ tokens) :
    token.start < other.start := by
  induction tokens generalizing token with
  | nil => exact absurd hmem List.not_mem_nil
  | cons next tokens ih =>
    obtain ⟨⟨hlt, -⟩, hchain⟩ := List.isChain_cons_cons.mp h
    rcases List.mem_cons.mp hmem with rfl | hmem
    · exact hlt
    · exact Nat.lt_trans hlt (ih hchain hmem)

/-- Behind an offset the tokens go on as before, with the label at the offset in front of them. -/
theorem isChain_dropWhile {start offset : Nat} {label : Label} {tokens : List Token}
    (h : ((⟨label, start⟩ : Token) :: tokens).IsChain Token.Precedes) :
    ((⟨labelFrom offset label tokens, offset⟩ : Token) ::
      tokens.dropWhile fun token => token.start ≤ offset).IsChain Token.Precedes := by
  induction tokens generalizing start label with
  | nil => exact .singleton _
  | cons token tokens ih =>
    obtain ⟨⟨-, hne⟩, hchain⟩ := List.isChain_cons_cons.mp h
    rw [labelFrom]
    by_cases hle : token.start ≤ offset
    · rw [if_pos hle, List.dropWhile_cons_of_pos (by simpa using hle)]
      exact ih hchain
    · rw [if_neg hle, List.dropWhile_cons_of_neg (by simpa using hle)]
      exact .cons_cons ⟨Nat.not_le.mp hle, hne⟩ hchain

theorem isChain_map_rebase {offset : Nat} {label : Label} {tokens : List Token}
    (h : ((⟨label, offset⟩ : Token) :: tokens).IsChain Token.Precedes) :
    ((⟨label, 0⟩ : Token) ::
      tokens.map fun token => { token with start := token.start - offset }).IsChain
      Token.Precedes := by
  have hmap : ((⟨label, 0⟩ : Token) ::
      tokens.map fun token => { token with start := token.start - offset }) =
      ((⟨label, offset⟩ : Token) :: tokens).map fun token =>
        { token with start := token.start - offset } := by
    rw [List.map_cons, Nat.sub_self]
  rw [hmap, List.isChain_map]
  refine h.imp_of_mem_tail_imp fun token next _ hnext hprecedes => ?_
  have := start_lt_of_mem h hnext
  have := hprecedes.1
  exact ⟨by dsimp only at *; omega, hprecedes.2⟩

/-- The tokens of a canonical line between two offsets follow the token at the first one. -/
theorem Canonical.isChain_between (h : line.Canonical) (start stop : Nat) :
    ((⟨line.labelOf start, start⟩ : Token) ::
      (line.rest.dropWhile fun token => token.start ≤ start).takeWhile
        fun token => token.start < stop).IsChain Token.Precedes := by
  rw [labelOf_eq_labelFrom]
  have hbehind := @isChain_dropWhile 0 start line.first line.rest h.isChain
  rw [List.takeWhile_eq_take_findIdx_not, ← List.take_succ_cons]
  exact hbehind.take _

theorem Canonical.slice_rest (h : line.Canonical) (start stop : Int) :
    (line.slice start stop).rest =
      ((line.rest.dropWhile fun token => token.start ≤ line.clampOffset start).takeWhile
        fun token => token.start < max (line.clampOffset start) (line.clampOffset stop)).map
        fun token => { token with start := token.start - line.clampOffset start } := by
  have hchain := (h.isChain_between (line.clampOffset start)
    (max (line.clampOffset start) (line.clampOffset stop))).of_cons
  rw [TokenizedLine.slice_rest, lastOfEach_of_isChain_lt (hchain.imp fun _ _ => And.left)]

/-- A slice of a canonical line is canonical. -/
theorem Canonical.slice (h : line.Canonical) (start stop : Int) :
    (line.slice start stop).Canonical := by
  have hchain := h.isChain_between (line.clampOffset start)
    (max (line.clampOffset start) (line.clampOffset stop))
  have hstart := line.clampOffset_le start
  have hstop := line.clampOffset_le stop
  have hlength := @Text.length_slice line.text (line.clampOffset start)
    (max (line.clampOffset start) (line.clampOffset stop))
  have hbetween (token : Token) (hmem : token ∈ (line.rest.dropWhile fun token =>
      token.start ≤ line.clampOffset start).takeWhile fun token =>
        token.start < max (line.clampOffset start) (line.clampOffset stop)) :
      line.clampOffset start < token.start ∧
        token.start < max (line.clampOffset start) (line.clampOffset stop) :=
    ⟨start_lt_of_mem hchain hmem, by simpa using List.mem_takeWhile_imp hmem⟩
  -- the tokens of the slice are those between its offsets, counted from its start
  refine ⟨?_, fun htext token hmem => ?_, fun htext => ?_⟩
  · rw [tokens, h.slice_rest]
    exact isChain_map_rebase hchain
  · rw [slice_text, hlength]
    rw [tokens, h.slice_rest] at hmem
    rcases List.mem_cons.mp hmem with rfl | hmem
    · rw [slice_text, ← List.length_pos_iff, hlength] at htext
      exact htext
    · obtain ⟨token, hinside, rfl⟩ := List.mem_map.mp hmem
      have := hbetween token hinside
      dsimp only
      omega
  · rw [h.slice_rest, List.map_eq_nil_iff, List.eq_nil_iff_forall_not_mem]
    intro token hmem
    have := hbetween token hmem
    rw [slice_text, ← List.length_eq_zero_iff, hlength] at htext
    omega

/-! ### Scopes -/

theorem find_lt_count (line : TokenizedLine) (offset : Int) : line.find offset < line.count :=
  Nat.lt_succ_of_le (List.takeWhile_sublist _).length_le

theorem getElem?_tokens_find (line : TokenizedLine) (offset : Int) :
    line.tokens[line.find offset]?.map (·.language) = some (line.labelOf offset).language := by
  have hlt : line.find offset < line.tokens.length := line.find_lt_count offset
  rw [labelOf, labelAt, List.getElem?_eq_getElem hlt]
  rfl

theorem startAt_of_count_le {index : Nat} (h : line.count ≤ index) :
    line.startAt index = line.text.length := by
  rw [startAt, List.getElem?_eq_none h]
  rfl

theorem startAt_eq_start {index : Nat} (h : index < line.tokens.length) :
    line.startAt index = line.tokens[index].start := by
  rw [startAt, List.getElem?_eq_getElem h]
  rfl

theorem labelAt_eq_toLabel {index : Nat} (h : index < line.tokens.length) :
    line.labelAt index = line.tokens[index].toLabel := by
  rw [labelAt, List.getElem?_eq_getElem h]
  rfl

theorem Ascending.startAt_le (h : line.Ascending) {j k : Nat} (hjk : j ≤ k) (hk : k < line.count) :
    line.startAt j ≤ line.startAt k := by
  have hsorted : (line.tokens.map (·.start)).Pairwise (· ≤ ·) := by
    rw [← List.isChain_iff_pairwise, List.isChain_map]
    exact h
  have hk' : k < line.tokens.length := hk
  rcases Nat.eq_or_lt_of_le hjk with rfl | hlt
  · exact Nat.le_refl _
  · rw [startAt_eq_start (hlt.trans hk'), startAt_eq_start hk']
    have hle := List.pairwise_iff_getElem.mp hsorted j k (by simp; omega) (by simpa using hk') hlt
    simpa using hle

theorem Canonical.startAt_lt (h : line.Canonical) {j k : Nat} (hjk : j < k) (hk : k < line.count) :
    line.startAt j < line.startAt k := by
  have hsorted : (line.tokens.map (·.start)).Pairwise (· < ·) := by
    rw [← List.isChain_iff_pairwise, List.isChain_map]
    exact h.starts_lt
  have hk' : k < line.tokens.length := hk
  rw [startAt_eq_start (hjk.trans hk'), startAt_eq_start hk']
  have hlt := List.pairwise_iff_getElem.mp hsorted j k (by simp; omega) (by simpa using hk') hjk
  simpa using hlt

/-- The token found at an offset is the last one that starts at or before it. -/
theorem Ascending.le_find_iff (h : line.Ascending) {j i : Nat} (hj : j < line.count) :
    j ≤ line.find i ↔ line.startAt j ≤ i := by
  cases j with
  | zero => exact iff_of_true (Nat.zero_le _) (Nat.zero_le _)
  | succ j =>
    have hj' : j < line.rest.length := Nat.lt_of_succ_lt_succ hj
    have hstart : line.startAt (j + 1) = line.rest[j].start := startAt_eq_start hj
    rw [hstart]
    constructor
    · intro hle
      simpa using of_lt_length_takeWhile (List.getElem?_eq_getElem hj') hle
    · intro hle
      by_contra hlt
      -- the first token that starts behind the offset comes before this one
      have hfind : line.find i < line.rest.length := by omega
      have hbehind := of_length_takeWhile (List.getElem?_eq_getElem hfind)
      have hsorted := h.startAt_le (j := line.find i + 1) (k := j + 1) (by omega) hj
      rw [hstart, startAt_eq_start (Nat.succ_lt_succ hfind)] at hsorted
      have : ¬ ((line.rest[line.find i].start : Int) ≤ i) := by simpa using hbehind
      change line.rest[line.find i].start ≤ line.rest[j].start at hsorted
      omega

/-- The same for an offset in the line, and also for the end of the line. -/
theorem Ascending.le_find_iff_of_lt (h : line.Ascending) {j i : Nat} (hi : i < line.text.length)
    (hj : j ≤ line.count) : j ≤ line.find i ↔ line.startAt j ≤ i := by
  rcases Nat.eq_or_lt_of_le hj with rfl | hlt
  · rw [startAt_of_count_le (Nat.le_refl _)]
    exact iff_of_false (Nat.not_le.mpr (line.find_lt_count i)) (Nat.not_le.mpr hi)
  · exact h.le_find_iff hlt

theorem startAt_le_length (hinside : ∀ token ∈ line.tokens, token.start ≤ line.text.length)
    (index : Nat) : line.startAt index ≤ line.text.length := by
  rcases Nat.lt_or_ge index line.count with hlt | hge
  · have hlt' : index < line.tokens.length := hlt
    rw [startAt_eq_start hlt']
    exact hinside _ (List.getElem_mem hlt')
  · rw [startAt_of_count_le hge]

theorem Canonical.startAt_le_length (h : line.Canonical) (htext : line.text ≠ []) (j : Nat) :
    line.startAt j ≤ line.text.length :=
  TokenizedLine.startAt_le_length (fun token hmem => (h.start_lt_length htext token hmem).le) j

/-- A token of a canonical line is found where it starts. -/
theorem Canonical.find_startAt (h : line.Canonical) {index : Nat} (hindex : index < line.count) :
    line.find (line.startAt index) = index := by
  refine Nat.le_antisymm ?_ ((h.ascending.le_find_iff hindex).mpr (Nat.le_refl _))
  by_contra hgt
  have hnext : index + 1 < line.count := by
    have := line.find_lt_count (line.startAt index)
    omega
  have := (h.ascending.le_find_iff (i := line.startAt index) hnext).mp (by omega)
  have := h.startAt_lt (Nat.lt_add_one index) hnext
  omega

/-- In front of the start of a token the token before it is found. -/
theorem Canonical.find_startAt_sub_one (h : line.Canonical) {index : Nat}
    (hindex : index + 1 < line.count) :
    line.find (line.startAt (index + 1) - 1 : Nat) = index := by
  have hbefore := h.startAt_lt (Nat.lt_add_one index) hindex
  have hle : index ≤ line.find (line.startAt (index + 1) - 1 : Nat) :=
    (h.ascending.le_find_iff (by omega)).mpr (by omega)
  have hlt : ¬ index + 1 ≤ line.find (line.startAt (index + 1) - 1 : Nat) := fun hge => by
    have := (h.ascending.le_find_iff hindex).mp hge
    omega
  omega

/-- Where a token of a canonical line starts, the characters have its label, and in front of it they
have another one. -/
theorem Canonical.labelOf_start (h : line.Canonical) {token : Token} (hmem : token ∈ line.tokens) :
    line.labelOf token.start = token.toLabel ∧
      (0 < token.start → line.labelOf (token.start - 1 : Nat) ≠ token.toLabel) := by
  obtain ⟨index, hlt, rfl⟩ := List.getElem_of_mem hmem
  rw [← startAt_eq_start hlt, ← labelAt_eq_toLabel hlt]
  refine ⟨by rw [labelOf, h.find_startAt hlt], fun hpos => ?_⟩
  cases index with
  | zero => exact absurd hpos (Nat.lt_irrefl 0)
  | succ index =>
    rw [labelOf, h.find_startAt_sub_one hlt, labelAt_eq_toLabel hlt,
      labelAt_eq_toLabel (Nat.lt_of_succ_lt hlt)]
    exact List.isChain_iff_getElem.mp h.labels_ne index hlt

/-- A maximal run of tokens of one language covers a maximal run of characters. -/
theorem Canonical.isRun_chars (h : line.Canonical) {i first stop : Nat} (hi : i < line.text.length)
    (hrun : IsRun (fun j => line.tokens[j]?.map (·.language)) line.tokens.length (line.find i)
      first stop) :
    IsRun (fun j => (line.labelOf (j : Nat)).language) line.text.length i (line.startAt first)
      (line.startAt stop) := by
  have hascending := h.ascending
  have htext : line.text ≠ [] := List.ne_nil_of_length_pos (by omega)
  have hstop : stop ≤ line.count := hrun.stop_le
  have hfirst : first < line.count := by have := hrun.start_le; have := hrun.lt_stop; omega
  have hlanguage (j : Nat) : (line.labelOf j).language = (line.labelOf i).language ↔
      line.tokens[line.find j]?.map (·.language) = line.tokens[line.find i]?.map (·.language) := by
    rw [getElem?_tokens_find, getElem?_tokens_find, Option.some_inj]
  refine ⟨?_, ?_, h.startAt_le_length htext stop, fun j hstart hlt => ?_, fun hpos => ?_,
    fun hlt => ?_⟩
  · exact (hascending.le_find_iff hfirst).mp hrun.start_le
  · by_contra hge
    have := (hascending.le_find_iff_of_lt hi hstop).mpr (Nat.not_lt.mp hge)
    have := hrun.lt_stop
    omega
  · have hj : j < line.text.length := hlt.trans_le (h.startAt_le_length htext stop)
    refine (hlanguage j).mpr (hrun.same _ ((hascending.le_find_iff hfirst).mpr hstart) ?_)
    by_contra hge
    have := (hascending.le_find_iff_of_lt hj hstop).mp (Nat.not_lt.mp hge)
    omega
  · -- the character before the run belongs to the token before the first one
    cases first with
    | zero => exact absurd hpos (Nat.lt_irrefl 0)
    | succ before =>
      rw [Ne, hlanguage, h.find_startAt_sub_one hfirst]
      exact hrun.left (Nat.succ_pos before)
  · -- the character behind the run belongs to the token behind the last one
    have hcount : stop < line.count := by
      by_contra hge
      rw [startAt_of_count_le (Nat.not_lt.mp hge)] at hlt
      omega
    rw [Ne, hlanguage, h.find_startAt hcount]
    exact hrun.right hcount

/-- The tokens of the scope at an offset are the longest stretch of one language around the token
that is found there. -/
theorem isRun_tokens (line : TokenizedLine) (offset : Int) :
    IsRun (fun j => line.tokens[j]?.map (·.language)) line.tokens.length (line.find offset)
      (line.scopeAt offset).firstToken (line.scopeAt offset).stopToken := by
  have hlt : line.find offset < line.tokens.length := line.find_lt_count offset
  rw [scopeAt, labelAt_eq_toLabel hlt]
  exact isRun_grow (·.language) (List.getElem?_eq_getElem hlt)

/-- The characters of the scope at an offset are the longest stretch of one language around it. -/
theorem Canonical.isRun_scopeAt (h : line.Canonical) {i : Nat} (hi : i < line.text.length) :
    IsRun (fun j => (line.labelOf (j : Nat)).language) line.text.length i
      (line.scopeAt i).firstChar (line.scopeAt i).stopChar :=
  h.isRun_chars hi (line.isRun_tokens i)

end TokenizedLine

end Indentation
