import Indentation.Proofs.Slices

/-!
# Scopes divide a line

The scope at an offset is a maximal run of tokens of one language. Two such runs are the same one or
have no token in common, and the spans of characters follow the tokens: so every offset of a line
lies in exactly one scope, and each offset in the span of a scope has this scope. Tokens without
characters may stand between the scopes, and there may be scopes without characters.

An offset moved into the line lies in the scope that is found there, or at its end. So a scope is
cut there into a part before the offset and a part behind it.

## Main definitions

* `TokenizedLine.Resolves` — a scope is the maximal run of tokens around an offset
* `TokenizedLine.WellPlaced` — tokens in ascending order that do not start past the end

## Main results

* `IsRun.eq_or_disjoint` — two maximal intervals are equal or disjoint
* `TokenizedLine.scopeAt_eq_or_disjoint` — so are two scopes
* `TokenizedLine.scopes_divide` — scopes are maximal and divide the line
* `TokenizedLine.WellPlaced.sliceLine_before`, `TokenizedLine.WellPlaced.sliceLine_after` — the
  parts of a scope before and behind an offset
-/

namespace Indentation

namespace IsRun

variable {β : Type} {f : Nat → β} {length index start stop other start' stop' : Nat}

/-- A maximal interval is the one around each of its indices. -/
theorem recenter (h : IsRun f length index start stop) (hstart : start ≤ other)
    (hstop : other < stop) : IsRun f length other start stop := by
  have hsame := h.same other hstart hstop
  refine ⟨hstart, hstop, h.stop_le, fun i hi hi' => ?_, fun hpos => ?_, fun hlt => ?_⟩
  · exact (h.same i hi hi').trans hsame.symm
  · rw [hsame]
    exact h.left hpos
  · rw [hsame]
    exact h.right hlt

/-- Two maximal intervals are equal, or one of them ends before the other one starts. -/
theorem eq_or_disjoint (h : IsRun f length index start stop)
    (h' : IsRun f length other start' stop') :
    (start = start' ∧ stop = stop') ∨ stop ≤ start' ∨ stop' ≤ start := by
  have hlt := h.start_le.trans_lt h.lt_stop
  have hlt' := h'.start_le.trans_lt h'.lt_stop
  by_cases hmeet : start < stop' ∧ start' < stop
  · -- the larger one of the two starts lies in both intervals
    left
    have hrun := @recenter β f length index start stop (max start start') h (by omega) (by omega)
    have hrun' := @recenter β f length other start' stop' (max start start') h' (by omega)
      (by omega)
    exact hrun.unique hrun'
  · right
    omega

end IsRun

theorem Scope.firstChar_add_length (scope : Scope) :
    (scope.firstChar : Int) + scope.length = scope.stopChar := by
  rw [length]
  omega

namespace TokenizedLine

/-- `scope` is the scope at an offset: the longest run of tokens of one language around the token
that is found there, with the characters from the start of its first token to the end of its last
one. These lie in the line, they hold the offset if the line does, and at each of them the same
scope is found. -/
structure Resolves (line : TokenizedLine) (offset : Int) (scope : Scope) : Prop where
  line_eq : scope.line = line
  language_eq : scope.language = (line.labelAt (line.find offset)).language
  isRun : IsRun (fun index => (line.labelAt index).language) line.count (line.find offset)
    scope.firstToken scope.stopToken
  firstChar_eq : scope.firstChar = line.startAt scope.firstToken
  stopChar_eq : line.stop? (scope.stopToken - 1 : Int) = some scope.stopChar
  firstChar_le : scope.firstChar ≤ scope.stopChar
  stopChar_le : scope.stopChar ≤ line.text.length
  mem : 0 ≤ offset → offset < line.text.length →
    scope.firstChar ≤ offset ∧ offset < scope.stopChar
  same : ∀ other : Int, scope.firstChar ≤ other → other < scope.stopChar →
    line.scopeAt other = scope

variable {line : TokenizedLine}

/-! ### Tokens of a scope -/

/-- The tokens of a scope, by their labels. -/
theorem isRun_labelAt (line : TokenizedLine) (offset : Int) :
    IsRun (fun index => (line.labelAt index).language) line.count (line.find offset)
      (line.scopeAt offset).firstToken (line.scopeAt offset).stopToken := by
  have hlanguage (index : Nat) (h : index < line.tokens.length) :
      line.tokens[index]?.map (·.language) = some (line.labelAt index).language := by
    rw [labelAt_eq_toLabel h, List.getElem?_eq_getElem h]
    rfl
  refine (line.isRun_tokens offset).congr fun index hindex => ?_
  rw [hlanguage index hindex, hlanguage _ (line.find_lt_count offset), Option.some_inj]

/-- Scopes with the same tokens are the same. -/
theorem scopeAt_eq_of_tokens {offset other : Int}
    (hfirst : (line.scopeAt other).firstToken = (line.scopeAt offset).firstToken)
    (hstop : (line.scopeAt other).stopToken = (line.scopeAt offset).stopToken) :
    line.scopeAt other = line.scopeAt offset := by
  have hrun := line.isRun_labelAt offset
  -- the language is that of any of the tokens
  have hlanguage : (line.labelAt (line.find other)).language =
      (line.labelAt (line.find offset)).language := by
    have hrun' := line.isRun_labelAt other
    rw [hfirst, hstop] at hrun'
    exact hrun.same _ hrun'.start_le hrun'.lt_stop
  have hchars : line.startAt (line.scopeAt other).firstToken =
      line.startAt (line.scopeAt offset).firstToken ∧
      line.startAt (line.scopeAt other).stopToken =
        line.startAt (line.scopeAt offset).stopToken := by
    rw [hfirst, hstop]
    exact ⟨rfl, rfl⟩
  exact (Scope.mk.injEq ..).mpr ⟨rfl, hlanguage, hfirst, hstop, hchars.1, hchars.2⟩

/-- Where a token of the scope is found, the same scope is found. -/
theorem scopeAt_eq_of_find_mem {offset other : Int}
    (hfirst : (line.scopeAt offset).firstToken ≤ line.find other)
    (hstop : line.find other < (line.scopeAt offset).stopToken) :
    line.scopeAt other = line.scopeAt offset := by
  obtain ⟨hstart, hend⟩ := (line.isRun_labelAt other).unique
    ((line.isRun_labelAt offset).recenter hfirst hstop)
  exact scopeAt_eq_of_tokens hstart hend

/-! ### Characters of a scope -/

theorem Ascending.startAt_le_of_inside (h : line.Ascending)
    (hinside : ∀ token ∈ line.tokens, token.start ≤ line.text.length) {j k : Nat} (hjk : j ≤ k) :
    line.startAt j ≤ line.startAt k := by
  rcases Nat.lt_or_ge k line.count with hlt | hge
  · exact h.startAt_le hjk hlt
  · rw [startAt_of_count_le hge]
    exact startAt_le_length hinside j

/-- A token ends where the next one starts, and the last one at the end of the text. -/
theorem stop?_natCast (line : TokenizedLine) (index : Nat) :
    line.stop? index = some (line.startAt (index + 1)) := by
  rw [stop?]
  split
  · rename_i hlt
    have hlt' : index + 1 < line.tokens.length := by
      change index + 1 < line.count
      omega
    rw [token?, if_pos (by omega), Int.toNat_natCast_add_one, List.getElem?_eq_getElem hlt',
      startAt_eq_start hlt']
    rfl
  · rw [startAt_of_count_le (by omega)]

/-- The token found at an offset of the line is in a run of tokens exactly if the offset is between
their characters. -/
theorem Ascending.find_mem_iff (h : line.Ascending) {i first stop : Nat}
    (hi : i < line.text.length) (hfirst : first < line.count) (hstop : stop ≤ line.count) :
    (first ≤ line.find i ∧ line.find i < stop) ↔ (line.startAt first ≤ i ∧ i < line.startAt stop) := by
  rw [h.le_find_iff hfirst, ← Nat.not_le, h.le_find_iff_of_lt hi hstop, Nat.not_le]

/-- An offset of the line is in the span of a scope exactly if the scope is found there. -/
theorem Ascending.mem_chars_iff (h : line.Ascending) (offset : Int) {i : Nat}
    (hi : i < line.text.length) :
    ((line.scopeAt offset).firstChar ≤ i ∧ i < (line.scopeAt offset).stopChar) ↔
      line.scopeAt i = line.scopeAt offset := by
  have hrun := line.isRun_labelAt offset
  have hfirst := (hrun.start_le.trans_lt hrun.lt_stop).trans_le hrun.stop_le
  have hiff := h.find_mem_iff hi hfirst hrun.stop_le
  constructor
  · intro hchars
    obtain ⟨hstart, hstop⟩ := hiff.mpr hchars
    exact scopeAt_eq_of_find_mem hstart hstop
  · intro hscope
    have hrun' := line.isRun_labelAt i
    rw [hscope] at hrun'
    exact hiff.mp ⟨hrun'.start_le, hrun'.lt_stop⟩

section Inside

variable (h : line.Ascending) (hinside : ∀ token ∈ line.tokens, token.start ≤ line.text.length)

include h hinside

theorem firstChar_le_stopChar (offset : Int) :
    (line.scopeAt offset).firstChar ≤ (line.scopeAt offset).stopChar := by
  have hrun := line.isRun_labelAt offset
  exact h.startAt_le_of_inside hinside (hrun.start_le.trans hrun.lt_stop.le)

/-- Two scopes are the same one, or one of them ends before the other one starts. -/
theorem scopeAt_eq_or_disjoint (offset other : Int) :
    line.scopeAt offset = line.scopeAt other ∨
      (line.scopeAt offset).stopChar ≤ (line.scopeAt other).firstChar ∨
      (line.scopeAt other).stopChar ≤ (line.scopeAt offset).firstChar := by
  rcases (line.isRun_labelAt offset).eq_or_disjoint (line.isRun_labelAt other) with
    ⟨hfirst, hstop⟩ | hbefore | hbehind
  · exact .inl (scopeAt_eq_of_tokens hfirst hstop)
  · exact .inr (.inl (h.startAt_le_of_inside hinside hbefore))
  · exact .inr (.inr (h.startAt_le_of_inside hinside hbehind))

/-- What is found at an offset is the scope there. -/
theorem resolves_scopeAt (offset : Int) : line.Resolves offset (line.scopeAt offset) := by
  have hrun := line.isRun_labelAt offset
  have hstop : (line.scopeAt offset).stopChar ≤ line.text.length := startAt_le_length hinside _
  refine ⟨rfl, rfl, hrun, rfl, ?_, firstChar_le_stopChar h hinside offset, hstop, ?_, ?_⟩
  · -- the last token is the one before the end of the run
    obtain ⟨last, hlast⟩ : ∃ last, (line.scopeAt offset).stopToken = last + 1 :=
      ⟨(line.scopeAt offset).stopToken - 1, by have := hrun.lt_stop; omega⟩
    have hindex : ((line.scopeAt offset).stopToken - 1 : Int) = (last : Int) := by omega
    rw [hindex, stop?_natCast, ← hlast]
    rfl
  · intro hpos hlt
    obtain ⟨i, rfl⟩ := Int.eq_ofNat_of_zero_le hpos
    obtain ⟨hfirst, hlast⟩ := (h.mem_chars_iff i (Int.ofNat_lt.mp hlt)).mpr rfl
    exact ⟨Int.ofNat_le.mpr hfirst, Int.ofNat_lt.mpr hlast⟩
  · intro other hfirst hlast
    obtain ⟨i, rfl⟩ := Int.eq_ofNat_of_zero_le (show 0 ≤ other by omega)
    exact (h.mem_chars_iff offset (by omega)).mp ⟨by omega, by omega⟩

end Inside

/-- If the tokens of a line start in ascending order and not past its end, the scope at each offset
is the maximal run of tokens of one language around it, and the scopes divide the line: two of them
are the same one, or one of them ends before the other one starts. -/
theorem scopes_divide (line : TokenizedLine) (h : line.Ascending)
    (hinside : ∀ token ∈ line.tokens, token.start ≤ line.text.length) :
    (∀ offset, line.Resolves offset (line.scopeAt offset)) ∧
      ∀ offset other, line.scopeAt offset = line.scopeAt other ∨
        (line.scopeAt offset).stopChar ≤ (line.scopeAt other).firstChar ∨
        (line.scopeAt other).stopChar ≤ (line.scopeAt offset).firstChar :=
  ⟨resolves_scopeAt h hinside, scopeAt_eq_or_disjoint h hinside⟩

/-- A scope without characters stands between two others, and there is one more at the end of the
line. -/
theorem scopes_divide_empty_scopes :
    Ascending ⟨"<i>f".toList, ⟨.other, "html"⟩,
      [⟨⟨.other, "css"⟩, 3⟩, ⟨⟨.other, "js"⟩, 3⟩, ⟨⟨.string, "html"⟩, 4⟩]⟩ ∧
    (∀ token ∈ tokens ⟨"<i>f".toList, ⟨.other, "html"⟩,
      [⟨⟨.other, "css"⟩, 3⟩, ⟨⟨.other, "js"⟩, 3⟩, ⟨⟨.string, "html"⟩, 4⟩]⟩,
      token.start ≤ "<i>f".toList.length) ∧
    Resolves ⟨"<i>f".toList, ⟨.other, "html"⟩,
      [⟨⟨.other, "css"⟩, 3⟩, ⟨⟨.other, "js"⟩, 3⟩, ⟨⟨.string, "html"⟩, 4⟩]⟩ 3
      ⟨⟨"<i>f".toList, ⟨.other, "html"⟩,
        [⟨⟨.other, "css"⟩, 3⟩, ⟨⟨.other, "js"⟩, 3⟩, ⟨⟨.string, "html"⟩, 4⟩]⟩, "js", 2, 3, 3, 4⟩ := by
  have h : Ascending ⟨"<i>f".toList, ⟨.other, "html"⟩,
      [⟨⟨.other, "css"⟩, 3⟩, ⟨⟨.other, "js"⟩, 3⟩, ⟨⟨.string, "html"⟩, 4⟩]⟩ := by
    simp [Ascending, tokens]
  have hinside : ∀ token ∈ tokens ⟨"<i>f".toList, ⟨.other, "html"⟩,
      [⟨⟨.other, "css"⟩, 3⟩, ⟨⟨.other, "js"⟩, 3⟩, ⟨⟨.string, "html"⟩, 4⟩]⟩,
      token.start ≤ "<i>f".toList.length := by
    simp [tokens]
  exact ⟨h, hinside, (scopes_divide _ h hinside).1 3⟩

/-! ### Parts of a scope -/

/-- The tokens start in ascending order and not past the end of the text. -/
structure WellPlaced (line : TokenizedLine) : Prop where
  ascending : line.Ascending
  start_le : ∀ token ∈ line.tokens, token.start ≤ line.text.length

theorem Canonical.wellPlaced (h : line.Canonical) : line.WellPlaced := by
  refine ⟨h.ascending, fun token hmem => ?_⟩
  by_cases htext : line.text = []
  · -- the only token of an empty line starts at its front
    rw [tokens, h.rest_eq_nil htext, List.mem_singleton] at hmem
    rw [hmem]
    exact Nat.zero_le _
  · exact (h.start_lt_length htext token hmem).le

theorem find_of_neg {offset : Int} (h : offset < 0) : line.find offset = 0 := by
  rw [find, List.length_eq_zero_iff, List.takeWhile_eq_nil_iff]
  intro _
  simp only [decide_eq_true_eq]
  omega

theorem sliceLine_eq_slice (scope : Scope) {start stop : Int} (hstart : 0 ≤ start)
    (hle : start ≤ stop) (hstop : stop ≤ scope.length) :
    scope.sliceLine line start (some stop) =
      line.slice (scope.firstChar + start) (scope.firstChar + stop) := by
  have hmin : min (max start 0) scope.length = start := by omega
  have hmax : min (max stop start) scope.length = stop := by omega
  simp only [Scope.sliceLine, Option.getD_some, hmin, hmax]

namespace WellPlaced

theorem resolves (h : line.WellPlaced) (offset : Int) :
    line.Resolves offset (line.scopeAt offset) :=
  resolves_scopeAt h.ascending h.start_le offset

/-- In front of the line the scope of the first token is found. -/
theorem firstChar_of_neg (h : line.WellPlaced) {offset : Int} (hneg : offset < 0) :
    (line.scopeAt offset).firstChar = 0 := by
  have hstart := (h.resolves offset).isRun.start_le
  rw [find_of_neg hneg, Nat.le_zero] at hstart
  rw [(h.resolves offset).firstChar_eq, hstart]
  rfl

/-- Behind the line the scope of the last token is found. -/
theorem stopChar_of_length_le (h : line.WellPlaced) {offset : Int}
    (hlength : line.text.length ≤ offset) :
    (line.scopeAt offset).stopChar = line.text.length := by
  obtain ⟨i, rfl⟩ := Int.eq_ofNat_of_zero_le (show 0 ≤ offset by omega)
  have hlast : line.count - 1 ≤ line.find i := by
    rw [h.ascending.le_find_iff (Nat.sub_one_lt (Nat.succ_ne_zero _))]
    exact (startAt_le_length h.start_le _).trans (Int.ofNat_le.mp hlength)
  have hlt := (line.isRun_labelAt i).lt_stop
  exact startAt_of_count_le (by omega)

/-- An offset moved into the line lies in the scope that is found there, or at its end. -/
theorem clampOffset_mem (h : line.WellPlaced) (offset : Int) :
    (line.scopeAt offset).firstChar ≤ line.clampOffset offset ∧
      line.clampOffset offset ≤ (line.scopeAt offset).stopChar := by
  have hresolves := h.resolves offset
  rw [clampOffset]
  by_cases hneg : offset < 0
  · have hfirst := h.firstChar_of_neg hneg
    omega
  · by_cases hlt : offset < line.text.length
    · have hmem := hresolves.mem (Int.not_lt.mp hneg) hlt
      omega
    · have hstop := h.stopChar_of_length_le (Int.not_lt.mp hlt)
      have hle := hresolves.firstChar_le
      omega

/-- Counted from the start of its line, the offset within a scope is the offset moved into the
line. -/
theorem firstChar_add_offsetWithin (h : line.WellPlaced) (offset : Int) :
    (line.scopeAt offset).firstChar + (line.scopeAt offset).offsetWithin offset =
      line.clampOffset offset := by
  have hmem := h.clampOffset_mem offset
  have hstop := (h.resolves offset).stopChar_le
  rw [clampOffset] at hmem ⊢
  rw [Scope.offsetWithin, Scope.length]
  omega

/-- The part of a scope before an offset. -/
theorem sliceLine_before (h : line.WellPlaced) (offset : Int) :
    (line.scopeAt offset).sliceLine line 0 (some ((line.scopeAt offset).offsetWithin offset)) =
      line.slice (line.scopeAt offset).firstChar (line.clampOffset offset) := by
  have hwithin := h.firstChar_add_offsetWithin offset
  have hmem := h.clampOffset_mem offset
  rw [sliceLine_eq_slice _ (Int.le_refl 0) (by omega) (by rw [Scope.length]; omega), hwithin,
    Int.add_zero]

/-- The part of a scope behind an offset. -/
theorem sliceLine_after (h : line.WellPlaced) (offset : Int) :
    (line.scopeAt offset).sliceLine line ((line.scopeAt offset).offsetWithin offset) =
      line.slice (line.clampOffset offset) (line.scopeAt offset).stopChar := by
  have hwithin := h.firstChar_add_offsetWithin offset
  have hmem := h.clampOffset_mem offset
  have hlength := (line.scopeAt offset).firstChar_add_length
  change (line.scopeAt offset).sliceLine line _ (some (line.scopeAt offset).length) = _
  rw [sliceLine_eq_slice _ (by omega) (by omega) (Int.le_refl _), hwithin, hlength]

/-- All of a scope. -/
theorem sliceLine_scopeAt (h : line.WellPlaced) (offset : Int) :
    (line.scopeAt offset).sliceLine line =
      line.slice (line.scopeAt offset).firstChar (line.scopeAt offset).stopChar := by
  have hle := (h.resolves offset).firstChar_le
  have hlength := (line.scopeAt offset).firstChar_add_length
  change (line.scopeAt offset).sliceLine line 0 (some (line.scopeAt offset).length) = _
  rw [sliceLine_eq_slice _ (Int.le_refl 0) (by omega) (Int.le_refl _), hlength, Int.add_zero]

end WellPlaced

end TokenizedLine

end Indentation
