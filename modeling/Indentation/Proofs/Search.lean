import Indentation.Lexer.Scan

/-!
# Where spellings stand

A search finds the least offset at which a needle is a prefix of what is left of the text.
Everything the lexer looks ahead for is said through this: what a search finds survives cutting off
the text before it or behind it, and a character that is no part of the needle can be put into the
text without hiding or making an occurrence.

## Main results

* `Text.find?_eq_some_iff`, `Text.find?_eq_none_iff` — what a search finds
* `Text.find?_drop` — a search that starts later, but not behind the first occurrence
* `Text.find?_take` — a search in the front of a text
* `Text.prefix_insertIdx_iff` — a prefix of a text with one more character
* `Text.find?_insertIdx_of_le`, `Text.find?_insertIdx_of_add_le` — a search in such a text
-/

namespace Indentation.Text

variable {needle text spelling : Text} {j k : Nat}

theorem beginsWith_iff : text.beginsWith spelling = true ↔ spelling ≠ [] ∧ spelling <+: text := by
  simp [beginsWith]

/-- A search finds the least offset where the needle stands. -/
theorem find?_eq_some_iff :
    find? needle text = some k ↔
      k ≤ text.length ∧ needle <+: text.drop k ∧ ∀ j < k, ¬ needle <+: text.drop j := by
  induction text generalizing k with
  | nil =>
    by_cases hneedle : needle = []
    · subst hneedle
      cases k <;> simp [find?]
    · cases k <;> simp [find?, hneedle]
  | cons c cs ih =>
    -- the needle stands at the front, or the search goes on behind the first character
    rw [find?]
    by_cases hfront : needle <+: c :: cs
    · rw [if_pos (List.isPrefixOf_iff_prefix.mpr hfront)]
      constructor
      · intro h
        obtain rfl := Option.some.inj h
        exact ⟨Nat.zero_le _, hfront, fun j hj => absurd hj (Nat.not_lt_zero j)⟩
      · rintro ⟨-, -, hleast⟩
        cases k with
        | zero => rfl
        | succ k => exact absurd hfront (hleast 0 (Nat.succ_pos k))
    · rw [if_neg (by rwa [List.isPrefixOf_iff_prefix]), Option.map_eq_some_iff]
      constructor
      · rintro ⟨k, hfind, rfl⟩
        obtain ⟨hle, hat, hleast⟩ := ih.mp hfind
        refine ⟨Nat.succ_le_succ hle, hat, fun j hj => ?_⟩
        cases j with
        | zero => exact hfront
        | succ j => exact hleast j (Nat.lt_of_succ_lt_succ hj)
      · rintro ⟨hle, hat, hleast⟩
        cases k with
        | zero => exact absurd hat hfront
        | succ k =>
          refine ⟨k, ih.mpr ⟨Nat.le_of_succ_le_succ hle, hat, fun j hj => ?_⟩, rfl⟩
          exact hleast (j + 1) (Nat.succ_lt_succ hj)

/-- A search fails if the needle stands nowhere. -/
theorem find?_eq_none_iff : find? needle text = none ↔ ∀ k, ¬ needle <+: text.drop k := by
  induction text with
  | nil => by_cases hneedle : needle = [] <;> simp [find?, hneedle]
  | cons c cs ih =>
    rw [find?]
    by_cases hfront : needle <+: c :: cs
    · rw [if_pos (List.isPrefixOf_iff_prefix.mpr hfront)]
      exact iff_of_false (by simp) fun hnowhere => hnowhere 0 hfront
    · rw [if_neg (by rwa [List.isPrefixOf_iff_prefix]), Option.map_eq_none_iff, ih]
      constructor
      · intro hnowhere k
        cases k with
        | zero => exact hfront
        | succ k => exact hnowhere k
      · intro hnowhere k
        exact hnowhere (k + 1)

theorem prefix_drop_of_find? (h : find? needle text = some k) : needle <+: text.drop k :=
  (find?_eq_some_iff.mp h).2.1

theorem add_length_le_of_find? (h : find? needle text = some k) :
    k + needle.length ≤ text.length := by
  obtain ⟨hle, hat, -⟩ := find?_eq_some_iff.mp h
  have hlen := hat.length_le
  rw [List.length_drop] at hlen
  omega

@[simp] theorem find?_nil_left : find? [] text = some 0 := by
  cases text <;> simp [find?]

/-- A search that starts later finds the same occurrence, unless it starts behind it. -/
theorem find?_drop (h : find? needle text = some k) (hj : j ≤ k) :
    find? needle (text.drop j) = some (k - j) := by
  obtain ⟨hle, hat, hleast⟩ := find?_eq_some_iff.mp h
  refine find?_eq_some_iff.mpr ⟨?_, ?_, fun i hi => ?_⟩
  · rw [List.length_drop]
    omega
  · rwa [List.drop_drop, Nat.add_sub_cancel' hj]
  · rw [List.drop_drop]
    exact hleast (j + i) (by omega)

theorem find?_drop_of_none (h : find? needle text = none) : find? needle (text.drop j) = none := by
  rw [find?_eq_none_iff] at h ⊢
  intro k
  rw [List.drop_drop]
  exact h (j + k)

@[simp] theorem closeOffset?_nil_left : closeOffset? [] text = none := by
  simp [closeOffset?]

theorem closeOffset?_of_ne_nil (h : spelling ≠ []) :
    closeOffset? spelling text = find? spelling text := by
  simp [closeOffset?, h]

theorem add_length_le_of_closeOffset? (h : closeOffset? spelling text = some k) :
    k + spelling.length ≤ text.length := by
  unfold closeOffset? at h
  split at h
  · exact absurd h (by simp)
  · exact add_length_le_of_find? h

theorem closeOffset?_drop (h : closeOffset? spelling text = some k) (hj : j ≤ k) :
    closeOffset? spelling (text.drop j) = some (k - j) := by
  by_cases hnil : spelling = []
  · simp [hnil] at h
  · rw [closeOffset?_of_ne_nil hnil] at h ⊢
    exact find?_drop h hj

theorem closeOffset?_drop_of_none (h : closeOffset? spelling text = none) :
    closeOffset? spelling (text.drop j) = none := by
  by_cases hnil : spelling = []
  · simp [hnil]
  · rw [closeOffset?_of_ne_nil hnil] at h ⊢
    exact find?_drop_of_none h

theorem beginsWith_drop_of_closeOffset? (h : closeOffset? spelling text = some k) :
    beginsWith (text.drop k) spelling = true := by
  by_cases hnil : spelling = []
  · simp [hnil] at h
  · rw [closeOffset?_of_ne_nil hnil] at h
    exact beginsWith_iff.mpr ⟨hnil, prefix_drop_of_find? h⟩

/-- Two spellings stand apart if the first character of the later one is not in the other one. -/
theorem add_length_le_of_not_mem {first later : Text} {c : Char} (hlater : later.head? = some c)
    (hc : c ∉ first) (hj : first <+: text.drop j) (hk : later <+: text.drop k) (hjk : j ≤ k) :
    j + first.length ≤ k := by
  -- otherwise the later spelling starts at a character of the first one
  refine Decidable.byContradiction fun hlt => ?_
  have hat : text[k]? = some c := by
    obtain ⟨tail, htail⟩ := hk
    have hhead : (text.drop k).head? = some c := by
      rw [← htail, List.head?_append, hlater]
      rfl
    rwa [List.head?_drop] at hhead
  have hinside : first[k - j]? = some c := by
    obtain ⟨tail, htail⟩ := hj
    have hindex : (text.drop j)[k - j]? = some c := by
      rwa [List.getElem?_drop, Nat.add_sub_cancel' hjk]
    rwa [← htail, List.getElem?_append_left (by omega)] at hindex
  exact hc (List.mem_of_getElem? hinside)

/-! ### The front of a text -/

section Front

variable {n : Nat}

theorem beginsWith_take :
    beginsWith (text.take n) spelling = true ↔
      text.beginsWith spelling = true ∧ spelling.length ≤ n := by
  rw [beginsWith_iff, beginsWith_iff, List.prefix_take_iff, and_assoc]

/-- The front of a text holds the first occurrence exactly if this ends there. -/
theorem find?_take :
    find? needle (text.take n) = (find? needle text).filter (· + needle.length ≤ n) := by
  have hstands (j : Nat) : needle <+: (text.take n).drop j ↔
      needle <+: text.drop j ∧ (needle = [] ∨ j + needle.length ≤ n) := by
    rw [List.drop_take, List.prefix_take_iff, ← List.length_eq_zero_iff]
    exact and_congr_right fun _ => by omega
  cases hfind : find? needle text with
  | none =>
    rw [Option.filter_none, find?_eq_none_iff]
    rw [find?_eq_none_iff] at hfind
    intro j hj
    exact hfind j ((hstands j).mp hj).1
  | some k =>
    obtain ⟨hle, hat, hleast⟩ := find?_eq_some_iff.mp hfind
    by_cases hend : k + needle.length ≤ n
    · rw [Option.filter_some_pos (by simpa using hend)]
      refine find?_eq_some_iff.mpr ⟨?_, (hstands k).mpr ⟨hat, .inr hend⟩, fun j hj h => ?_⟩
      · rw [List.length_take]
        omega
      · exact hleast j hj ((hstands j).mp h).1
    · -- an occurrence that ends in the front would start before the first one
      rw [Option.filter_some_neg (by simpa using hend), find?_eq_none_iff]
      intro j hj
      obtain ⟨hj, hnil | hlt⟩ := (hstands j).mp hj
      · subst hnil
        rw [find?_nil_left] at hfind
        obtain rfl := Option.some.inj hfind
        simp at hend
      · exact hleast j (by omega) hj

theorem closeOffset?_take :
    closeOffset? spelling (text.take n) =
      (closeOffset? spelling text).filter (· + spelling.length ≤ n) := by
  by_cases hnil : spelling = []
  · simp [hnil]
  · rw [closeOffset?_of_ne_nil hnil, closeOffset?_of_ne_nil hnil, find?_take]

end Front

/-! ### Texts with one more character -/

variable {α : Type} {xs : List α} {x : α} {c : Char} {i : Nat}

theorem drop_insertIdx_of_le (hj : j ≤ i) (hi : i ≤ xs.length) :
    (xs.insertIdx i x).drop j = (xs.drop j).insertIdx (i - j) x := by
  induction j generalizing xs i with
  | zero => simp
  | succ j ih =>
    cases xs with
    | nil => exact absurd hi (by simp; omega)
    | cons y ys =>
      cases i with
      | zero => exact absurd hj (by omega)
      | succ i =>
        rw [List.insertIdx_succ_cons, List.drop_succ_cons, List.drop_succ_cons,
          Nat.add_sub_add_right]
        exact ih (Nat.le_of_succ_le_succ hj) (Nat.le_of_succ_le_succ hi)

theorem drop_succ_insertIdx (hi : i ≤ j) :
    (xs.insertIdx i x).drop (j + 1) = xs.drop j := by
  induction i generalizing xs j with
  | zero => simp
  | succ i ih =>
    cases xs with
    | nil => simp
    | cons y ys =>
      cases j with
      | zero => exact absurd hi (by omega)
      | succ j =>
        rw [List.insertIdx_succ_cons, List.drop_succ_cons, List.drop_succ_cons]
        exact ih (Nat.le_of_succ_le_succ hi)

/-- A spelling without the new character begins the longer text only if it ends before it. -/
theorem prefix_insertIdx_iff (hc : c ∉ spelling) (hi : i ≤ text.length) :
    spelling <+: text.insertIdx i c ↔ spelling <+: text ∧ spelling.length ≤ i := by
  induction i generalizing text spelling with
  | zero =>
    cases spelling with
    | nil => simp
    | cons d ds =>
      have hne : d ≠ c := fun h => hc (by simp [h])
      simp [List.cons_prefix_cons, hne]
  | succ i ih =>
    cases text with
    | nil => exact absurd hi (by simp)
    | cons e es =>
      cases spelling with
      | nil => simp
      | cons d ds =>
        have hds : c ∉ ds := fun h => hc (List.mem_cons_of_mem d h)
        rw [List.insertIdx_succ_cons, List.cons_prefix_cons, List.cons_prefix_cons,
          ih hds (Nat.le_of_succ_le_succ hi), List.length_cons, Nat.add_le_add_iff_right, and_assoc]

theorem beginsWith_insertIdx (hc : c ∉ spelling) (hi : i ≤ text.length) :
    beginsWith (text.insertIdx i c) spelling = true ↔
      text.beginsWith spelling = true ∧ spelling.length ≤ i := by
  rw [beginsWith_iff, beginsWith_iff, prefix_insertIdx_iff hc hi, and_assoc]

/-- An occurrence of the longer text that does not start behind the new character is one of the
text, and ends before it. -/
theorem prefix_drop_insertIdx_iff (hc : c ∉ needle) (hj : j ≤ i) (hi : i ≤ text.length) :
    needle <+: (text.insertIdx i c).drop j ↔
      needle <+: text.drop j ∧ j + needle.length ≤ i := by
  rw [drop_insertIdx_of_le hj hi, prefix_insertIdx_iff hc (by rw [List.length_drop]; omega)]
  exact and_congr_right fun _ => by omega

/-- A new character before the first occurrence moves it. -/
theorem find?_insertIdx_of_le (hc : c ∉ needle) (hneedle : needle ≠ [])
    (h : find? needle text = some k) (hi : i ≤ k) :
    find? needle (text.insertIdx i c) = some (k + 1) := by
  obtain ⟨hle, hat, hleast⟩ := find?_eq_some_iff.mp h
  have hpos := List.length_pos_iff.mpr hneedle
  refine find?_eq_some_iff.mpr ⟨?_, ?_, fun j hj hstands => ?_⟩
  · rw [List.length_insertIdx_of_le_length (by omega)]
    omega
  · rwa [drop_succ_insertIdx hi]
  · -- an earlier occurrence starts behind the new character, or it ends in front of it
    rcases Nat.lt_or_ge i j with hlt | hge
    · obtain ⟨j, rfl⟩ : ∃ j', j = j' + 1 := ⟨j - 1, by omega⟩
      rw [drop_succ_insertIdx (by omega)] at hstands
      exact hleast j (by omega) hstands
    · obtain ⟨hstands, hend⟩ := (prefix_drop_insertIdx_iff hc hge (by omega)).mp hstands
      exact hleast j (by omega) hstands

/-- A new character behind the first occurrence leaves it where it is. -/
theorem find?_insertIdx_of_add_le (hc : c ∉ needle) (h : find? needle text = some k)
    (hk : k + needle.length ≤ i) (hi : i ≤ text.length) :
    find? needle (text.insertIdx i c) = some k := by
  obtain ⟨hle, hat, hleast⟩ := find?_eq_some_iff.mp h
  refine find?_eq_some_iff.mpr ⟨?_, ?_, fun j hj hstands => ?_⟩
  · rw [List.length_insertIdx_of_le_length hi]
    omega
  · exact (prefix_drop_insertIdx_iff hc (by omega) hi).mpr ⟨hat, hk⟩
  · exact hleast j hj ((prefix_drop_insertIdx_iff hc (by omega) hi).mp hstands).1

/-- A new character makes no occurrence. -/
theorem find?_insertIdx_of_none (hc : c ∉ needle) (h : find? needle text = none)
    (hi : i ≤ text.length) : find? needle (text.insertIdx i c) = none := by
  rw [find?_eq_none_iff] at h ⊢
  intro j hstands
  rcases Nat.lt_or_ge i j with hlt | hge
  · obtain ⟨j, rfl⟩ : ∃ j', j = j' + 1 := ⟨j - 1, by omega⟩
    rw [drop_succ_insertIdx (by omega)] at hstands
    exact h j hstands
  · exact h j ((prefix_drop_insertIdx_iff hc hge hi).mp hstands).1

end Indentation.Text
