import Indentation.Character.LetterCase
import Mathlib.Data.List.Basic

/-!
# Lowercase texts

Lowercasing twice is lowercasing once. The simple map is a table of runs, and none of the letters that
the runs lead to is a letter that a run leads away from. The full map also makes a final sigma and a
dot above, and no run holds these either. So a text in lowercase is left alone, whatever stands
around it.

Characters in front of the letters in ASCII, among them the dot and the slash, are neither changed
nor made.

## Main definitions

* `Character.CaseRun.codesFrom` — the code points of a run, or those that it leads to
* `Character.bitSet` — code points as the bits of a number
* `Character.IsLower` — no run of the lowercase map holds the code point
* `LowersTo` — what the full map may make of a character

## Main results

* `Character.isLower_toLower` — what the simple map leads to
* `isLower_of_mem_lowercase`, `lowercase_of_isLower` — what the full map leads to, and leaves alone
* `mem_of_mem_lowercaseAfter`, `getLast?_of_lowercaseAfter` — characters in front of the letters
-/

namespace Indentation

namespace Character

/-! ### Runs -/

namespace CaseRun

variable {run : CaseRun} {code image : Nat}

/-- As many code points as the run has, with its step, from `start` on. -/
def codesFrom (run : CaseRun) (start : Nat) : List Nat :=
  (List.range ((run.last - run.first) / run.step + 1)).map fun k => start + k * run.step

theorem image?_eq_some_iff :
    run.image? code = some image ↔ run.first ≤ code ∧ code ≤ run.last ∧
      (code - run.first) % run.step = 0 ∧ run.target + (code - run.first) = image := by
  simp [image?, and_assoc]

theorem mem_codesFrom (h : run.image? code = some image) (start : Nat) :
    start + (code - run.first) ∈ run.codesFrom start := by
  obtain ⟨-, hlast, hstep, -⟩ := image?_eq_some_iff.mp h
  refine List.mem_map.mpr ⟨(code - run.first) / run.step, List.mem_range.mpr ?_, ?_⟩
  · exact Nat.lt_succ_of_le (Nat.div_le_div_right (Nat.sub_le_sub_right hlast _))
  · rw [Nat.div_mul_cancel (Nat.dvd_of_mod_eq_zero hstep)]

theorem code_mem_codesFrom (h : run.image? code = some image) : code ∈ run.codesFrom run.first := by
  have hmem := mem_codesFrom h run.first
  rwa [Nat.add_sub_cancel' (image?_eq_some_iff.mp h).1] at hmem

theorem image_mem_codesFrom (h : run.image? code = some image) :
    image ∈ run.codesFrom run.target := by
  have hmem := mem_codesFrom h run.target
  rwa [(image?_eq_some_iff.mp h).2.2.2] at hmem

end CaseRun

/-! ### Sets of code points as numbers -/

/-- The number whose bits are the code points of a list. -/
def bitSet (codes : List Nat) : Nat :=
  codes.foldr (fun code bits => 1 <<< code ||| bits) 0

theorem testBit_bitSet {codes : List Nat} {code : Nat} :
    (bitSet codes).testBit code = true ↔ code ∈ codes := by
  induction codes with
  | nil => simp [bitSet]
  | cons first codes ih =>
    rw [bitSet, List.foldr_cons, ← bitSet, Nat.testBit_or, Bool.or_eq_true, ih, List.mem_cons,
      Nat.one_shiftLeft, Nat.testBit_two_pow, decide_eq_true_eq]
    exact or_congr_left eq_comm

theorem not_mem_of_bitSet {codes others : List Nat} (h : bitSet codes &&& bitSet others = 0)
    {code : Nat} (hmem : code ∈ codes) : code ∉ others := by
  intro hother
  have hbit : (bitSet codes &&& bitSet others).testBit code = true := by
    rw [Nat.testBit_and, testBit_bitSet.mpr hmem, testBit_bitSet.mpr hother]
    rfl
  rw [h, Nat.zero_testBit] at hbit
  cases hbit

/-! ### The simple map -/

/-- The letters that the lowercase map leads to are not those that it leads away from. -/
theorem lowerRuns_disjoint :
    bitSet (lowerRuns.flatMap fun run => run.codesFrom run.target) &&&
      bitSet (lowerRuns.flatMap fun run => run.codesFrom run.first) = 0 := by
  decide +kernel

/-- The letters that the lowercase map leads to are characters, and none of them stands in front of
the small letters in ASCII. -/
theorem lowerRuns_valid : ∀ run ∈ lowerRuns,
    97 ≤ run.target ∧ (run.target + (run.last - run.first) < 0xD800 ∨
      0xDFFF < run.target ∧ run.target + (run.last - run.first) < 0x110000) := by
  decide +kernel

/-- The capital letters in ASCII are a run, and all other runs stand behind ASCII. -/
theorem lowerRuns_ascii : ∀ run ∈ lowerRuns,
    run.first = 65 ∧ run.last = 90 ∧ run.step = 1 ∨ 128 ≤ run.first := by
  decide +kernel

/-- No letter that the lowercase map leads away from. -/
def IsLower (code : Nat) : Prop :=
  ∀ run ∈ lowerRuns, run.image? code = none

instance (code : Nat) : Decidable (IsLower code) :=
  inferInstanceAs (Decidable (∀ run ∈ lowerRuns, run.image? code = none))

theorem isLower_of_ascii {code : Nat} (hascii : code < 128) (hcapital : ¬ (65 ≤ code ∧ code ≤ 90)) :
    IsLower code := by
  intro run hrun
  rw [Option.eq_none_iff_forall_ne_some]
  intro image himage
  obtain ⟨hfirst, hlast, -⟩ := CaseRun.image?_eq_some_iff.mp himage
  rcases lowerRuns_ascii run hrun with ⟨hfirst', hlast', -⟩ | hbehind
  · exact hcapital ⟨hfirst' ▸ hfirst, hlast' ▸ hlast⟩
  · omega

theorem isLower_of_image? {run : CaseRun} (hrun : run ∈ lowerRuns) {code image : Nat}
    (h : run.image? code = some image) : IsLower image := by
  intro other hother
  rw [Option.eq_none_iff_forall_ne_some]
  intro image' himage'
  have hmade : image ∈ lowerRuns.flatMap fun run => run.codesFrom run.target :=
    List.mem_flatMap.mpr ⟨run, hrun, CaseRun.image_mem_codesFrom h⟩
  have hheld : image ∈ lowerRuns.flatMap fun run => run.codesFrom run.first :=
    List.mem_flatMap.mpr ⟨other, hother, CaseRun.code_mem_codesFrom himage'⟩
  exact not_mem_of_bitSet lowerRuns_disjoint hmade hheld

/-- What the simple map does: it leaves a code point alone, or leads to a small letter. -/
theorem toLower_cases (code : Nat) :
    toLower code = code ∧ IsLower code ∨
      ∃ run ∈ lowerRuns, run.image? code = some (toLower code) := by
  rw [toLower]
  split
  · rename_i hascii
    split
    · rename_i hcapital
      rw [Bool.and_eq_true, decide_eq_true_eq, decide_eq_true_eq] at hcapital
      refine .inr ⟨⟨65, 90, 1, 97⟩, List.mem_cons_self, ?_⟩
      rw [CaseRun.image?_eq_some_iff]
      dsimp only
      omega
    · rename_i hother
      rw [Bool.and_eq_true, decide_eq_true_eq, decide_eq_true_eq] at hother
      exact .inl ⟨rfl, isLower_of_ascii hascii hother⟩
  · cases h : lowerRuns.findSome? (·.image? code) with
    | none => exact .inl ⟨rfl, List.findSome?_eq_none_iff.mp h⟩
    | some image => exact .inr (List.exists_of_findSome?_eq_some h)

theorem isLower_toLower (code : Nat) : IsLower (toLower code) := by
  rcases toLower_cases code with ⟨heq, hlower⟩ | ⟨run, hrun, himage⟩
  · rwa [heq]
  · exact isLower_of_image? hrun himage

theorem toLower_of_isLower {code : Nat} (h : IsLower code) : toLower code = code := by
  rcases toLower_cases code with ⟨heq, -⟩ | ⟨run, hrun, himage⟩
  · exact heq
  · cases (h run hrun).symm.trans himage

theorem isValidChar_toLower {code : Nat} (h : code.isValidChar) : (toLower code).isValidChar := by
  rcases toLower_cases code with ⟨heq, -⟩ | ⟨run, hrun, himage⟩
  · rwa [heq]
  · obtain ⟨hfirst, hlast, -, himage⟩ := CaseRun.image?_eq_some_iff.mp himage
    have hvalid := (lowerRuns_valid run hrun).2
    rw [← himage, Nat.isValidChar]
    omega

theorem toLower_eq_of_lt {code : Nat} (h : toLower code < 97) : toLower code = code := by
  rcases toLower_cases code with ⟨heq, -⟩ | ⟨run, hrun, himage⟩
  · exact heq
  · have htarget := (lowerRuns_valid run hrun).1
    have himage := (CaseRun.image?_eq_some_iff.mp himage).2.2.2
    omega

end Character

open Character

/-! ### The full map -/

/-- What the full lowercase map may make of a character. -/
structure LowersTo (c : Char) (image : List Char) : Prop where
  ne_nil : image ≠ []
  isLower : ∀ d ∈ image, IsLower d.toNat
  eq_of_isLower : IsLower c.toNat → image = [c]
  eq_of_lt : ∀ d ∈ image, d.toNat < 97 → image = [c]

/-- Both forms of the small sigma. -/
theorem lowersTo_sigma {c d : Char} (hc : c.toNat = 0x03A3) (hd : d.toNat = 0x03C2 ∨ d.toNat = 0x03C3) :
    LowersTo c [d] := by
  have hlower : IsLower d.toNat := by
    rcases hd with hd | hd <;> rw [hd] <;> decide +kernel
  have hcapital : ¬ IsLower c.toNat := by
    rw [hc]
    decide +kernel
  refine ⟨List.cons_ne_nil d [], ?_, fun h => absurd h hcapital, ?_⟩
  · intro e hmem
    rwa [List.mem_singleton.mp hmem]
  · intro e hmem hlt
    rw [List.mem_singleton.mp hmem] at hlt
    omega

/-- The capital I with a dot, as two characters. -/
theorem lowersTo_dotted {c : Char} (hc : c.toNat = 0x0130) : LowersTo c ['i', '\u0307'] := by
  have hcapital : ¬ IsLower c.toNat := by
    rw [hc]
    decide +kernel
  refine ⟨List.cons_ne_nil _ _, ?_, fun h => absurd h hcapital, ?_⟩
  · intro d hmem
    rcases List.mem_pair.mp hmem with rfl | rfl <;> decide +kernel
  · intro d hmem hlt
    rcases List.mem_pair.mp hmem with rfl | rfl <;> exact absurd hlt (by decide)

/-- All other characters follow the simple map. -/
theorem lowersTo_toLower (c : Char) : LowersTo c [Char.ofNat (toLower c.toNat)] := by
  have hvalid : (toLower c.toNat).isValidChar := isValidChar_toLower c.valid
  have htoNat : (Char.ofNat (toLower c.toNat)).toNat = toLower c.toNat := by
    rw [Char.ofNat, dif_pos hvalid]
    rfl
  have hsame (h : toLower c.toNat = c.toNat) : [Char.ofNat (toLower c.toNat)] = [c] := by
    rw [h, Char.ofNat_toNat]
  refine ⟨List.cons_ne_nil _ [], ?_, fun h => hsame (toLower_of_isLower h), ?_⟩
  · intro d hmem
    rw [List.mem_singleton.mp hmem, htoNat]
    exact isLower_toLower c.toNat
  · intro d hmem hlt
    rw [List.mem_singleton.mp hmem, htoNat] at hlt
    exact hsame (toLower_eq_of_lt hlt)

/-- The full map goes through a text character by character. -/
theorem lowercaseAfter_cons (before : List Char) (c : Char) (cs : List Char) :
    ∃ image, LowersTo c image ∧
      lowercaseAfter before (c :: cs) = image ++ lowercaseAfter (c :: before) cs := by
  rw [lowercaseAfter]
  refine ⟨_, ?_, rfl⟩
  split
  · rename_i hsigma
    have hc : c.toNat = 0x03A3 := by simpa using hsigma
    split
    · exact lowersTo_sigma hc (.inl rfl)
    · exact lowersTo_sigma hc (.inr rfl)
  · split
    · rename_i hdotted
      exact lowersTo_dotted (by simpa using hdotted)
    · exact lowersTo_toLower c

section Texts

variable {before text : List Char} {c : Char}

theorem isLower_of_mem_lowercaseAfter (h : c ∈ lowercaseAfter before text) : IsLower c.toNat := by
  induction text generalizing before with
  | nil => exact absurd h List.not_mem_nil
  | cons first text ih =>
    obtain ⟨image, himage, heq⟩ := lowercaseAfter_cons before first text
    rw [heq] at h
    rcases List.mem_append.mp h with hmem | hmem
    · exact himage.isLower c hmem
    · exact ih hmem

theorem lowercaseAfter_of_isLower (h : ∀ c ∈ text, IsLower c.toNat) :
    lowercaseAfter before text = text := by
  induction text generalizing before with
  | nil => rfl
  | cons first text ih =>
    obtain ⟨image, himage, heq⟩ := lowercaseAfter_cons before first text
    rw [heq, himage.eq_of_isLower (h first List.mem_cons_self),
      ih fun c hmem => h c (List.mem_cons_of_mem _ hmem)]
    rfl

theorem mem_of_mem_lowercaseAfter (hc : c.toNat < 97) (h : c ∈ lowercaseAfter before text) :
    c ∈ text := by
  induction text generalizing before with
  | nil => exact absurd h List.not_mem_nil
  | cons first text ih =>
    obtain ⟨image, himage, heq⟩ := lowercaseAfter_cons before first text
    rw [heq] at h
    rcases List.mem_append.mp h with hmem | hmem
    · rw [himage.eq_of_lt c hmem hc] at hmem
      exact List.mem_cons.mpr (.inl (List.mem_singleton.mp hmem))
    · exact List.mem_cons_of_mem _ (ih hmem)

theorem lowercaseAfter_eq_nil_iff : lowercaseAfter before text = [] ↔ text = [] := by
  cases text with
  | nil => exact iff_of_true rfl rfl
  | cons first text =>
    obtain ⟨image, himage, heq⟩ := lowercaseAfter_cons before first text
    rw [heq, List.append_eq_nil_iff]
    exact iff_of_false (fun h => himage.ne_nil h.1) (List.cons_ne_nil first text)

theorem getLast?_of_lowercaseAfter (hc : c.toNat < 97)
    (h : (lowercaseAfter before text).getLast? = some c) : text.getLast? = some c := by
  induction text generalizing before with
  | nil => exact h
  | cons first text ih =>
    obtain ⟨image, himage, heq⟩ := lowercaseAfter_cons before first text
    rw [heq, List.getLast?_append] at h
    rw [List.getLast?_cons]
    cases hrest : (lowercaseAfter (first :: before) text).getLast? with
    | some d =>
      rw [hrest, Option.some_or] at h
      rw [ih (hrest.trans h)]
      rfl
    | none =>
      -- nothing follows, so the last character comes from the first one
      obtain rfl := lowercaseAfter_eq_nil_iff.mp (List.getLast?_eq_none_iff.mp hrest)
      rw [hrest, Option.none_or] at h
      rw [himage.eq_of_lt c (List.mem_of_getLast? h) hc] at h
      exact h

end Texts

/-- A text in lowercase holds no letter that lowercasing would change. -/
theorem isLower_of_mem_lowercase {text : List Char} {c : Char} (h : c ∈ lowercase text) :
    IsLower c.toNat :=
  isLower_of_mem_lowercaseAfter h

/-- A text without such letters is left alone. -/
theorem lowercase_of_isLower {text : List Char} (h : ∀ c ∈ text, IsLower c.toNat) :
    lowercase text = text :=
  lowercaseAfter_of_isLower h

end Indentation
