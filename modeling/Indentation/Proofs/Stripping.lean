import Indentation.Proofs.Cleaning
import Indentation.Proofs.Lookup
import Mathlib.Data.List.Infix

/-!
# Stripped literals hold no brackets

Spellings are erased one after another, each from what the others have left, and erasing one of them
can join characters to another one that was looked for before. A bracket of one character cannot
come back in this way, since erasing only takes characters away. So if every spelling holds such a
bracket, none of them is left in the end.

## Main definitions

* `BracketPair.Spells` — a non-empty spelling of one of some brackets
* `BracketPair.Anchored` — every spelling holds one of a single character
* `Registry.keptAt` — what sanitizing keeps of a token

## Main results

* `Text.not_mem_stripSpellings` — a bracket of one character does not come back
* `BracketPair.Anchored.not_infix_stripSpellings` — nothing is left to erase
* `BracketPair.anchored_builtin` — the built-in languages have such brackets
* `Registry.sanitize_complete` — sanitizing leaves no bracket in a literal
-/

namespace Indentation

namespace Text

variable {spelling text : Text} {spellings : List Text} {c : Char}

/-! ### Erasing takes characters away -/

theorem eraseAfter_sublist (spelling : Text) (skip : Nat) (text : Text) :
    (eraseAfter spelling skip text).Sublist text := by
  fun_induction eraseAfter spelling skip text with
  | case1 => exact .slnil
  | case2 skip c cs ih => exact ih.cons c
  | case3 c cs _ ih => exact ih.cons c
  | case4 c cs _ ih => exact ih.cons_cons c

theorem stripSpellings_cons (spelling : Text) (spellings : List Text) (text : Text) :
    text.stripSpellings (spelling :: spellings) =
      (eraseAll spelling text).stripSpellings spellings :=
  rfl

theorem stripSpellings_sublist (spellings : List Text) (text : Text) :
    (text.stripSpellings spellings).Sublist text := by
  induction spellings generalizing text with
  | nil => exact List.Sublist.refl text
  | cons spelling spellings ih =>
    rw [stripSpellings_cons]
    exact (ih _).trans (eraseAfter_sublist spelling 0 text)

/-- What has been erased does not come back if it is a single character. -/
theorem not_mem_stripSpellings (h : [c] ∈ spellings) (text : Text) :
    c ∉ text.stripSpellings spellings := by
  induction spellings generalizing text with
  | nil => exact absurd h List.not_mem_nil
  | cons spelling spellings ih =>
    rw [stripSpellings_cons]
    rcases List.mem_cons.mp h with rfl | hmem
    · -- it is gone now, and what is left later is left of this
      intro hleft
      have hnow := (stripSpellings_sublist spellings _).mem hleft
      rw [eraseAll_singleton] at hnow
      simp at hnow
    · exact ih hmem _

/-! ### Erasing what is not there -/

theorem find?_eq_none_of_absent (h : ¬ spelling <:+: text) : find? spelling text = none :=
  find?_eq_none_iff.mpr fun k hat =>
    h (List.infix_iff_prefix_suffix.mpr ⟨text.drop k, hat, List.drop_suffix k text⟩)

theorem stripSpellings_of_absent (h : ∀ spelling ∈ spellings, ¬ spelling <:+: text) :
    text.stripSpellings spellings = text := by
  induction spellings with
  | nil => rfl
  | cons spelling spellings ih =>
    have hfirst := find?_eq_none_of_absent (h spelling List.mem_cons_self)
    rw [stripSpellings_cons, eraseAll_of_find?_eq_none hfirst]
    exact ih fun other hother => h other (List.mem_cons_of_mem spelling hother)

end Text

/-! ### Brackets that hold brackets -/

namespace BracketPair

variable {pairs pairs' : List BracketPair} {spelling : Text}

/-- A spelling of one of the brackets that is not empty. -/
def Spells (pairs : List BracketPair) (spelling : Text) : Prop :=
  (∃ pair ∈ pairs, spelling ∈ pair.opens ++ pair.closes) ∧ spelling ≠ []

instance : Decidable (Spells pairs spelling) :=
  inferInstanceAs (Decidable (_ ∧ _))

/-- Every spelling holds one that is a single character. -/
def Anchored (pairs : List BracketPair) : Prop :=
  ∀ spelling, Spells pairs spelling → ∃ c, Spells pairs [c] ∧ [c] <:+: spelling

theorem mem_spellings_iff : spelling ∈ spellings pairs ↔ Spells pairs spelling :=
  mem_spellings

theorem spells_perm (h : pairs'.Perm pairs) : Spells pairs' spelling ↔ Spells pairs spelling := by
  simp only [Spells, h.mem_iff]

/-- Whether every spelling is anchored can be found out by looking at all of them. -/
theorem anchored_iff :
    Anchored pairs ↔
      (spellings pairs).all (fun spelling => spelling.any fun c => [c] ∈ spellings pairs) = true := by
  simp only [Anchored, List.all_eq_true, List.any_eq_true, decide_eq_true_eq, mem_spellings_iff,
    List.singleton_infix_iff, and_comm]

instance : Decidable (Anchored pairs) :=
  decidable_of_iff _ anchored_iff.symm

/-- The brackets of the built-in languages are anchored: the comment delimiters of HTML hold the
angle brackets, and all others are single characters. -/
theorem anchored_builtin {id : String} (h : Registry.builtin.brackets? id = some pairs) :
    Anchored pairs := by
  rw [Registry.brackets?, Option.filter_eq_some_iff, Option.bind_eq_some_iff] at h
  obtain ⟨⟨language, hlanguage, hpairs⟩, -⟩ := h
  have hall : ∀ language ∈ Builtin.languages, ∀ pairs ∈ language.brackets, Anchored pairs := by
    decide
  exact hall language (Registry.mem_languages_of_get? hlanguage).1 pairs hpairs

/-- If all spellings are anchored, none of them is left after all have been erased. -/
theorem Anchored.not_infix_stripSpellings (h : Anchored pairs) (hspells : Spells pairs spelling)
    (text : Text) : ¬ spelling <:+: text.stripSpellings (spellings pairs) := by
  obtain ⟨c, hc, hholds⟩ := h spelling hspells
  intro hleft
  have hmem := (List.singleton_infix_iff c _).mp (hholds.trans hleft)
  exact Text.not_mem_stripSpellings (mem_spellings_iff.mpr hc) text hmem

theorem Anchored.stripSpellings_stripSpellings (h : Anchored pairs) (text : Text) :
    (text.stripSpellings (spellings pairs)).stripSpellings (spellings pairs) =
      text.stripSpellings (spellings pairs) :=
  Text.stripSpellings_of_absent fun _ hmem =>
    h.not_infix_stripSpellings (mem_spellings_iff.mp hmem) text

/-- Erasing brackets of one character filters the text. -/
theorem stripSpellings_eq_filter (h : ∀ spelling, Spells pairs spelling → spelling.length = 1)
    (text : Text) :
    text.stripSpellings (spellings pairs) = text.filter fun c => ¬ Spells pairs [c] := by
  rw [Text.stripSpellings_of_length_eq_one fun spelling hmem =>
    h spelling (mem_spellings_iff.mp hmem)]
  simp only [mem_spellings_iff]

end BracketPair

/-! ### Tokens of a line -/

namespace Registry

open BracketPair

variable {registry registry' : Registry} {line : TokenizedLine} {pairs pairs' : List BracketPair}

/-- What sanitizing keeps of the token at `index`. -/
def keptAt (registry : Registry) (line : TokenizedLine) (index : Nat) : Text :=
  match registry.brackets? line.first.language with
  | none => line.textAt index
  | some pairs => (line.labelAt index).keep (spellings pairs) (line.textAt index)

/-- Sanitizing puts together what is kept of each token. -/
theorem sanitize_eq_flatMap_keptAt (h : registry.brackets? line.first.language = some pairs) :
    registry.sanitize line = (List.range line.count).flatMap (registry.keptAt line) := by
  have hkept : registry.keptAt line =
      fun index => (line.labelAt index).keep (spellings pairs) (line.textAt index) := by
    funext index
    rw [keptAt, h]
  rw [sanitize, h, hkept]
  dsimp only
  rw [TokenizedLine.pieces, List.flatMap_map]

theorem keptAt_of_isLiteral (h : registry.brackets? line.first.language = some pairs) {index : Nat}
    (hliteral : (line.labelAt index).kind.isLiteral = true) :
    registry.keptAt line index = (line.textAt index).stripSpellings (spellings pairs) := by
  rw [keptAt, h]
  exact if_pos hliteral

/-- With brackets of one character, their order does not matter for what is kept. -/
theorem keptAt_perm (h : registry.brackets? line.first.language = some pairs)
    (h' : registry'.brackets? line.first.language = some pairs') (hperm : pairs'.Perm pairs)
    (hsingle : ∀ spelling, Spells pairs spelling → spelling.length = 1) (index : Nat) :
    registry'.keptAt line index = registry.keptAt line index := by
  have hsingle' : ∀ spelling, Spells pairs' spelling → spelling.length = 1 :=
    fun spelling hspells => hsingle spelling ((spells_perm hperm).mp hspells)
  by_cases hliteral : (line.labelAt index).kind.isLiteral = true
  · rw [keptAt_of_isLiteral h hliteral, keptAt_of_isLiteral h' hliteral,
      stripSpellings_eq_filter hsingle, stripSpellings_eq_filter hsingle']
    simp only [spells_perm hperm]
  · -- other tokens are kept as they are, whatever the brackets
    rw [keptAt, keptAt, h, h']
    dsimp only
    rw [Label.keep, Label.keep, if_neg hliteral, if_neg hliteral]

/-- In a language with brackets, sanitizing puts together what is kept of each token. If every
spelling of a bracket holds one of a single character, as in all built-in languages, what is kept of
a literal holds no spelling, and stripping it once more changes nothing. If all spellings are single
characters, the literal is kept without these characters, whatever the order of the brackets. -/
theorem sanitize_complete (registry : Registry) (line : TokenizedLine) (pairs : List BracketPair)
    (hpairs : registry.brackets? line.first.language = some pairs) :
    registry.sanitize line = (List.range line.count).flatMap (registry.keptAt line) ∧
    (Anchored pairs → ∀ index < line.count, (line.labelAt index).kind.isLiteral →
      (∀ spelling, Spells pairs spelling → ¬ spelling <:+: registry.keptAt line index) ∧
      (registry.keptAt line index).stripSpellings (spellings pairs) =
        registry.keptAt line index) ∧
    (∀ id pairs, builtin.brackets? id = some pairs → Anchored pairs) ∧
    ((∀ spelling, Spells pairs spelling → spelling.length = 1) →
      (∀ index < line.count, (line.labelAt index).kind.isLiteral →
        registry.keptAt line index =
          (line.textAt index).filter fun c => ¬ Spells pairs [c]) ∧
      ∀ (registry' : Registry) (pairs' : List BracketPair),
        registry'.brackets? line.first.language = some pairs' → pairs'.Perm pairs →
        registry'.sanitize line = registry.sanitize line) := by
  refine ⟨sanitize_eq_flatMap_keptAt hpairs, fun hanchored index _ hliteral => ?_,
    fun id pairs h => anchored_builtin h, fun hsingle => ⟨fun index _ hliteral => ?_, ?_⟩⟩
  · rw [keptAt_of_isLiteral hpairs hliteral]
    exact ⟨fun spelling hspells => hanchored.not_infix_stripSpellings hspells _,
      hanchored.stripSpellings_stripSpellings _⟩
  · rw [keptAt_of_isLiteral hpairs hliteral, stripSpellings_eq_filter hsingle]
  · intro registry' pairs' hpairs' hperm
    rw [sanitize_eq_flatMap_keptAt hpairs, sanitize_eq_flatMap_keptAt hpairs']
    exact List.flatMap_congr fun index _ => keptAt_perm hpairs hpairs' hperm hsingle index

/-- Erasing a comment delimiter joins the characters around it to another one, of which the angle
bracket is erased later. -/
theorem sanitize_complete_joined :
    builtin.brackets? "html" =
      some [⟨["<!--".toList], ["-->".toList]⟩, ⟨["<".toList], [">".toList]⟩, Builtin.curly,
        Builtin.round] ∧
    "<!--".toList <:+: Text.eraseAll "<!--".toList "<!-<!---->->".toList ∧
    ¬ "<!--".toList <:+: builtin.keptAt (.single "<!-<!---->->".toList ⟨.comment, "html"⟩) 0 := by
  have hpairs : builtin.brackets? "html" =
      some [⟨["<!--".toList], ["-->".toList]⟩, ⟨["<".toList], [">".toList]⟩, Builtin.curly,
        Builtin.round] := by
    rw [brackets?, get?_builtin_html]
    rfl
  obtain ⟨-, hcomplete, hanchored, -⟩ := sanitize_complete builtin
    (.single "<!-<!---->->".toList ⟨.comment, "html"⟩) _ hpairs
  obtain ⟨hnone, -⟩ := hcomplete (hanchored "html" _ hpairs) 0 Nat.zero_lt_one rfl
  exact ⟨hpairs, by decide, hnone _ (by decide)⟩

end Registry

end Indentation
