import Indentation.Proofs.Stripping
import Mathlib.Data.List.Flatten

/-!
# What sanitizing keeps

The tokens of a line cover each of its characters once, also where several of them start at one
offset or some start past the end of the text. Sanitizing goes through the tokens in their order: it
keeps plain text as it is, and of a literal it takes characters away but never moves or adds any.
Only spellings that stand in a literal are taken away, so an empty one changes nothing.

## Main definitions

* `BracketPair.inked` — brackets without their empty spellings

## Main results

* `TokenizedLine.flatMap_textAt` — the texts of the tokens give the line
* `Registry.keptAt_eq_keep` — what is kept of a token, by the spellings of the brackets
* `Registry.sanitize_keeps` — sanitizing touches nothing but brackets in literals
-/

namespace Indentation

/-! ### Tokens -/

theorem TokenizedLine.flatMap_textAt {line : TokenizedLine} (h : line.Ascending) :
    (List.range line.count).flatMap line.textAt = line.text := by
  have hpieces := flatMap_pieces h
  rwa [pieces, List.flatMap_map] at hpieces

namespace Label

variable {spellings : List Text} {label : Label}

theorem keep_of_not_isLiteral (h : ¬ label.kind.isLiteral) (text : Text) :
    label.keep spellings text = text :=
  if_neg h

theorem keep_sublist (spellings : List Text) (label : Label) (text : Text) :
    (label.keep spellings text).Sublist text := by
  rw [keep]
  split
  · exact Text.stripSpellings_sublist spellings text
  · exact List.Sublist.refl text

/-- A literal without the spellings is kept as it is, and so is all plain text. -/
theorem keep_of_absent {text : Text}
    (h : label.kind.isLiteral → ∀ spelling ∈ spellings, ¬ spelling <:+: text) :
    label.keep spellings text = text := by
  rw [keep]
  split
  · rename_i hliteral
    exact Text.stripSpellings_of_absent (h hliteral)
  · rfl

end Label

/-! ### Empty spellings -/

namespace BracketPair

/-- The brackets without their empty spellings, and without those that have no other one. -/
def inked (pairs : List BracketPair) : List BracketPair :=
  (pairs.map fun pair => ⟨pair.opens.filter (· ≠ []), pair.closes.filter (· ≠ [])⟩).filter
    (· ≠ ⟨[], []⟩)

theorem flatMap_inked {side : BracketPair → List Text} (hnone : side ⟨[], []⟩ = [])
    (hside : ∀ pair : BracketPair,
      side ⟨pair.opens.filter (· ≠ []), pair.closes.filter (· ≠ [])⟩ = (side pair).filter (· ≠ []))
    (pairs : List BracketPair) :
    (inked pairs).flatMap side = (pairs.flatMap side).filter (· ≠ []) := by
  rw [inked, List.filter_flatMap]
  induction pairs with
  | nil => rfl
  | cons pair pairs ih =>
    rw [List.map_cons, List.flatMap_cons, ← hside, List.filter_cons]
    split
    · rw [List.flatMap_cons, ih]
    · -- a bracket without spellings adds none
      rename_i hblank
      have hpair := of_not_not fun hne => hblank (decide_eq_true hne)
      rw [hpair, hnone, List.nil_append, ih]

/-- Empty spellings are not erased. -/
theorem spellings_inked (pairs : List BracketPair) : spellings (inked pairs) = spellings pairs := by
  rw [spellings, flatMap_inked rfl fun _ => rfl, flatMap_inked rfl fun _ => rfl,
    ← List.filter_append, List.filter_filter, spellings]
  refine List.filter_congr fun spelling _ => ?_
  cases spelling <;> rfl

end BracketPair

/-! ### Lines -/

namespace Registry

open BracketPair

variable {registry registry' : Registry} {line : TokenizedLine}

/-- What is kept of a token, where a language without brackets has no spellings. -/
theorem keptAt_eq_keep (registry : Registry) (line : TokenizedLine) (index : Nat) :
    registry.keptAt line index =
      (line.labelAt index).keep
        (spellings ((registry.brackets? line.first.language).getD [])) (line.textAt index) := by
  rw [keptAt]
  cases registry.brackets? line.first.language with
  | none => exact (Label.keep_of_absent fun _ _ hmem => absurd hmem List.not_mem_nil).symm
  | some pairs => rfl

/-- Sanitizing puts together what is kept of each token, whether there are brackets or not. -/
theorem sanitize_eq_flatMap (registry : Registry) (h : line.Ascending) :
    registry.sanitize line = (List.range line.count).flatMap (registry.keptAt line) := by
  cases hpairs : registry.brackets? line.first.language with
  | none =>
    have hkept : registry.keptAt line = line.textAt := by
      funext index
      rw [keptAt, hpairs]
    rw [sanitize, hpairs, hkept, TokenizedLine.flatMap_textAt h]
  | some pairs => exact sanitize_eq_flatMap_keptAt hpairs

/-- If all tokens are kept as they are, so is the line. -/
theorem sanitize_of_keptAt (h : line.Ascending)
    (hkept : ∀ index < line.count, registry.keptAt line index = line.textAt index) :
    registry.sanitize line = line.text := by
  rw [sanitize_eq_flatMap registry h, ← TokenizedLine.flatMap_textAt h]
  exact List.flatMap_congr fun index hmem => hkept index (List.mem_range.mp hmem)

/-- Brackets with the same spellings that are not empty leave the same of a line. -/
theorem sanitize_congr_inked (h : line.Ascending)
    (hinked : inked ((registry'.brackets? line.first.language).getD []) =
      inked ((registry.brackets? line.first.language).getD [])) :
    registry'.sanitize line = registry.sanitize line := by
  rw [sanitize_eq_flatMap registry h, sanitize_eq_flatMap registry' h]
  refine List.flatMap_congr fun index _ => ?_
  rw [keptAt_eq_keep, keptAt_eq_keep, ← spellings_inked, hinked, spellings_inked]

/-- Sanitizing touches nothing but brackets in literals. The texts of the tokens make up the line,
and what is kept of each of them makes up the sanitized line: plain text is kept as it is, and of a
literal some characters in their order. So the sanitized line has its characters in the order of the
line, and it is the line itself if there are no brackets or if none of their spellings stands in a
literal. Empty spellings do not matter. -/
theorem sanitize_keeps (registry : Registry) (line : TokenizedLine) (h : line.Ascending) :
    (List.range line.count).flatMap line.textAt = line.text ∧
    registry.sanitize line = (List.range line.count).flatMap (registry.keptAt line) ∧
    (∀ index < line.count,
      ((line.labelAt index).kind = .other →
        registry.keptAt line index = line.textAt index) ∧
      (registry.keptAt line index).Sublist (line.textAt index)) ∧
    (registry.sanitize line).Sublist line.text ∧
    (registry.brackets? line.first.language = none → registry.sanitize line = line.text) ∧
    (∀ pairs, registry.brackets? line.first.language = some pairs →
      (∀ index < line.count, (line.labelAt index).kind.isLiteral →
        ∀ spelling, Spells pairs spelling → ¬ spelling <:+: line.textAt index) →
      registry.sanitize line = line.text) ∧
    ∀ registry' : Registry,
      inked ((registry'.brackets? line.first.language).getD []) =
        inked ((registry.brackets? line.first.language).getD []) →
      registry'.sanitize line = registry.sanitize line := by
  have htext := TokenizedLine.flatMap_textAt h
  have hsanitize := sanitize_eq_flatMap registry h
  have hsublist (index : Nat) : (registry.keptAt line index).Sublist (line.textAt index) := by
    rw [keptAt_eq_keep]
    exact Label.keep_sublist ..
  refine ⟨htext, hsanitize, fun index _ => ⟨fun hother => ?_, hsublist index⟩, ?_, fun hnone => ?_,
    fun pairs hpairs habsent => ?_, fun registry' => sanitize_congr_inked h⟩
  · rw [keptAt_eq_keep, Label.keep_of_not_isLiteral]
    rw [hother]
    exact Bool.false_ne_true
  · rw [hsanitize, ← htext]
    exact List.Sublist.flatMap_right _ fun index _ => hsublist index
  · rw [sanitize, hnone]
  · refine sanitize_of_keptAt h fun index hindex => ?_
    rw [keptAt_eq_keep, hpairs]
    exact Label.keep_of_absent fun hliteral spelling hmem =>
      habsent index hindex hliteral spelling (mem_spellings_iff.mp hmem)

/-- Two tokens start at one offset and another one past the end, and one of the spellings is
empty. -/
theorem sanitize_keeps_crowded :
    let line : TokenizedLine := ⟨"f('(')".toList, ⟨.other, "lisp"⟩, [⟨⟨.comment, "lisp"⟩, 2⟩,
      ⟨⟨.string, "lisp"⟩, 2⟩, ⟨⟨.other, "lisp"⟩, 5⟩, ⟨⟨.comment, "lisp"⟩, 9⟩]⟩
    let registry := ofList [{ id := "lisp", brackets := some [⟨[[], ['(']], [[')']]⟩] }]
    let registry' := ofList [{ id := "lisp", brackets := some [⟨[['(']], [[')'], []]⟩] }]
    line.Ascending ∧ registry.sanitize line = "f('')".toList ∧
      (registry.sanitize line).Sublist line.text ∧
      inked ((registry'.brackets? "lisp").getD []) = inked ((registry.brackets? "lisp").getD []) ∧
      registry'.sanitize line = registry.sanitize line := by
  intro line registry registry'
  have h : line.Ascending := by
    simp [TokenizedLine.Ascending, TokenizedLine.tokens, line]
  have hbrackets : registry.brackets? "lisp" = some [⟨[[], ['(']], [[')']]⟩] := by
    rw [brackets?, get?_ofList]
    rfl
  have hbrackets' : registry'.brackets? "lisp" = some [⟨[['(']], [[')'], []]⟩] := by
    rw [brackets?, get?_ofList]
    rfl
  have hinked : inked ((registry'.brackets? "lisp").getD []) =
      inked ((registry.brackets? "lisp").getD []) := by
    rw [hbrackets, hbrackets']
    decide
  obtain ⟨-, hsanitize, -, hsublist, -, -, hsame⟩ := sanitize_keeps registry line h
  have hkept : registry.sanitize line = "f('')".toList := by
    have hfirst : registry.brackets? line.first.language = _ := hbrackets
    rw [sanitize, hfirst]
    decide
  exact ⟨h, hkept, hsublist, hinked, hsame registry' hinked⟩

end Registry

end Indentation
