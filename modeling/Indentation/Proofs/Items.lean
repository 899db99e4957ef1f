import Indentation.Proofs.Search
import Mathlib.Tactic.SplitIfs

/-!
# Literals item by item

The scans for the ends of strings and of regular expressions go from item to item: a backslash with
the character after it, or any other character. What they find is told by one equation for each
kind of item. So a literal is found in the front of a line as it is found in the line, as long as it
ends there.

## Main definitions

* `Text.classBehind` — whether a class of characters is open behind an item

## Main results

* `Text.item_induction` — induction on the items of a text
* `Text.stringSize_take` — strings in the front of a line
* `Text.regexBodySize?_take`, `Text.regexSize?_take` — regular expressions in the front of a line
-/

namespace Indentation.Text

/-- Literals are read item by item. A backslash that ends the line is an item of its own. -/
theorem item_induction {motive : Text → Prop} (nil : motive []) (lone : motive ['\\'])
    (escape : ∀ d cs, motive cs → motive ('\\' :: d :: cs))
    (char : ∀ c cs, c ≠ '\\' → motive cs → motive (c :: cs)) (cs : Text) : motive cs :=
  match cs with
  | [] => nil
  | [c] => if h : c = '\\' then h ▸ lone else char c [] h nil
  | c :: d :: cs =>
    if h : c = '\\' then
      h ▸ escape d cs (item_induction nil lone escape char cs)
    else
      char c (d :: cs) h (item_induction nil lone escape char (d :: cs))

variable {c d : Char} {cs : Text} {n : Nat}

/-! ### Strings -/

section Strings

variable {close : Text} {quote : Char}

theorem stringSize_of_beginsWith (h : cs.beginsWith close = true) :
    stringSize close quote cs = 0 := by
  fun_cases stringSize close quote cs with
  | case1 | case2 | case4 => rfl
  | case3 c hnot | case5 d cs hnot | case6 d cs hnot | case7 c d cs hnot => exact absurd h hnot

theorem stringSize_escape (h : ¬ beginsWith ('\\' :: d :: cs) close = true) :
    stringSize close quote ('\\' :: d :: cs) = stringSize close quote cs + 2 := by
  rw [stringSize, if_neg h, if_pos rfl]

theorem stringSize_char (h : ¬ beginsWith (c :: cs) close = true) (hescape : c ≠ '\\') :
    stringSize close quote (c :: cs) =
      if c = quote then 1 else stringSize close quote cs + 1 := by
  cases cs with
  | nil => simp [stringSize, h]
  | cons d cs => rw [stringSize, if_neg h, if_neg hescape]

/-- A string that ends in the front of a line is the same there, unless the front ends within the
close of the region that ends the string. -/
theorem stringSize_take (hsize : stringSize close quote cs ≤ n)
    (hgap : beginsWith (cs.drop (stringSize close quote cs)) close = true →
      n = stringSize close quote cs ∨ stringSize close quote cs + close.length ≤ n) :
    stringSize close quote (cs.take n) = stringSize close quote cs := by
  -- a close right here is in the front as a whole, unless the front is empty
  have hfront {cs : Text} {n : Nat} (hbegins : cs.beginsWith close = true)
      (hgap : n = 0 ∨ close.length ≤ n) :
      stringSize close quote (cs.take n) = 0 := by
    rcases hgap with rfl | hlength
    · rfl
    · exact stringSize_of_beginsWith (beginsWith_take.mpr ⟨hbegins, hlength⟩)
  have hcut {cs : Text} (n : Nat) (h : ¬ cs.beginsWith close = true) :
      ¬ beginsWith (cs.take n) close = true := fun h' => h (beginsWith_take.mp h').1
  induction cs using item_induction generalizing n with
  | nil => simp [stringSize]
  | lone =>
    by_cases hbegins : beginsWith ['\\'] close = true
    · rw [stringSize_of_beginsWith hbegins] at hgap ⊢
      exact hfront hbegins (by simpa using hgap hbegins)
    · rw [stringSize, if_neg hbegins] at hsize
      rw [List.take_of_length_le hsize]
  | escape d cs ih =>
    by_cases hbegins : beginsWith ('\\' :: d :: cs) close = true
    · rw [stringSize_of_beginsWith hbegins] at hgap ⊢
      exact hfront hbegins (by simpa using hgap hbegins)
    · rw [stringSize_escape hbegins] at hsize hgap ⊢
      obtain ⟨n, rfl⟩ : ∃ m, n = m + 2 := ⟨n - 2, by omega⟩
      have hbegins' := hcut (n + 2) hbegins
      rw [List.take_succ_cons, List.take_succ_cons] at hbegins' ⊢
      rw [stringSize_escape hbegins', ih (by omega)]
      intro h
      have := hgap h
      omega
  | char c cs hescape ih =>
    by_cases hbegins : beginsWith (c :: cs) close = true
    · rw [stringSize_of_beginsWith hbegins] at hgap ⊢
      exact hfront hbegins (by simpa using hgap hbegins)
    · rw [stringSize_char hbegins hescape] at hsize hgap ⊢
      obtain ⟨n, rfl⟩ : ∃ m, n = m + 1 := ⟨n - 1, by split_ifs at hsize <;> omega⟩
      have hbegins' := hcut (n + 1) hbegins
      rw [List.take_succ_cons] at hbegins' ⊢
      rw [stringSize_char hbegins' hescape]
      split_ifs at hsize hgap ⊢ with hquote
      · rfl
      · rw [ih (by omega)]
        intro h
        have := hgap h
        omega

end Strings

/-! ### Regular expressions -/

section Regex

variable {inClass : Bool} {size : Nat}

/-- Whether a class of characters is open behind a character that is not escaped. -/
def classBehind (inClass : Bool) (c : Char) : Bool :=
  if c = '[' then true else if c = ']' then false else inClass

theorem regexBodySize?_escape :
    regexBodySize? inClass ('\\' :: d :: cs) = (regexBodySize? inClass cs).map (· + 2) := by
  rw [regexBodySize?, if_pos rfl]

theorem regexBodySize?_char (hescape : c ≠ '\\') :
    regexBodySize? inClass (c :: cs) =
      if c = '/' ∧ inClass = false then some 0
      else (regexBodySize? (classBehind inClass c) cs).map (· + 1) := by
  cases cs with
  | nil => simp [regexBodySize?]
  | cons d cs =>
    rw [regexBodySize?, if_neg hescape, classBehind]
    split_ifs <;> rfl

/-- A regular expression closes in the front of a line exactly if its closing slash stands there. -/
theorem regexBodySize?_take :
    regexBodySize? inClass (cs.take n) = some size ↔
      regexBodySize? inClass cs = some size ∧ size < n := by
  induction cs using item_induction generalizing inClass n size with
  | nil => simp [regexBodySize?]
  | lone => cases n <;> simp [regexBodySize?]
  | escape d cs ih =>
    match n with
    | 0 => simp [regexBodySize?]
    | 1 =>
      -- the front ends with a lone backslash
      simp [regexBodySize?]
      omega
    | n + 2 =>
      simp only [List.take_succ_cons, regexBodySize?_escape, Option.map_eq_some_iff, ih]
      grind
  | char c cs hescape ih =>
    cases n with
    | zero => simp [regexBodySize?]
    | succ n =>
      rw [List.take_succ_cons, regexBodySize?_char hescape, regexBodySize?_char hescape]
      split_ifs with hslash
      · simp
        omega
      · simp only [Option.map_eq_some_iff, ih]
        grind

theorem regexSize?_eq_some_iff :
    regexSize? cs = some size ↔ ∃ body, regexBodySize? false cs = some body ∧ body ≠ 0 ∧
      size = body + 2 + ((cs.drop (body + 1)).takeWhile Character.isLetter).length := by
  unfold regexSize?
  split <;> rename_i hbody
  · simp [hbody]
  · simp [hbody]
  · rename_i body hne
    simp only [hbody, Option.some.injEq, exists_eq_left']
    constructor
    · rintro rfl
      exact ⟨fun h => hne (by rw [h]), rfl⟩
    · rintro ⟨-, rfl⟩
      rfl

theorem regexSize?_take (h : regexSize? cs = some size) (hsize : size ≤ n + 1) :
    regexSize? (cs.take n) = some size := by
  obtain ⟨body, hbody, hne, rfl⟩ := regexSize?_eq_some_iff.mp h
  refine regexSize?_eq_some_iff.mpr ⟨body, regexBodySize?_take.mpr ⟨hbody, by omega⟩, hne, ?_⟩
  -- the letters behind the closing slash all stand in the front
  rw [List.drop_take, ← List.take_takeWhile, List.length_take]
  omega

theorem regexSize?_take_of_none (h : regexSize? cs = none) : regexSize? (cs.take n) = none := by
  rw [Option.eq_none_iff_forall_ne_some] at h ⊢
  intro size hsize
  obtain ⟨body, hbody, hne, -⟩ := regexSize?_eq_some_iff.mp hsize
  exact h _ (regexSize?_eq_some_iff.mpr ⟨body, (regexBodySize?_take.mp hbody).1, hne, rfl⟩)

end Regex

end Indentation.Text
