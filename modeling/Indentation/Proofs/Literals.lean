import Indentation.Proofs.Lookup
import Indentation.Proofs.Termination
import Indentation.Proofs.Tiling

/-!
# The grammar of literals

Strings and regular expressions are read as items. An item is a backslash with the character after
it, or any other character; where a line ends with a backslash, that is an item of its own.

A string ends between two items: where the region closes, behind its quote as an item of its own, or
at the end of the line, whichever comes first. An escaped quote is part of a longer item and ends
nothing, and neither does a close that begins inside an item.

A regular expression is a slash, a body and a slash. A slash that is an item of the body stands in a
class, and a class that is open at the end of the body hides the slash behind it. So the body has one
end at most. The scans that look for the ends of literals find exactly these ends.

## Main definitions

* `Text.items` — the items of a text
* `Text.EndsString`, `Text.StringEnd` — where a string may end, and where it ends
* `Text.IsRegexBody`, `Text.IsRegex` — the grammar of regular expressions

## Main results

* `Text.exists_stringEnd` — the scan of a string stops where the string ends
* `Text.regexBodySize?_eq_some_iff` — the scan of a body stops where it closes
* `Lexer.string_ends_at_boundary` — where the lexer goes on behind a string
* `Lexer.regex_recognised` — which regular expressions the lexer takes
-/

namespace Indentation

namespace Text

/-- The items of a text. A backslash that ends the text is an item of its own. -/
def items : Text → List Text
  | [] => []
  | [c] => [[c]]
  | c :: d :: cs => if c = '\\' then [c, d] :: items cs else [c] :: items (d :: cs)

variable {c d : Char} {cs item : Text}

theorem items_escape : items ('\\' :: d :: cs) = ['\\', d] :: items cs := by
  rw [items, if_pos rfl]

theorem items_char (hescape : c ≠ '\\') : items (c :: cs) = [c] :: items cs := by
  cases cs with
  | nil => rfl
  | cons d cs => rw [items, if_neg hescape]

/-- Nothing is lost by reading a text as items. -/
theorem flatten_items (cs : Text) : (items cs).flatten = cs := by
  induction cs using item_induction with
  | nil | lone => rfl
  | escape d cs ih =>
    rw [items_escape, List.flatten_cons, ih]
    rfl
  | char c cs hescape ih =>
    rw [items_char hescape, List.flatten_cons, ih]
    rfl

theorem items_ne_nil (hcs : cs ≠ []) : items cs ≠ [] := by
  intro hnil
  rw [← flatten_items cs, hnil] at hcs
  exact hcs rfl

/-! ### Strings -/

section Strings

variable {close? : Option Text} {quote : Char} {rest front back : List Text}

/-- Where a string may end that a quote has opened: before items at which the region closes, behind
the quote as an item of its own, and at the end of the line. -/
def EndsString (close? : Option Text) (quote : Char) (front back : List Text) : Prop :=
  (∃ close ∈ close?, close ≠ [] ∧ close <+: back.flatten) ∨
    (quote ≠ '\\' ∧ front.getLast? = some [quote]) ∨ back = []

/-- The first boundary between items where a string may end. -/
structure StringEnd (close? : Option Text) (quote : Char) (all front back : List Text) : Prop where
  split : all = front ++ back
  ends : EndsString close? quote front back
  first : ∀ front' back', all = front' ++ back' → front'.length < front.length →
    ¬ EndsString close? quote front' back'

/-- Before the first item a string ends only with its region. -/
theorem endsString_nil_items (hcs : cs ≠ []) :
    EndsString close? quote [] (items cs) ↔ cs.beginsWith (close?.getD []) = true := by
  have hcloses : (∃ close ∈ close?, close ≠ [] ∧ close <+: cs) ↔
      cs.beginsWith (close?.getD []) = true := by
    cases close? <;> simp [beginsWith_iff]
  rw [EndsString, flatten_items, hcloses]
  simp [items_ne_nil hcs]

theorem endsString_cons (hitem : item = [quote] → quote = '\\') :
    EndsString close? quote (item :: front) back ↔ EndsString close? quote front back := by
  cases front with
  | nil =>
    have hquote : ¬ (quote ≠ '\\' ∧ item = [quote]) := fun h => h.1 (hitem h.2)
    simp [EndsString, hquote]
  | cons => simp [EndsString, List.getLast?_cons_cons]

theorem StringEnd.here (h : EndsString close? quote [] rest) :
    StringEnd close? quote rest [] rest :=
  ⟨rfl, h, fun _ _ _ hlt => absurd hlt (Nat.not_lt_zero _)⟩

/-- A string that does not end before the first item may end behind it. -/
theorem StringEnd.behind (hfront : ¬ EndsString close? quote [] (item :: rest))
    (h : EndsString close? quote [item] rest) :
    StringEnd close? quote (item :: rest) [item] rest := by
  refine ⟨rfl, h, fun front' back' hsplit hlt => ?_⟩
  obtain rfl : front' = [] := by simpa using hlt
  rw [List.nil_append] at hsplit
  rwa [← hsplit]

/-- An item before and behind which a string does not end is passed over. -/
theorem StringEnd.cons (hfront : ¬ EndsString close? quote [] (item :: rest))
    (hitem : item = [quote] → quote = '\\') (h : StringEnd close? quote rest front back) :
    StringEnd close? quote (item :: rest) (item :: front) back := by
  refine ⟨by rw [h.split, List.cons_append], (endsString_cons hitem).mpr h.ends, ?_⟩
  intro front' back' hsplit hlt
  cases front' with
  | nil =>
    rw [List.nil_append] at hsplit
    rwa [← hsplit]
  | cons item' front' =>
    obtain ⟨rfl, hrest⟩ := List.cons.inj hsplit
    rw [endsString_cons hitem]
    exact h.first front' back' hrest (Nat.lt_of_succ_lt_succ hlt)

/-- The scan for the end of a string stops at the first boundary between items where the string may
end. -/
theorem exists_stringEnd (close? : Option Text) (quote : Char) (cs : Text) :
    ∃ front back, StringEnd close? quote (items cs) front back ∧
      stringSize (close?.getD []) quote cs = front.flatten.length := by
  -- the close of the region is looked for before each item
  have hhere {cs : Text} (hcs : cs ≠ []) (hbegins : cs.beginsWith (close?.getD []) = true) :
      ∃ front back, StringEnd close? quote (items cs) front back ∧
        stringSize (close?.getD []) quote cs = front.flatten.length :=
    ⟨[], items cs, .here ((endsString_nil_items hcs).mpr hbegins),
      stringSize_of_beginsWith hbegins⟩
  have hnot {cs : Text} (hcs : cs ≠ []) (hbegins : ¬ cs.beginsWith (close?.getD []) = true) :
      ¬ EndsString close? quote [] (items cs) :=
    fun h => hbegins ((endsString_nil_items hcs).mp h)
  induction cs using item_induction with
  | nil => exact ⟨[], [], .here (.inr (.inr rfl)), rfl⟩
  | lone =>
    by_cases hbegins : beginsWith ['\\'] (close?.getD []) = true
    · exact hhere (List.cons_ne_nil _ _) hbegins
    · have hfront := hnot (List.cons_ne_nil _ _) hbegins
      refine ⟨[['\\']], [], .behind hfront (.inr (.inr rfl)), ?_⟩
      rw [stringSize, if_neg hbegins]
      rfl
  | escape d cs ih =>
    by_cases hbegins : beginsWith ('\\' :: d :: cs) (close?.getD []) = true
    · exact hhere (List.cons_ne_nil _ _) hbegins
    · obtain ⟨front, back, hend, hsize⟩ := ih
      have hfront := hnot (List.cons_ne_nil _ _) hbegins
      rw [items_escape] at hfront ⊢
      refine ⟨['\\', d] :: front, back, hend.cons hfront (by simp), ?_⟩
      rw [stringSize_escape hbegins, hsize, List.flatten_cons, List.length_append, Nat.add_comm]
      rfl
  | char c cs hescape ih =>
    by_cases hbegins : beginsWith (c :: cs) (close?.getD []) = true
    · exact hhere (List.cons_ne_nil _ _) hbegins
    · have hfront := hnot (List.cons_ne_nil _ _) hbegins
      rw [items_char hescape] at hfront ⊢
      rw [stringSize_char hbegins hescape]
      split_ifs with hquote
      · subst hquote
        exact ⟨[[c]], items cs, .behind hfront (.inr (.inl ⟨hescape, rfl⟩)), rfl⟩
      · obtain ⟨front, back, hend, hsize⟩ := ih
        have hitem : [c] = [quote] → quote = '\\' := fun h => absurd (List.cons.inj h).1 hquote
        refine ⟨[c] :: front, back, hend.cons hfront hitem, ?_⟩
        rw [hsize, List.flatten_cons, List.length_append, Nat.add_comm]
        rfl

end Strings

/-! ### Regular expressions -/

section Regex

variable {inClass : Bool} {body body' : List Text} {rest more more' : Text} {size : Nat}

/-- An item that is no lone backslash: an escaped character, or a character of its own. -/
def IsItem (item : Text) : Prop :=
  ∃ c, item = ['\\', c] ∨ c ≠ '\\' ∧ item = [c]

/-- Whether a class of characters is open behind items. A bracket that is an item of its own opens
or closes one. -/
def classAfter (inClass : Bool) (items : List Text) : Bool :=
  items.foldl (fun inClass item =>
    if item = ['['] then true else if item = [']'] then false else inClass) inClass

/-- The items between the slashes of a regular expression. A slash among them stands in a class, and
no class is open behind them. -/
structure IsRegexBody (inClass : Bool) (body : List Text) : Prop where
  isItem : ∀ item ∈ body, IsItem item
  slash : ∀ front back, body = front ++ ['/'] :: back → classAfter inClass front = true
  closed : classAfter inClass body = false

/-- A regular expression in front of a text: a slash, the items of a body that is not empty, the
slash that closes it, and more. -/
structure IsRegex (rest : Text) (body : List Text) (more : Text) : Prop where
  spelled : rest = '/' :: (body.flatten ++ '/' :: more)
  ne_nil : body ≠ []
  isBody : IsRegexBody false body

theorem IsItem.ne_nil (h : IsItem item) : item ≠ [] := by
  obtain ⟨c, rfl | ⟨-, rfl⟩⟩ := h <;> exact List.cons_ne_nil _ _

theorem isItem_slash : IsItem ['/'] :=
  ⟨'/', .inr ⟨by decide, rfl⟩⟩

theorem items_append (hitem : IsItem item) : items (item ++ cs) = item :: items cs := by
  obtain ⟨c, rfl | ⟨hescape, rfl⟩⟩ := hitem
  · exact items_escape
  · exact items_char hescape

/-- A text begins with one item only. -/
theorem IsItem.append_inj {other : Text} (hitem : IsItem item) (hother : IsItem other)
    (h : item ++ cs = other ++ more) : item = other ∧ cs = more := by
  have hitems : item :: items cs = other :: items more := by
    rw [← items_append hitem, ← items_append hother, h]
  obtain ⟨hhead, htail⟩ := List.cons.inj hitems
  exact ⟨hhead, by rw [← flatten_items cs, htail, flatten_items]⟩

theorem classAfter_char (c : Char) : classAfter inClass [[c]] = classBehind inClass c := by
  simp [classAfter, classBehind]

theorem isRegexBody_nil : IsRegexBody inClass [] ↔ inClass = false :=
  ⟨fun h => h.closed, fun h => ⟨by simp, by simp, h⟩⟩

theorem isRegexBody_cons :
    IsRegexBody inClass (item :: body) ↔
      IsItem item ∧ (item = ['/'] → inClass = true) ∧
        IsRegexBody (classAfter inClass [item]) body := by
  constructor
  · intro h
    refine ⟨h.isItem item List.mem_cons_self, ?_, ?_, ?_, h.closed⟩
    · rintro rfl
      exact h.slash [] body rfl
    · exact fun other hmem => h.isItem other (List.mem_cons_of_mem item hmem)
    · rintro front back rfl
      exact h.slash (item :: front) back rfl
  · rintro ⟨hitem, hslash, hbody⟩
    refine ⟨List.forall_mem_cons.mpr ⟨hitem, hbody.isItem⟩, ?_, hbody.closed⟩
    intro front back hsplit
    cases front with
    | nil => exact hslash (List.cons.inj hsplit).1
    | cons other front =>
      obtain ⟨rfl, htail⟩ := List.cons.inj hsplit
      exact hbody.slash front back htail

theorem IsRegexBody.flatten_ne_nil (h : IsRegexBody inClass body) (hne : body ≠ []) :
    body.flatten ≠ [] := by
  obtain ⟨item, tail, rfl⟩ := List.exists_cons_of_ne_nil hne
  intro hnil
  exact (h.isItem item List.mem_cons_self).ne_nil (List.append_eq_nil_iff.mp hnil).1

/-- A body ends behind a number of characters, where a slash follows that closes it. -/
def RegexCloses (inClass : Bool) (cs : Text) (size : Nat) : Prop :=
  ∃ body more, cs = body.flatten ++ '/' :: more ∧ IsRegexBody inClass body ∧
    size = body.flatten.length

/-- A body ends before the first item exactly if this is a slash outside a class. -/
theorem regexCloses_append (hitem : IsItem item) :
    RegexCloses inClass (item ++ cs) size ↔
      if item = ['/'] ∧ inClass = false then size = 0
      else ∃ tail, RegexCloses (classAfter inClass [item]) cs tail ∧ tail + item.length = size := by
  constructor
  · rintro ⟨body, more, hsplit, hbody, rfl⟩
    cases body with
    | nil =>
      obtain ⟨rfl, -⟩ := hitem.append_inj isItem_slash hsplit
      rw [if_pos ⟨rfl, isRegexBody_nil.mp hbody⟩]
      rfl
    | cons other body =>
      obtain ⟨hother, hslash, htail⟩ := isRegexBody_cons.mp hbody
      rw [List.flatten_cons, List.append_assoc] at hsplit
      obtain ⟨rfl, rfl⟩ := hitem.append_inj hother hsplit
      have hopen : ¬ (item = ['/'] ∧ inClass = false) := by
        rintro ⟨hitem, hclass⟩
        exact Bool.false_ne_true (hclass.symm.trans (hslash hitem))
      rw [if_neg hopen, List.flatten_cons, List.length_append, Nat.add_comm]
      exact ⟨_, ⟨body, more, rfl, htail, rfl⟩, rfl⟩
  · split_ifs with hclose
    · rintro rfl
      refine ⟨[], cs, ?_, isRegexBody_nil.mpr hclose.2, rfl⟩
      rw [hclose.1]
      rfl
    · rintro ⟨_, ⟨body, more, rfl, hbody, rfl⟩, rfl⟩
      refine ⟨item :: body, more, ?_, isRegexBody_cons.mpr ⟨hitem, ?_, hbody⟩, ?_⟩
      · rw [List.flatten_cons, List.append_assoc]
      · intro hslash
        exact eq_true_of_ne_false fun hclass => hclose ⟨hslash, hclass⟩
      · rw [List.flatten_cons, List.length_append, Nat.add_comm]

/-- A backslash that ends a line leaves the regular expression open. -/
theorem not_regexCloses_lone : ¬ RegexCloses inClass ['\\'] size := by
  rintro ⟨body, more, hsplit, hbody, -⟩
  cases body with
  | nil => simp at hsplit
  | cons item body =>
    obtain ⟨c, rfl | ⟨hescape, rfl⟩⟩ := (isRegexBody_cons.mp hbody).1 <;> simp at hsplit

/-- The scan for the slash that closes a regular expression finds the end of the body. -/
theorem regexBodySize?_eq_some_iff :
    regexBodySize? inClass cs = some size ↔ RegexCloses inClass cs size := by
  induction cs using item_induction generalizing inClass size with
  | nil => simp [regexBodySize?, RegexCloses]
  | lone => simp [regexBodySize?, not_regexCloses_lone]
  | escape d cs ih =>
    have hcloses := @regexCloses_append cs ['\\', d] inClass size ⟨d, .inl rfl⟩
    rw [if_neg (by simp)] at hcloses
    rw [regexBodySize?_escape, Option.map_eq_some_iff]
    simp only [ih]
    exact hcloses.symm
  | char c cs hescape ih =>
    have hcloses := @regexCloses_append cs [c] inClass size ⟨c, .inr ⟨hescape, rfl⟩⟩
    simp only [classAfter_char, List.cons.injEq, and_true] at hcloses
    rw [regexBodySize?_char hescape]
    refine Iff.trans ?_ hcloses.symm
    split_ifs with hslash
    · rw [Option.some.injEq, eq_comm]
    · rw [Option.map_eq_some_iff]
      simp only [ih]
      rfl

theorem IsRegex.regexSize?_eq (h : IsRegex ('/' :: cs) body more) :
    regexSize? cs =
      some (body.flatten.length + 2 + (more.takeWhile Character.isLetter).length) := by
  have hcs : cs = body.flatten ++ '/' :: more := (List.cons.inj h.spelled).2
  have hbody : regexBodySize? false cs = some body.flatten.length :=
    regexBodySize?_eq_some_iff.mpr ⟨body, more, hcs, h.isBody, rfl⟩
  refine regexSize?_eq_some_iff.mpr ⟨_, hbody, ?_, ?_⟩
  · rw [ne_eq, List.length_eq_zero_iff]
    exact h.isBody.flatten_ne_nil h.ne_nil
  · rw [hcs, List.drop_length_add_append]
    rfl

theorem exists_isRegex_of_regexSize? (h : regexSize? cs = some size) :
    ∃ body more, IsRegex ('/' :: cs) body more := by
  obtain ⟨_, hsize, hne, -⟩ := regexSize?_eq_some_iff.mp h
  obtain ⟨body, more, rfl, hbody, rfl⟩ := regexBodySize?_eq_some_iff.mp hsize
  refine ⟨body, more, rfl, ?_, hbody⟩
  rintro rfl
  exact hne rfl

/-- One slash only closes a regular expression. -/
theorem IsRegex.unique (h : IsRegex rest body more) (h' : IsRegex rest body' more') :
    body'.flatten = body.flatten ∧ more' = more := by
  have hcs : body'.flatten ++ '/' :: more' = body.flatten ++ '/' :: more :=
    (List.cons.inj (h'.spelled.symm.trans h.spelled)).2
  have hsize := regexBodySize?_eq_some_iff.mpr ⟨body, more, rfl, h.isBody, rfl⟩
  have hsize' := regexBodySize?_eq_some_iff.mpr ⟨body', more', rfl, h'.isBody, rfl⟩
  rw [hcs, hsize] at hsize'
  obtain ⟨hbody, hmore⟩ := List.append_inj hcs (Option.some.inj hsize').symm
  exact ⟨hbody, (List.cons.inj hmore).2⟩

/-- The letters in front of a text whose remainder begins with none. -/
theorem takeWhile_append_of_head? {p : Char → Bool} {flags tail : Text}
    (hflags : ∀ c ∈ flags, p c = true) (htail : ∀ c ∈ tail.head?, p c = false) :
    (flags ++ tail).takeWhile p = flags := by
  rw [List.takeWhile_append_of_pos hflags]
  cases tail with
  | nil => rw [List.takeWhile_nil, List.append_nil]
  | cons c tail => simp [htail c rfl]

end Regex

theorem drop_eq_cons_of_getElem? {text : Text} {pos : Nat} (hread : text[pos]? = some c) :
    text.drop pos = c :: text.drop (pos + 1) := by
  obtain ⟨hlt, rfl⟩ := List.getElem?_eq_some_iff.mp hread
  exact List.drop_eq_getElem_cons hlt

end Text

/-! ### Literals of a line -/

namespace Lexer

variable {grammar : Grammar} {state : LineState} {operand : Option Char} {text rest : Text}
  {pos : Nat}

theorem string?_quote {quote : Char} (hquote : [quote] ∈ grammar.quotes) (cs : Text) :
    string? grammar state (quote :: cs) =
      some ⟨Text.stringSize state.close quote cs + 1, ⟨.string, state.language⟩, state,
        some quote⟩ := by
  rw [string?, if_pos (List.contains_iff_mem.mpr hquote)]

/-- A quote of the language opens a string, and the lexer goes on behind it at the first boundary
between items where the string may end. The scan by positions stops there too, although it may run
over the end of the line on its way. -/
theorem string_ends_at_boundary (grammar : Grammar) (state : LineState) (text : Text) (pos : Nat)
    (quote : Char) (hread : text[pos]? = some quote) (hquote : [quote] ∈ grammar.quotes) :
    ∃ step front back, string? grammar state (text.drop pos) = some step ∧
      step.label = ⟨.string, state.language⟩ ∧ step.state = state ∧
      Text.StringEnd state.close? quote (Text.items (text.drop (pos + 1))) front back ∧
      pos + step.size = pos + 1 + front.flatten.length ∧
      Text.stringStop? text state.close quote (pos + 1) = some (pos + step.size) ∧
      pos < pos + step.size ∧ pos + step.size ≤ text.length := by
  obtain ⟨front, back, hend, hsize⟩ :=
    Text.exists_stringEnd state.close? quote (text.drop (pos + 1))
  have hsize : Text.stringSize state.close quote (text.drop (pos + 1)) = front.flatten.length :=
    hsize
  have hstring := @string?_quote grammar state quote hquote (text.drop (pos + 1))
  rw [← Text.drop_eq_cons_of_getElem? hread, hsize] at hstring
  have hlt : pos < text.length := (List.getElem?_eq_some_iff.mp hread).1
  have hle := stringSize_le state.close quote (text.drop (pos + 1))
  rw [List.length_drop, hsize] at hle
  have hstop : pos + (front.flatten.length + 1) = pos + 1 + front.flatten.length := by omega
  have hbound : pos + (front.flatten.length + 1) ≤ text.length := by omega
  refine ⟨_, front, back, hstring, rfl, rfl, hend, hstop, ?_,
    Nat.lt_add_of_pos_right (Nat.succ_pos _), hbound⟩
  rw [Text.stringStop?_eq, Nat.min_eq_left hlt, hsize, ← hstop]

/-- An escaped quote does not end a string, and the close of the region does. -/
theorem string_ends_at_boundary_escaped :
    let state : LineState := { document := "html", regions := [⟨"javascript", "</s>".toList⟩] }
    let text : Text := "\"a\\\"</s>\"".toList
    text[0]? = some '"' ∧ ['"'] ∈ Builtin.javascript.grammar.quotes ∧
      ∃ front back, Text.StringEnd state.close? '"' (Text.items (text.drop 1)) front back ∧
        front.flatten.length = 3 ∧ 4 ≤ text.length := by
  intro state text
  have hread : text[0]? = some '"' := rfl
  have hquote : ['"'] ∈ Builtin.javascript.grammar.quotes := by decide
  obtain ⟨step, front, back, hstring, -, -, hend, hstop, -, -, hle⟩ :=
    string_ends_at_boundary Builtin.javascript.grammar state text 0 '"' hread hquote
  have hstep : string? Builtin.javascript.grammar state (text.drop 0) =
      some ⟨4, ⟨.string, "javascript"⟩, state, some '"'⟩ := by decide
  obtain rfl := Option.some.inj (hstep.symm.trans hstring)
  have hlength : front.flatten.length = 3 := by
    change 0 + 4 = 0 + 1 + front.flatten.length at hstop
    omega
  exact ⟨hread, hquote, front, back, hend, hlength, hle⟩

theorem regex?_slash (hliterals : grammar.regexLiterals = true)
    (hoperand : admitsOperand operand = true) (cs : Text) :
    regex? grammar state operand ('/' :: cs) =
      (Text.regexSize? cs).map fun size => ⟨size, ⟨.regex, state.language⟩, state, some '/'⟩ := by
  rw [regex?, hliterals, hoperand]
  rfl

/-- Where no regular expression is found, the lexer goes on as in a language that has none. -/
theorem plainStep_of_regex?_eq_none (h : regex? grammar state operand rest = none) :
    plainStep grammar state operand rest =
      plainStep { grammar with regexLiterals := false } state operand rest := by
  have hoff : regex? { grammar with regexLiterals := false } state operand rest = none := by
    unfold regex?
    split <;> rfl
  rw [plainStep_eq_or, plainStep_eq_or, h, hoff]
  rfl

/-- Where the lexer takes a regular expression, the tokens of the line show it, and the lexer goes
on behind it. -/
theorem Reaches.regex {registry : Registry} {start : LineState} {step : Step}
    (hreach : Reaches registry (.front start text) pos ⟨state, operand, text.drop pos⟩)
    (hscan : regex? grammar state operand (text.drop pos) = some step)
    (hstep : Place.step registry ⟨state, operand, text.drop pos⟩ = step) :
    (∀ i < step.size, (tokenize registry start text).1.labelOf (pos + i : Nat) =
      ⟨.regex, state.language⟩) ∧
      Reaches registry (.front start text) (pos + step.size)
        ⟨state, some '/', text.drop (pos + step.size)⟩ := by
  obtain ⟨cs, size, hrest, -, -, rfl⟩ := regex?_eq_some hscan
  have hne : text.drop pos ≠ [] := by
    rw [hrest]
    exact List.cons_ne_nil _ _
  have hbehind := hreach.trans (.single hne)
  rw [Place.next, hstep, List.drop_drop] at hbehind
  refine ⟨fun i hi => ?_, hbehind⟩
  have hlabel := hreach.getElem?_labels hne (by rwa [hstep])
  have hlt : pos + i < text.length := Nat.lt_of_lt_of_le (Nat.add_lt_add_left hi pos)
    hbehind.le_length
  rw [getElem?_labels_eq_labelOf hlt, hstep] at hlabel
  exact Option.some.inj hlabel

/-- At a slash where a regular expression may stand, the lexer takes one exactly if one stands there.
The slash that closes it is the only one that can, and the lexer goes on behind the letters that
follow it; the state is kept, and in the tokens of the line all these characters belong to a regular
expression. Otherwise the lexer goes on as in a language without regular expressions. -/
theorem regex_recognised (grammar : Grammar) (state : LineState) (operand : Option Char)
    (text : Text) (pos : Nat) (hread : text[pos]? = some '/')
    (hliterals : grammar.regexLiterals = true) (hoperand : admitsOperand operand = true) :
    let rest := text.drop pos
    let scan := regex? grammar state operand rest
    (scan.isSome ↔ ∃ body more, Text.IsRegex rest body more) ∧
    (∀ body more body' more', Text.IsRegex rest body more → Text.IsRegex rest body' more' →
      body'.flatten = body.flatten ∧ more' = more) ∧
    (∀ body flags tail, Text.IsRegex rest body (flags ++ tail) →
      (∀ c ∈ flags, Character.isLetter c = true) →
      (∀ c ∈ tail.head?, Character.isLetter c = false) →
      let size := body.flatten.length + 2 + flags.length
      scan = some ⟨size, ⟨.regex, state.language⟩, state, some '/'⟩ ∧
        text.drop (pos + size) = tail) ∧
    Text.regexStop? text pos = some (scan.map fun step => pos + step.size) ∧
    (∀ (registry : Registry) (start : LineState) (step : Step), scan = some step →
      Reaches registry (.front start text) pos ⟨state, operand, rest⟩ →
      Place.step registry ⟨state, operand, rest⟩ = step →
      (∀ i < step.size, (tokenize registry start text).1.labelOf (pos + i : Nat) =
        ⟨.regex, state.language⟩) ∧
      Reaches registry (.front start text) (pos + step.size)
        ⟨state, some '/', text.drop (pos + step.size)⟩) ∧
    (scan = none → plainStep grammar state operand rest =
      plainStep { grammar with regexLiterals := false } state operand rest) := by
  intro rest scan
  have hrest : rest = '/' :: text.drop (pos + 1) := Text.drop_eq_cons_of_getElem? hread
  have hscan : scan = (Text.regexSize? (text.drop (pos + 1))).map fun size =>
      ⟨size, ⟨.regex, state.language⟩, state, some '/'⟩ := by
    rw [← regex?_slash hliterals hoperand, ← hrest]
  refine ⟨⟨?_, ?_⟩, ?_, ?_, ?_, ?_, plainStep_of_regex?_eq_none⟩
  · intro hsome
    rw [hscan, Option.isSome_map] at hsome
    obtain ⟨size, hsize⟩ := Option.isSome_iff_exists.mp hsome
    rw [hrest]
    exact Text.exists_isRegex_of_regexSize? hsize
  · rintro ⟨body, more, hregex⟩
    rw [hrest] at hregex
    rw [hscan, hregex.regexSize?_eq]
    rfl
  · intro body more body' more' hregex hregex'
    exact hregex.unique hregex'
  · intro body flags tail hregex hletters htail size
    have hspelled : rest = ('/' :: body.flatten ++ '/' :: flags) ++ tail := by
      rw [hregex.spelled, List.append_assoc, List.cons_append, List.cons_append]
    constructor
    · rw [hrest] at hregex
      rw [hscan, hregex.regexSize?_eq, Text.takeWhile_append_of_head? hletters htail]
      rfl
    · rw [← List.drop_drop]
      change rest.drop size = tail
      rw [hspelled, List.drop_left']
      simp only [List.length_append, List.length_cons, size]
      omega
  · rw [Text.regexStop?_eq, hscan, Option.map_map]
    rfl
  · intro registry start step hsome hreach hstep
    exact hreach.regex hsome hstep

/-- A slash in a class and an escaped one do not close a regular expression, and a letter behind the
one that does belongs to it. -/
theorem regex_recognised_class :
    let text : Text := "x=/[/]\\//g;".toList
    let grammar := Builtin.javascript.grammar
    let state := LineState.initial "javascript"
    text[2]? = some '/' ∧ grammar.regexLiterals = true ∧ admitsOperand (some '=') = true ∧
      Text.IsRegex (text.drop 2) [['['], ['/'], [']'], ['\\', '/']] ['g', ';'] ∧
      regex? grammar state (some '=') (text.drop 2) =
        some ⟨8, ⟨.regex, "javascript"⟩, state, some '/'⟩ ∧
      text.drop 10 = [';'] := by
  intro text grammar state
  have hread : text[2]? = some '/' := rfl
  have hliterals : grammar.regexLiterals = true := rfl
  have hoperand : admitsOperand (some '=') = true := by decide
  have hregex : Text.IsRegex (text.drop 2) [['['], ['/'], [']'], ['\\', '/']] ['g', ';'] := by
    refine ⟨rfl, List.cons_ne_nil _ _, ?_⟩
    simp [Text.isRegexBody_cons, Text.isRegexBody_nil, Text.IsItem, Text.classAfter]
  obtain ⟨-, -, hfound, -⟩ :=
    regex_recognised grammar state (some '=') text 2 hread hliterals hoperand
  have hletters : ∀ c ∈ ['g'], Character.isLetter c = true :=
    List.forall_mem_singleton.mpr (by decide)
  have hend : ∀ c ∈ [';'].head?, Character.isLetter c = false := by
    rintro _ ⟨⟩
    decide
  obtain ⟨hscan, hdrop⟩ := hfound _ ['g'] [';'] hregex hletters hend
  exact ⟨hread, hliterals, hoperand, hregex, hscan, hdrop⟩

end Lexer

end Indentation
