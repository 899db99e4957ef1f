import Indentation.Text.Lines
import Mathlib.Data.List.Chain

/-!
# Line ends

A document is its lines with line ends between them: line feeds, carriage returns, and pairs of
both. No line holds one of these characters, and a carriage return and a line feed with nothing
between them are always taken as a pair. These rules leave one way to split a text, so a splitting
is recognised by them, without looking at how it was found.

Writing a line feed for every line end changes the ends but not the lines, and what stands above a
line feed has lines of its own, whatever follows.

## Main definitions

* `LineEnd` — a line feed, a carriage return, or a pair of both
* `Text.joinLines` — lines with their ends between them
* `Text.SplitsInto` — a text as lines and line ends

## Main results

* `Text.splitLines_eq_iff` — the lines of a text are those of its only splitting
* `Text.splitLines_unifyLineEnds` — the lines do not depend on how they end
* `Text.exists_splitLines_append` — the lines above a line feed
-/

namespace Indentation

/-- What ends a line. -/
inductive LineEnd where
  | lineFeed
  | carriageReturn
  | pair
  deriving DecidableEq, Repr

/-- The characters of a line end. -/
def LineEnd.text : LineEnd → Text
  | lineFeed => ['\n']
  | carriageReturn => ['\r']
  | pair => ['\r', '\n']

namespace Text

/-! ### Splitting step by step -/

theorem splitLines_cons_of_not_lineEnd {d : Char} (hd : ¬ (d = '\r' ∨ d = '\n')) (cs : Text) :
    splitLines (d :: cs) = pushFirst d (splitLines cs) := by
  rw [splitLines, if_neg hd]
  rintro cs' rfl
  exact absurd (Or.inl rfl) hd

theorem splitLines_cons_of_lineEnd {d : Char} {cs : Text} (hd : d = '\r' ∨ d = '\n')
    (hpair : ∀ es, d = '\r' → cs ≠ '\n' :: es) : splitLines (d :: cs) = [] :: splitLines cs := by
  rw [splitLines, if_pos hd]
  rintro es rfl heq
  exact hpair es rfl heq

theorem splitLines_lineFeed_cons (cs : Text) : splitLines ('\n' :: cs) = [] :: splitLines cs :=
  splitLines_cons_of_lineEnd (Or.inr rfl) fun _ hreturn => by simp at hreturn

theorem splitLines_ne_nil (text : Text) : splitLines text ≠ [] := by
  fun_induction splitLines text with
  | case1 | case2 | case3 => exact List.cons_ne_nil _ _
  | case4 c cs _ _ ih =>
    cases hlines : splitLines cs with
    | nil => exact absurd hlines ih
    | cons => exact List.cons_ne_nil _ _

/-- Characters that end no line stand in front of the first line. -/
theorem splitLines_append_of_not_mem {line text first : Text} {lines : List Text}
    (hline : '\r' ∉ line ∧ '\n' ∉ line) (htext : splitLines text = first :: lines) :
    splitLines (line ++ text) = (line ++ first) :: lines := by
  induction line with
  | nil => exact htext
  | cons c line ih =>
    obtain ⟨hreturn, hfeed⟩ := hline
    have hc : ¬ (c = '\r' ∨ c = '\n') := by
      rintro (rfl | rfl)
      · exact hreturn List.mem_cons_self
      · exact hfeed List.mem_cons_self
    have htail := ih ⟨fun h => hreturn (List.mem_cons_of_mem c h),
      fun h => hfeed (List.mem_cons_of_mem c h)⟩
    rw [List.cons_append, splitLines_cons_of_not_lineEnd hc, htail]
    rfl

/-- A line end ends an empty line, unless the text behind it makes it part of a pair. -/
theorem splitLines_lineEnd_append {lineEnd : LineEnd} {text : Text}
    (h : lineEnd = .carriageReturn → text.head? ≠ some '\n') :
    splitLines (lineEnd.text ++ text) = [] :: splitLines text := by
  cases lineEnd with
  | lineFeed => exact splitLines_lineFeed_cons text
  | carriageReturn =>
    refine splitLines_cons_of_lineEnd (Or.inl rfl) fun es _ heq => h rfl ?_
    exact List.head?_eq_some_iff.mpr ⟨es, heq⟩
  | pair => exact splitLines.eq_2 text

/-! ### The only splitting -/

/-- A first line, and further lines behind their line ends. -/
def joinLines (first : Text) (rest : List (LineEnd × Text)) : Text :=
  first ++ rest.flatMap fun next => next.1.text ++ next.2

/-- A text is a first line and further lines, each with the end of the line before it. Lines hold
no line ends, and no pair has been taken apart. -/
structure SplitsInto (text first : Text) (rest : List (LineEnd × Text)) : Prop where
  joined : joinLines first rest = text
  plain : ∀ line ∈ first :: rest.map (·.2), '\r' ∉ line ∧ '\n' ∉ line
  unpaired : rest.IsChain fun next later =>
    ¬ (next.1 = .carriageReturn ∧ next.2 = [] ∧ later.1 = .lineFeed)

theorem joinLines_cons (first : Text) (next : LineEnd × Text) (rest : List (LineEnd × Text)) :
    joinLines first (next :: rest) = first ++ (next.1.text ++ joinLines next.2 rest) := by
  simp [joinLines]

theorem joinLines_cons_left (c : Char) (first : Text) (rest : List (LineEnd × Text)) :
    joinLines (c :: first) rest = c :: joinLines first rest := rfl

/-- A text begins with a line feed if its first line is empty and ends with one. -/
theorem head?_joinLines {first : Text} {rest : List (LineEnd × Text)} (hfirst : '\n' ∉ first) :
    (joinLines first rest).head? = some '\n' ↔
      first = [] ∧ ∃ line others, rest = (.lineFeed, line) :: others := by
  cases first with
  | cons c first =>
    have hc : c ≠ '\n' := by
      rintro rfl
      exact hfirst List.mem_cons_self
    simp [joinLines_cons_left, hc]
  | nil =>
    cases rest with
    | nil => simp [joinLines]
    | cons next rest =>
      obtain ⟨lineEnd, line⟩ := next
      cases lineEnd <;> simp [joinLines, LineEnd.text]

namespace SplitsInto

variable {text first : Text} {rest : List (LineEnd × Text)}

theorem nil : SplitsInto [] [] [] := by
  refine ⟨rfl, ?_, List.IsChain.nil⟩
  simp

/-- One more character in the first line. -/
theorem cons {c : Char} (hc : ¬ (c = '\r' ∨ c = '\n')) (h : SplitsInto text first rest) :
    SplitsInto (c :: text) (c :: first) rest := by
  refine ⟨by rw [joinLines_cons_left, h.joined], ?_, h.unpaired⟩
  intro line hline
  rcases List.mem_cons.mp hline with rfl | hline
  · obtain ⟨hreturn, hfeed⟩ := h.plain first List.mem_cons_self
    simp only [List.mem_cons, not_or]
    exact ⟨⟨fun heq => hc (Or.inl heq.symm), hreturn⟩, fun heq => hc (Or.inr heq.symm), hfeed⟩
  · exact h.plain line (List.mem_cons_of_mem first hline)

/-- One more line end, in front of all lines. -/
theorem lineEnd (h : SplitsInto text first rest) (lineEnd : LineEnd)
    (hpair : lineEnd = .carriageReturn → text.head? ≠ some '\n') :
    SplitsInto (lineEnd.text ++ text) [] ((lineEnd, first) :: rest) := by
  have hfirst := h.plain first List.mem_cons_self
  refine ⟨by rw [joinLines_cons, h.joined, List.nil_append], fun line hline => ?_, ?_⟩
  · rcases List.mem_cons.mp hline with rfl | hline
    · simp
    · exact h.plain line hline
  · refine List.isChain_cons.mpr ⟨fun next hnext => ?_, h.unpaired⟩
    rintro ⟨hreturn, hempty, hfeed⟩
    -- a line feed comes next, which belongs to the carriage return
    obtain ⟨lineEnd', line⟩ := next
    obtain ⟨others, rfl⟩ := List.head?_eq_some_iff.mp hnext
    obtain rfl : lineEnd' = .lineFeed := hfeed
    apply hpair hreturn
    rw [← h.joined]
    exact (head?_joinLines hfirst.2).mpr ⟨hempty, line, others, rfl⟩

/-- What follows the first line end is split by the rules, too. -/
theorem tail {next : LineEnd × Text} (h : SplitsInto text first (next :: rest)) :
    SplitsInto (joinLines next.2 rest) next.2 rest ∧
      (next.1 = .carriageReturn → (joinLines next.2 rest).head? ≠ some '\n') := by
  obtain ⟨hhead, htail⟩ := List.isChain_cons.mp h.unpaired
  have hrest : SplitsInto (joinLines next.2 rest) next.2 rest :=
    ⟨rfl, fun line hline => h.plain line (List.mem_cons_of_mem first hline), htail⟩
  refine ⟨hrest, ?_⟩
  -- else the next line is empty and ends with a line feed, and a pair has been taken apart
  intro hreturn hfeed
  obtain ⟨hempty, line, others, rfl⟩ :=
    (head?_joinLines (hrest.plain next.2 List.mem_cons_self).2).mp hfeed
  exact hhead (.lineFeed, line) rfl ⟨hreturn, hempty, rfl⟩

/-- A text that is split by the rules has the lines of this splitting. -/
theorem splitLines_eq (h : SplitsInto text first rest) :
    splitLines text = first :: rest.map (·.2) := by
  have hfirst := h.plain first List.mem_cons_self
  induction rest generalizing text first with
  | nil =>
    have hline : splitLines [] = [] :: [] := rfl
    have hsplit := splitLines_append_of_not_mem hfirst hline
    rw [List.append_nil] at hsplit
    rw [← h.joined, joinLines, List.flatMap_nil, List.append_nil, hsplit, List.map_nil]
  | cons next rest ih =>
    obtain ⟨hrest, hpair⟩ := h.tail
    rw [← h.joined, joinLines_cons, splitLines_append_of_not_mem hfirst
      (splitLines_lineEnd_append hpair), ih hrest (hrest.plain next.2 List.mem_cons_self),
      List.append_nil, List.map_cons]

end SplitsInto

/-- Every text can be split by the rules. -/
theorem exists_splitsInto (text : Text) : ∃ first rest, SplitsInto text first rest := by
  fun_induction splitLines text with
  | case1 => exact ⟨[], [], .nil⟩
  | case2 cs ih =>
    obtain ⟨first, rest, h⟩ := ih
    exact ⟨[], (.pair, first) :: rest, h.lineEnd .pair nofun⟩
  | case3 c cs hpair hc ih =>
    obtain ⟨first, rest, h⟩ := ih
    rcases hc with rfl | rfl
    · refine ⟨[], (.carriageReturn, first) :: rest, h.lineEnd .carriageReturn ?_⟩
      intro _ hfeed
      obtain ⟨es, rfl⟩ := List.head?_eq_some_iff.mp hfeed
      exact hpair es rfl rfl
    · exact ⟨[], (.lineFeed, first) :: rest, h.lineEnd .lineFeed nofun⟩
  | case4 c cs _ hc ih =>
    obtain ⟨first, rest, h⟩ := ih
    exact ⟨c :: first, rest, h.cons hc⟩

/-- The lines of a text are those into which the rules split it. -/
theorem splitLines_eq_iff {text : Text} {lines : List Text} :
    splitLines text = lines ↔
      ∃ first rest, SplitsInto text first rest ∧ lines = first :: rest.map (·.2) := by
  constructor
  · rintro rfl
    obtain ⟨first, rest, h⟩ := exists_splitsInto text
    exact ⟨first, rest, h, h.splitLines_eq⟩
  · rintro ⟨first, rest, h, rfl⟩
    exact h.splitLines_eq

/-! ### Other line ends -/

/-- The lines of a text do not depend on which line ends it has. -/
theorem splitLines_unifyLineEnds (text : Text) :
    splitLines (unifyLineEnds text) = splitLines text := by
  fun_induction unifyLineEnds text with
  | case1 => rfl
  | case2 cs ih => rw [splitLines_lineFeed_cons, ih, splitLines]
  | case3 c cs hpair ih =>
    by_cases hc : c = '\r' ∨ c = '\n'
    · have hlineFeed : (if c = '\r' then '\n' else c) = '\n' := by
        rcases hc with rfl | rfl <;> rfl
      rw [hlineFeed, splitLines_lineFeed_cons, ih,
        splitLines_cons_of_lineEnd hc fun es hreturn => hpair es hreturn]
    · have hkeep : (if c = '\r' then '\n' else c) = c := if_neg fun h => hc (Or.inl h)
      rw [hkeep, splitLines_cons_of_not_lineEnd hc, splitLines_cons_of_not_lineEnd hc, ih]

/-- What stands above a line feed has its own lines, and what follows has the others. -/
theorem exists_splitLines_append (above : Text) :
    ∃ lines, lines ≠ [] ∧ ∀ below,
      splitLines (above ++ '\n' :: below) = lines ++ splitLines below := by
  fun_induction splitLines above with
  | case1 => exact ⟨[[]], List.cons_ne_nil _ _, splitLines_lineFeed_cons⟩
  | case2 cs ih =>
    obtain ⟨lines, -, hlines⟩ := ih
    refine ⟨[] :: lines, List.cons_ne_nil _ _, ?_⟩
    intro below
    rw [List.cons_append, List.cons_append, splitLines, hlines, List.cons_append]
  | case3 c cs hpair hc ih =>
    obtain ⟨lines, -, hlines⟩ := ih
    by_cases hlast : c = '\r' ∧ cs = []
    · -- the line feed is the second half of a pair
      obtain ⟨rfl, rfl⟩ := hlast
      exact ⟨[[]], List.cons_ne_nil _ _, fun below => splitLines.eq_2 below⟩
    · refine ⟨[] :: lines, List.cons_ne_nil _ _, ?_⟩
      intro below
      have hpair' : ∀ es, c = '\r' → cs ++ '\n' :: below ≠ '\n' :: es := by
        rintro es rfl heq
        cases cs with
        | nil => exact hlast ⟨rfl, rfl⟩
        | cons d cs =>
          obtain rfl : d = '\n' := (List.cons.inj heq).1
          exact hpair cs rfl rfl
      rw [List.cons_append, splitLines_cons_of_lineEnd hc hpair', hlines, List.cons_append]
  | case4 c cs _ hc ih =>
    obtain ⟨lines, hne, hlines⟩ := ih
    obtain ⟨first, others, rfl⟩ := List.exists_cons_of_ne_nil hne
    refine ⟨(c :: first) :: others, List.cons_ne_nil _ _, ?_⟩
    intro below
    rw [List.cons_append, splitLines_cons_of_not_lineEnd hc, hlines]
    rfl

end Text

end Indentation
