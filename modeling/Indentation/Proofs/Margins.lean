import Indentation.Cli.Indent
import Indentation.Proofs.TextBelow
import Mathlib.Data.List.TakeWhile

/-!
# Changing margins

The margin of a line is a part that can be read and replaced without touching the rest: what has been
put there is read back, only the last replacement shows, and putting back what is there changes
nothing. This holds for margins of spaces and tabs, and these are just what can be given on the
command line.

## Main definitions

* `Text.IsIndent` — a text of spaces and tabs
* `Cli.IndentItem` — a space, a tab, or a tab written as a backslash and the letter t

## Main results

* `Cli.readIndent_eq_ok_iff` — the texts that spell an indentation
* `Text.margin_reindent`, `Text.reindent_reindent`, `Text.reindent_margin` — the laws of replacing
* `answer_sanitizeLine` — the text of a line that is handed out
* `indents_are_margins` — the indentations that are accepted, and the lines that get them
-/

namespace Indentation

namespace Text

variable {indent : Text}

/-- A text of spaces and tabs. -/
def IsIndent (indent : Text) : Prop :=
  ∀ c ∈ indent, c = ' ' ∨ c = '\t'

theorem isMarginChar_iff {c : Char} : isMarginChar c = true ↔ c = ' ' ∨ c = '\t' := by
  simp [isMarginChar]

theorem isIndent_iff_all : indent.IsIndent ↔ indent.all isMarginChar = true := by
  simp only [IsIndent, List.all_eq_true, isMarginChar_iff]

/-! ### Reading and replacing the margin -/

/-- Behind the margin the line does not go on with spaces and tabs. -/
theorem head_dropWhile (line : Text) (hpos : 0 < (line.dropWhile isMarginChar).length) :
    ¬ isMarginChar ((line.dropWhile isMarginChar).get ⟨0, hpos⟩) :=
  List.dropWhile_get_zero_not isMarginChar line hpos

/-- A margin that has been put there is read back. -/
theorem margin_reindent (line : Text) (h : indent.IsIndent) :
    (line.reindent indent).margin = indent := by
  have hall : ∀ c ∈ indent, isMarginChar c = true := fun c hmem => isMarginChar_iff.mpr (h c hmem)
  have hrest : (line.dropWhile isMarginChar).takeWhile isMarginChar = [] :=
    List.takeWhile_eq_nil_iff.mpr line.head_dropWhile
  rw [margin, reindent, List.takeWhile_append_of_pos hall, hrest, List.append_nil]

/-- Of two margins that are put there, the first one leaves no trace. -/
theorem reindent_reindent (line other : Text) (h : indent.IsIndent) :
    (line.reindent indent).reindent other = line.reindent other := by
  have hall : ∀ c ∈ indent, isMarginChar c = true := fun c hmem => isMarginChar_iff.mpr (h c hmem)
  have hrest : (line.dropWhile isMarginChar).dropWhile isMarginChar = line.dropWhile isMarginChar :=
    List.dropWhile_eq_self_iff.mpr line.head_dropWhile
  rw [reindent, reindent, List.dropWhile_append_of_pos hall, hrest, reindent]

/-- Putting back the margin that is there changes nothing. -/
theorem reindent_margin (line : Text) : line.reindent line.margin = line :=
  List.takeWhile_append_dropWhile

end Text

/-! ### Indentations on the command line -/

namespace Cli

/-- What an indentation may be written with. -/
inductive IndentItem where
  | space
  | tab
  | escapedTab
  deriving DecidableEq, Repr

namespace IndentItem

/-- How an item is written. -/
def written : IndentItem → Text
  | space => [' ']
  | tab => ['\t']
  | escapedTab => ['\\', 't']

/-- The character that an item stands for. -/
def char : IndentItem → Char
  | space => ' '
  | tab | escapedTab => '\t'

end IndentItem

open IndentItem (written char)

theorem isIndent_map_char (items : List IndentItem) : Text.IsIndent (items.map char) := by
  intro c hmem
  obtain ⟨item, -, rfl⟩ := List.mem_map.mp hmem
  cases item <;> simp [char]

theorem expandTabs_flatMap_written (items : List IndentItem) :
    expandTabs (items.flatMap written) = items.map char := by
  induction items with
  | nil => rfl
  | cons item items ih => cases item <;> simp [expandTabs, written, char, ih]

/-- A text without anything but spaces and tabs after expanding was written with items. A backslash
that is not followed by the letter t stays, so that it cannot be there. -/
theorem exists_items_of_expandTabs {text : Text} (h : (expandTabs text).IsIndent) :
    ∃ items : List IndentItem, text = items.flatMap written := by
  fun_induction expandTabs text with
  | case1 => exact ⟨[], rfl⟩
  | case2 cs ih =>
    obtain ⟨items, rfl⟩ := ih fun c hmem => h c (List.mem_cons_of_mem _ hmem)
    exact ⟨.escapedTab :: items, rfl⟩
  | case3 c cs _ ih =>
    obtain ⟨items, rfl⟩ := ih fun d hmem => h d (List.mem_cons_of_mem _ hmem)
    rcases h c List.mem_cons_self with rfl | rfl
    · exact ⟨.space :: items, rfl⟩
    · exact ⟨.tab :: items, rfl⟩

/-- The texts that spell an indentation are the sequences of items, and they spell the characters
that these stand for. -/
theorem readIndent_eq_ok_iff {text indent : Text} :
    readIndent text = .ok indent ↔
      ∃ items : List IndentItem, text = items.flatMap written ∧ indent = items.map char := by
  rw [readIndent]
  constructor
  · intro h
    split at h
    · obtain rfl := Except.ok.inj h
      obtain ⟨items, rfl⟩ := exists_items_of_expandTabs (Text.isIndent_iff_all.mpr ‹_›)
      exact ⟨items, rfl, expandTabs_flatMap_written items⟩
    · cases h
  · rintro ⟨items, rfl, rfl⟩
    rw [expandTabs_flatMap_written, if_pos (Text.isIndent_iff_all.mp (isIndent_map_char items))]

end Cli

/-! ### Lines with a new margin -/

/-- A line that is handed out is sanitized, and then its margin is replaced. -/
theorem answer_sanitizeLine {ε σ : Type} {source : LineSource ε σ} {line : Int}
    {tokens : TokenizedLine} {state : σ} (h : (source.tokens line).answer state = .ok tokens)
    (registry : Registry) (indent? : Option Text) :
    (sanitizeLine source registry line indent?).answer state =
      .ok ((registry.sanitize tokens).reindent? indent?) := by
  have hexec : (source.tokens line).exec state =
      (.ok tokens, ((source.tokens line).exec state).2) := by
    rw [← h, Fetch.answer_eq_exec]
  rw [Fetch.answer_eq_exec, sanitizeLine, Fetch.exec_bind_of_ok hexec]
  rfl

/-- A document hands out every line that it holds, whatever it has been asked before. -/
theorem Document.Faithful.exists_tokens {document : Document} (h : document.Faithful) {line : Int}
    (hline : document.Holds line) :
    ∃ tokens, (Document.source.tokens line).answer document = .ok tokens := by
  obtain ⟨index, tokens, rfl, hserved⟩ := hline.exists_served
  exact ⟨tokens, (document.serves.tokens index tokens hserved).answer_eq h.continues⟩

/-- The indentations that are accepted are sequences of spaces and tabs, where a tab may be written
as a backslash and the letter t. For these the margin of a line is a part that is read and replaced
independently of the rest. So every line of a source, and every line that a document holds, gets the
indentation that is asked for when it is sanitized. -/
theorem indents_are_margins :
    (∀ text indent : Text, Cli.readIndent text = .ok indent ↔
      ∃ items : List Cli.IndentItem,
        text = items.flatMap (·.written) ∧ indent = items.map (·.char)) ∧
    (∀ text indent : Text, Cli.readIndent text = .ok indent → indent.IsIndent) ∧
    ∀ indent : Text, indent.IsIndent →
      (∀ line other : Text, (line.reindent indent).margin = indent ∧
        (line.reindent indent).reindent other = line.reindent other ∧
        line.reindent line.margin = line) ∧
      (∀ (ε σ : Type) (source : LineSource ε σ) (state : σ) (line : Int) (tokens : TokenizedLine),
        (source.tokens line).answer state = .ok tokens → ∀ registry, ∃ text,
          (sanitizeLine source registry line (some indent)).answer state = .ok text ∧
            text.margin = indent) ∧
      ∀ (document : Document) (line : Int), document.Faithful → document.Holds line →
        ∀ registry, ∃ text,
          (sanitizeLine Document.source registry line (some indent)).answer document = .ok text ∧
            text.margin = indent := by
  have hsource {indent : Text} (hindent : indent.IsIndent) {ε σ : Type} (source : LineSource ε σ)
      (state : σ) (line : Int) (tokens : TokenizedLine)
      (h : (source.tokens line).answer state = .ok tokens) (registry : Registry) : ∃ text,
        (sanitizeLine source registry line (some indent)).answer state = .ok text ∧
          text.margin = indent :=
    ⟨_, answer_sanitizeLine h registry (some indent), Text.margin_reindent _ hindent⟩
  refine ⟨fun text indent => Cli.readIndent_eq_ok_iff, fun text indent h => ?_,
    fun indent hindent => ⟨fun line other => ?_, fun _ _ => hsource hindent,
      fun document line hfaithful hline => ?_⟩⟩
  · obtain ⟨items, -, rfl⟩ := Cli.readIndent_eq_ok_iff.mp h
    exact Cli.isIndent_map_char items
  · exact ⟨Text.margin_reindent line hindent, Text.reindent_reindent line other hindent,
      Text.reindent_margin line⟩
  · obtain ⟨tokens, htokens⟩ := hfaithful.exists_tokens hline
    exact hsource hindent Document.source document line tokens htokens

/-- An indentation of a space, a tab and a written tab, and a line whose margin shows only when the
bracket in front of the blanks is erased: as a given line, and as the second line of a document. -/
theorem indents_are_margins_behind_bracket :
    let document := Document.ofText "/*\n( \tx".toList "javascript" .builtin
    Cli.readIndent " \t\\t".toList = .ok " \t\t".toList ∧
    Text.IsIndent " \t\t".toList ∧
    Text.margin (Text.reindent "\t x".toList " \t\t".toList) = " \t\t".toList ∧
    (GivenLines.source.tokens 1).answer
      ⟨[⟨"( \tx".toList, ⟨.comment, "javascript"⟩, []⟩], []⟩ =
      .ok ⟨"( \tx".toList, ⟨.comment, "javascript"⟩, []⟩ ∧
    (∃ text, (sanitizeLine GivenLines.source .builtin 1 (some " \t\t".toList)).answer
        ⟨[⟨"( \tx".toList, ⟨.comment, "javascript"⟩, []⟩], []⟩ = .ok text ∧
      text.margin = " \t\t".toList) ∧
    document.Faithful ∧ document.Holds 2 ∧
    ∃ text, (sanitizeLine Document.source .builtin 2 (some " \t\t".toList)).answer document =
        .ok text ∧ text.margin = " \t\t".toList := by
  intro document
  obtain ⟨hread, haccepted, hlaws⟩ := indents_are_margins
  have hindent : Cli.readIndent " \t\\t".toList = .ok " \t\t".toList :=
    (hread _ _).mpr ⟨[.space, .tab, .escapedTab], by decide, by decide⟩
  have his := haccepted _ _ hindent
  obtain ⟨hlens, hsource, hdocument⟩ := hlaws _ his
  have htokens : (GivenLines.source.tokens 1).answer
      ⟨[⟨"( \tx".toList, ⟨.comment, "javascript"⟩, []⟩], []⟩ =
      .ok ⟨"( \tx".toList, ⟨.comment, "javascript"⟩, []⟩ := rfl
  have hfaithful : document.Faithful := Document.faithful_ofText ..
  have hholds : document.Holds 2 := ⟨by decide, by decide⟩
  exact ⟨hindent, his, (hlens _ []).1, htokens, hsource _ _ _ _ 1 _ htokens .builtin, hfaithful,
    hholds, hdocument document 2 hfaithful hholds .builtin⟩

end Indentation
