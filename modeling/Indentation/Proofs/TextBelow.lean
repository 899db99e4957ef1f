import Indentation.Proofs.CaretContext
import Indentation.Proofs.LineEnds

/-!
# The text below

What is told of a line does not depend on the lines below it. Lexing goes from the top, a decision
looks at one line, and the context of a range at the lines of its two ends and the one above. So two
documents with the same first lines answer alike whatever is asked of these lines, and by then they
have still the same first lines.

A line feed closes the lines above it: no text behind it can make a longer line of them, nor a pair
of the line feed. Two texts that begin alike up to a line feed have the same first lines.

## Main definitions

* `Text.closedLines` — the number of lines that have an end
* `Document.Determined` — a question whose answer depends on the first lines only

## Main results

* `Document.Determined.bind` — questions that are put together
* `Document.determined_extractContext` — the context of a range in the first lines
* `Document.continues_append` — documents that begin with the same closed lines
* `Document.answers_above_lineFeed` — answers about the lines above a line feed
-/

namespace Indentation

/-- The number of lines that have an end. -/
def Text.closedLines (text : Text) : Nat :=
  text.splitLines.length - 1

namespace Document

/-- The document has a line with this number. -/
def Holds (document : Document) (line : Int) : Prop :=
  1 ≤ line ∧ line ≤ document.lineCount

/-! ### Answers that depend on the first lines -/

/-- All documents that begin like `top` answer a question alike, and begin like `top` afterwards. -/
def Determined {α : Type} (top : Document) (fetch : Fetch Fault Document α) : Prop :=
  ∃ answer, ∀ document, top.Continues document →
    ∃ after, fetch.exec document = (.ok answer, after) ∧ top.Continues after

section Determined

variable {α β : Type} {top : Document}

theorem determined_pure (a : α) : top.Determined (pure a) :=
  ⟨a, Fetch.gives_pure a⟩

/-- The second question is asked of documents that still begin alike. -/
theorem Determined.bind {fetch : Fetch Fault Document α} {next : α → Fetch Fault Document β}
    (h : top.Determined fetch) (hnext : ∀ a, top.Determined (next a)) :
    top.Determined (fetch >>= next) := by
  obtain ⟨a, hfetch⟩ := h
  obtain ⟨b, hb⟩ := hnext a
  exact ⟨b, Fetch.Gives.bind hfetch hb⟩

theorem Determined.answer_eq {fetch : Fetch Fault Document α} (h : top.Determined fetch)
    {document other : Document} (hdocument : top.Continues document)
    (hother : top.Continues other) :
    ∃ answer, fetch.answer document = .ok answer ∧ fetch.answer other = .ok answer := by
  obtain ⟨answer, hanswer⟩ := h
  have hgives : fetch.Gives top.Continues answer := hanswer
  exact ⟨answer, hgives.answer_eq hdocument, hgives.answer_eq hother⟩

end Determined

section Sources

variable {top : Document} {line : Int}

theorem Holds.index? (h : top.Holds line) : top.index? line = .ok (line - 1).toNat := by
  have hrange : 1 ≤ line ∧ line ≤ top.lineCount := h
  rw [Document.index?, if_pos hrange]

/-- A line that the document has is one of those that it serves. -/
theorem Holds.exists_served (h : top.Holds line) :
    ∃ (index : Nat) (tokens : TokenizedLine), line = index + 1 ∧
      (top.lexed.map (·.1))[index]? = some tokens := by
  obtain ⟨tokens, state, hlexed⟩ := exists_lexed h.index?
  refine ⟨_, tokens, (index?_eq_ok_iff.mp h.index?).1, ?_⟩
  rw [List.getElem?_map, hlexed]
  rfl

theorem determined_tokens (h : top.Holds line) : top.Determined (source.tokens line) := by
  obtain ⟨index, tokens, rfl, hserved⟩ := h.exists_served
  exact ⟨tokens, top.serves.tokens index tokens hserved⟩

theorem determined_demand (h : top.Holds line) : top.Determined (source.demand line) := by
  obtain ⟨index, tokens, rfl, hserved⟩ := h.exists_served
  exact ⟨tokens, top.serves.demand hserved⟩

theorem determined_decideLine (h : top.Holds line) (registry : Registry)
    (indent? : Option Text) : top.Determined (decideLine source registry line indent?) := by
  apply (determined_demand h).bind
  intro tokens
  have hsanitize : top.Determined (sanitizeLine source registry line indent?) :=
    (determined_tokens h).bind fun _ => determined_pure _
  exact hsanitize.bind fun _ => determined_pure _

/-- The context of a range does not reach below its last line. -/
theorem determined_extractContext {range : Range} (hstart : top.Holds range.start.line)
    (hstop : top.Holds range.stop.line) (registry : Registry) :
    top.Determined (extractContext source registry range) := by
  obtain ⟨index, line, hline, hserved⟩ := hstart.exists_served
  obtain ⟨stop, last, hlast, hserved'⟩ := hstop.exists_served
  exact ⟨_, top.serves.gives_extractContext registry hline hserved hlast hserved'⟩

end Sources

/-! ### Documents above a line feed -/

/-- The lines of a text that ends with a line feed, without the empty line behind it. -/
def closed (text : Text) (language : String) (registry : Registry) : Document :=
  { registry, language, lines := text.splitLines.take text.closedLines }

variable {text : Text} {language : String} {registry : Registry}

theorem lineCount_closed : (closed text language registry).lineCount = text.closedLines := by
  rw [lineCount, closed, List.length_take, Text.closedLines]
  omega

/-- A text that goes on behind a line feed keeps the lines in front of it. -/
theorem continues_append (hend : text.getLast? = some '\n') (below : Text) :
    (closed text language registry).Continues (ofText (text ++ below) language registry) := by
  refine ⟨rfl, rfl, ?_, faithful_ofText ..⟩
  obtain ⟨above, rfl⟩ := List.getLast?_eq_some_iff.mp hend
  obtain ⟨lines, -, hlines⟩ := Text.exists_splitLines_append above
  have hlength : (Text.splitLines (above ++ ['\n'])).length = lines.length + 1 := by
    rw [hlines, List.length_append]
    rfl
  change (Text.splitLines (above ++ ['\n'])).take (Text.closedLines (above ++ ['\n'])) <+:
    Text.splitLines (above ++ ['\n'] ++ below)
  rw [Text.closedLines, hlength, hlines, Nat.add_sub_cancel, List.take_left, List.append_assoc,
    List.singleton_append, hlines]
  exact List.prefix_append lines _

/-- About the lines above a line feed a document gives the same answers whatever stands below: the
tokens of a line, the decisions about it with any margin, and the context of a caret or a selection
between these lines. -/
theorem answers_above_lineFeed (registry : Registry) (language : String) (text below other : Text)
    (hend : text.getLast? = some '\n') :
    let document := ofText (text ++ below) language registry
    let document' := ofText (text ++ other) language registry
    (∀ line : Int, 1 ≤ line → line ≤ text.closedLines →
      (∃ tokens, (Document.tokens line).answer document = .ok tokens ∧
        (Document.tokens line).answer document' = .ok tokens) ∧
      ∀ indent?, ∃ decisions,
        decideText (text ++ below) line language registry indent? = .ok decisions ∧
          decideText (text ++ other) line language registry indent? = .ok decisions) ∧
    ∀ range : Range, 1 ≤ range.start.line → range.start.line ≤ text.closedLines →
      1 ≤ range.stop.line → range.stop.line ≤ text.closedLines →
      ∃ context, (extractContext source registry range).answer document = .ok context ∧
        (extractContext source registry range).answer document' = .ok context := by
  intro document document'
  have hdocument : (closed text language registry).Continues document := continues_append hend below
  have hother : (closed text language registry).Continues document' := continues_append hend other
  have hholds : ∀ line : Int, 1 ≤ line → line ≤ text.closedLines →
      (closed text language registry).Holds line := by
    intro line hfirst hlast
    exact ⟨hfirst, by rwa [lineCount_closed]⟩
  constructor
  · intro line hfirst hlast
    have hline := hholds line hfirst hlast
    refine ⟨(determined_tokens hline).answer_eq hdocument hother, ?_⟩
    intro indent?
    exact (determined_decideLine hline registry indent?).answer_eq hdocument hother
  · intro range hfirst hlast hfirst' hlast'
    have hstart := hholds _ hfirst hlast
    have hstop := hholds _ hfirst' hlast'
    exact (determined_extractContext hstart hstop registry).answer_eq hdocument hother

/-- A comment that is open at the end of the second line is closed below or not. -/
theorem answers_above_lineFeed_open_comment :
    let text : Text := "a\r/* (\r\n".toList
    text.getLast? = some '\n' ∧ (2 : Int) ≤ text.closedLines ∧
      ∃ context,
        (extractContext source .builtin (.between 1 1 2 3)).answer
          (ofText (text ++ "\n*/".toList) "css" .builtin) = .ok context ∧
        (extractContext source .builtin (.between 1 1 2 3)).answer
          (ofText (text ++ []) "css" .builtin) = .ok context := by
  intro text
  have hend : text.getLast? = some '\n' := by decide
  have hclosed : (2 : Int) ≤ text.closedLines := by decide
  have hanswers := (answers_above_lineFeed .builtin "css" text "\n*/".toList [] hend).2
  exact ⟨hend, hclosed, hanswers (.between 1 1 2 3) (by decide) (by decide) (by decide) (by decide)⟩

end Document

end Indentation
