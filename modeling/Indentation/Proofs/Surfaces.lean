import Indentation.Cli
import Indentation.Editor.Workspace
import Indentation.Proofs.ReferentialIntegrity
import Indentation.Proofs.TextBelow

/-!
# Surfaces that agree

The command line reads a file and writes a line feed for every line end; an editor hands over the
text as it is. Since the lines do not depend on which line ends a text has, both ask a document with
the same lines, and everything that they tell of a line is the same: its text, the decisions about
it, and the context of a range.

The command line puts its questions one after the other to one document. That does not show either:
each gets the answer that it would get alone.

## Main definitions

* `Report.decisions`, `Report.context` — the parts of a report
* `Document.Tells` — a report holds what a document answers to single questions

## Main results

* `Document.ofText_unifyLineEnds` — a document does not depend on the line ends of its text
* `Cli.holds_of_selectRange` — a selection lies in the document
* `Cli.exists_answer` — questions that are put one after the other
* `Cli.buildReport_of_decoded` — the report on a file
* `surfaces_agree` — lines, and what is told of them
-/

namespace Indentation

namespace Report

/-- The report on a line with its text, the decisions about it and a context. -/
def ofParts (line : Int) (text : Text) (decisions : Decisions) (context : Context) : Report where
  line := line
  text := text
  sanitized := decisions.text
  increase := decisions.increase
  decrease := decisions.decrease
  ignore := decisions.ignore
  indentNextLine := decisions.indentNextLine
  before := context.before
  after := context.after
  previousLine := context.previousLine

/-- What a report says about the decisions. -/
def decisions (report : Report) : Decisions :=
  ⟨report.sanitized, report.increase, report.decrease, report.ignore, report.indentNextLine⟩

/-- What a report says about the context. -/
def context (report : Report) : Context :=
  ⟨report.before, report.after, report.previousLine⟩

end Report

namespace Document

open Config (bind_eq_ok)

/-- A report on a line and a range holds what a document answers, each question asked alone. -/
structure Tells (document : Document) (registry : Registry) (line : Int) (indent? : Option Text)
    (range : Range) (report : Report) : Prop where
  line_eq : report.line = line
  content : document.content line = .ok report.text
  decisions : (decideLine source registry line indent?).answer document = .ok report.decisions
  context : (extractContext source registry range).answer document = .ok report.context

theorem ofText_unifyLineEnds (text : Text) (language : String) (registry : Registry) :
    ofText text.unifyLineEnds language registry = ofText text language registry := by
  rw [ofText, ofText, Text.splitLines_unifyLineEnds]

section Questions

variable {document top : Document} {line : Int}

theorem Holds.exists_content (h : document.Holds line) :
    ∃ text, document.content line = .ok text := by
  rw [content, h.index?]
  exact ⟨_, rfl⟩

theorem holds_of_maxColumn {column : Int} (h : document.maxColumn line = .ok column) :
    document.Holds line := by
  rw [maxColumn, content] at h
  obtain ⟨text, htext, -⟩ := bind_eq_ok.mp h
  obtain ⟨index, hindex, -⟩ := bind_eq_ok.mp htext
  obtain ⟨rfl, hlt⟩ := index?_eq_ok_iff.mp hindex
  exact ⟨by omega, by omega⟩

theorem Continues.content_eq (h : top.Continues document) (hline : top.Holds line) :
    document.content line = top.content line := by
  have hlt := (index?_eq_ok_iff.mp hline.index?).2
  obtain ⟨below, hlines⟩ := h.lines_begin
  rw [content, content, h.index?_eq hline.index?, hline.index?, ← hlines]
  change Except.ok ((top.lines ++ below)[(line - 1).toNat]?.getD []) = _
  rw [List.getElem?_append_left hlt]
  rfl

end Questions

end Document

/-! ### The command line -/

namespace Cli

open Document
open Config (bind_eq_ok bind_of_ok)

variable {tools : Config.Tools} {document : Document} {request : Request} {registry : Registry}
  {range : Range}

theorem checkLine_eq_ok {α : Type} {result : Except Document.Fault α} {a : α} :
    checkLine result = .ok a ↔ result = .ok a := by
  cases result <;> simp [checkLine]

/-- The range of a request starts on the line of the request, and the document has both its
lines. -/
theorem holds_of_selectRange (h : selectRange document request = .ok range) :
    range.start.line = request.line ∧ document.Holds range.start.line ∧
      document.Holds range.stop.line := by
  obtain ⟨maxColumn, hstart, h⟩ := bind_eq_ok.mp h
  obtain ⟨maxEndColumn, hstop, h⟩ := bind_eq_ok.mp h
  have hline := holds_of_maxColumn (checkLine_eq_ok.mp hstart)
  have hend := holds_of_maxColumn (checkLine_eq_ok.mp hstop)
  dsimp only at h
  split at h
  · cases h
  · split at h
    · obtain rfl := Except.ok.inj h
      exact ⟨rfl, hline, hline⟩
    · split at h
      · cases h
      · obtain rfl := Except.ok.inj h
        exact ⟨rfl, hline, hend⟩

/-- Without an end a request asks about a caret on its line. -/
theorem selectRange_of_holds (hline : document.Holds request.line)
    (hend : request.arguments.endLine = none) (hcolumn : request.arguments.endColumn = none) :
    ∃ column, selectRange document request = .ok (.caret request.line column) := by
  obtain ⟨text, htext⟩ := hline.exists_content
  have hmax : checkLine (document.maxColumn request.line) = .ok ((text.length : Int) + 1) := by
    rw [maxColumn, bind_of_ok htext]
    rfl
  refine ⟨request.arguments.column.getD ((text.length : Int) + 1), ?_⟩
  rw [selectRange, hend, hcolumn]
  dsimp only
  rw [Option.getD_none, bind_of_ok hmax, bind_of_ok hmax, if_neg (Int.lt_irrefl _)]
  rfl

/-- Put to one document one after the other, the questions have the answers that they have
alone. -/
theorem exists_answer (hdocument : document.Faithful) (hline : document.Holds range.start.line)
    (hstop : document.Holds range.stop.line) (indent? : Option Text) :
    ∃ answer, (askDocument registry range.start.line indent? range).answer document = .ok answer ∧
      document.Tells registry range.start.line indent? range answer.report := by
  have hsame := hdocument.continues
  obtain ⟨decisions, hdecisions⟩ := determined_decideLine hline registry indent?
  obtain ⟨context, hcontext⟩ := determined_extractContext hline hstop registry
  obtain ⟨tokens, htokens⟩ : document.Determined (Document.tokens range.start.line) :=
    determined_tokens hline
  obtain ⟨text, htext⟩ := hline.exists_content
  -- each question leaves a document that begins like the first one, and so has all its lines
  obtain ⟨second, hexec, hsecond⟩ := hdecisions document hsame
  obtain ⟨third, hexec', hthird⟩ := hcontext second hsecond
  obtain ⟨last, hexec'', hlast⟩ := htokens third hthird
  obtain ⟨_, halone, -⟩ := hcontext document hsame
  have hget : (get : Fetch Document.Fault Document Document).exec last = (.ok last, last) := rfl
  have hlift : (liftM (last.content range.start.line) : Fetch Document.Fault Document Text).exec
      last = (.ok text, last) := by
    rw [hlast.content_eq hline, htext]
    rfl
  have hanswer : (askDocument registry range.start.line indent? range).answer document =
      .ok { report := Report.ofParts range.start.line text decisions context
            listing := tokens.listing range.start.line ++
              (tokens.scopeAt (range.start.column - 1)).listing } := by
    rw [Fetch.answer_eq_exec, askDocument, Fetch.exec_bind_of_ok hexec,
      Fetch.exec_bind_of_ok hexec', Fetch.exec_bind_of_ok hexec'', Fetch.exec_bind_of_ok hget,
      Fetch.exec_bind_of_ok hlift]
    rfl
  exact ⟨_, hanswer, rfl, htext, congrArg Prod.fst hexec, congrArg Prod.fst halone⟩

/-- The report on a file that holds a text is what the document of this text tells, whichever line
ends it has. -/
theorem buildReport_of_decoded {files : FileSystem} {language : String} {indent? : Option Text}
    {bytes : List UInt8} {text : Text} (hregistry : loadRegistry tools files request = .ok registry)
    (hlanguage : chooseLanguage registry request = .ok language)
    (hindent : chooseIndent request = .ok indent?)
    (hread : files.read request.inputPath = .ok bytes) (hdecode : Text.ofUtf8 bytes = .ok text) :
    buildReport tools files request =
      selectRange (ofText text language registry) request >>= fun range =>
        checkLine ((askDocument registry request.line indent? range).answer
          (ofText text language registry)) := by
  have hinput : readInput files request = .ok text.unifyLineEnds := by
    rw [readInput, hread]
    dsimp only
    rw [hdecode]
  rw [buildReport, bind_of_ok hregistry, bind_of_ok hlanguage, bind_of_ok hindent,
    bind_of_ok hinput, ofText_unifyLineEnds]

end Cli

/-! ### The editor -/

namespace Editor

open Document
open Config (bind_of_ok)

variable {tools : Config.Tools} {files : FileSystem} {workspace : Workspace} {uri text : Text}
  {registry : Registry}

theorem checkLine_of_holds {document : Document} {line : Int} (h : document.Holds line) :
    checkLine document (line - 1) = .ok (line - 1).toNat := by
  obtain ⟨hfirst, hlast⟩ := h
  rw [checkLine, if_pos]
  omega

/-- The decisions that the editor shows are those of the document of its text. -/
theorem processLine_of_holds (hregistry : loadRegistry tools files workspace = .ok registry)
    (htext : readText files workspace uri = .ok text) {line : Int}
    (hline : (ofText text (chooseLanguage workspace registry uri) registry).Holds line)
    (indent? : Option Text) :
    processLine tools files workspace uri (line - 1) indent? =
      askDocument (ofText text (chooseLanguage workspace registry uri) registry)
        (decideLine source registry line indent?) := by
  have hcheck := checkLine_of_holds hline
  rw [processLine, bind_of_ok hregistry, bind_of_ok htext]
  dsimp only
  rw [bind_of_ok hcheck, Int.sub_add_cancel]

/-- The context that the editor shows for a selection is that of the document of its text. -/
theorem findContext_of_holds (hregistry : loadRegistry tools files workspace = .ok registry)
    (htext : readText files workspace uri = .ok text) {range : Range} {character last : Int}
    (hstart : (ofText text (chooseLanguage workspace registry uri) registry).Holds range.start.line)
    (hstop : (ofText text (chooseLanguage workspace registry uri) registry).Holds range.stop.line)
    (hcolumn : findColumn workspace.codec text (range.start.line - 1).toNat character =
      .ok range.start.column)
    (hlast : findColumn workspace.codec text (range.stop.line - 1).toNat last =
      .ok range.stop.column) :
    findContext tools files workspace uri (range.start.line - 1) character
        (some (range.stop.line - 1)) (some last) =
      askDocument (ofText text (chooseLanguage workspace registry uri) registry)
        (extractContext source registry range) := by
  have hcheck := checkLine_of_holds hstart
  have hcheck' := checkLine_of_holds hstop
  rw [findContext, bind_of_ok hregistry, bind_of_ok htext]
  dsimp only
  rw [bind_of_ok hcheck, bind_of_ok hcheck', bind_of_ok hcolumn, bind_of_ok hlast,
    Int.sub_add_cancel, Int.sub_add_cancel]
  rfl

theorem askDocument_of_answer {α : Type} {document : Document}
    {question : Fetch Document.Fault Document α} {answer : α}
    (h : question.answer document = .ok answer) : askDocument document question = .ok answer := by
  rw [askDocument, h]

end Editor

/-! ### All surfaces -/

/-- A text is its lines with their ends between them, and the lines do not depend on the ends. So
the report on a file that holds the text is what the document of the text itself tells, and what an
editor shows that has the text open. -/
theorem surfaces_agree (text : Text) :
    (∃ first rest, text.SplitsInto first rest ∧ text.splitLines = first :: rest.map (·.2)) ∧
    text.unifyLineEnds.splitLines = text.splitLines ∧
    ∀ (tools : Config.Tools) (registry : Registry) (language : String) (files : FileSystem)
      (request : Cli.Request) (indent? : Option Text) (bytes : List UInt8),
      Cli.loadRegistry tools files request = .ok registry →
      Cli.chooseLanguage registry request = .ok language →
      Cli.chooseIndent request = .ok indent? →
      files.read request.inputPath = .ok bytes → Text.ofUtf8 bytes = .ok text →
      let document := Document.ofText text language registry
      (document.Holds request.line → request.arguments.endLine = none →
        request.arguments.endColumn = none →
        ∃ column, Cli.selectRange document request = .ok (.caret request.line column)) ∧
      (∀ failure, Cli.selectRange document request = .error failure →
        Cli.buildReport tools files request = .error failure) ∧
      ∀ range, Cli.selectRange document request = .ok range →
        ∃ answer, Cli.buildReport tools files request = .ok answer ∧
          document.Tells registry request.line indent? range answer.report ∧
          ∀ (files' : FileSystem) (workspace : Editor.Workspace) (uri : Text),
            Editor.loadRegistry tools files' workspace = .ok registry →
            Editor.chooseLanguage workspace registry uri = language →
            Editor.readText files' workspace uri = .ok text →
            Editor.processLine tools files' workspace uri (request.line - 1) indent? =
              .ok answer.report.decisions ∧
            ∀ character last,
              Editor.findColumn workspace.codec text (range.start.line - 1).toNat character =
                .ok range.start.column →
              Editor.findColumn workspace.codec text (range.stop.line - 1).toNat last =
                .ok range.stop.column →
              Editor.findContext tools files' workspace uri (range.start.line - 1) character
                (some (range.stop.line - 1)) (some last) = .ok answer.report.context := by
  refine ⟨Text.splitLines_eq_iff.mp rfl, Text.splitLines_unifyLineEnds text, ?_⟩
  intro tools registry language files request indent? bytes hregistry hlanguage hindent hread
    hdecode document
  have hbuild := Cli.buildReport_of_decoded hregistry hlanguage hindent hread hdecode
  refine ⟨Cli.selectRange_of_holds, ?_, ?_⟩
  · intro failure hfailure
    rw [hbuild, hfailure]
    rfl
  · intro range hrange
    obtain ⟨hline, hstart, hstop⟩ := Cli.holds_of_selectRange hrange
    have hfaithful := Document.faithful_ofText text language registry
    obtain ⟨answer, hanswer, htells⟩ := @Cli.exists_answer document registry range hfaithful hstart
      hstop indent?
    rw [hline] at hanswer htells
    refine ⟨answer, ?_, htells, ?_⟩
    · rw [hbuild, Config.bind_of_ok hrange, hanswer]
      rfl
    · rintro files' workspace uri hregistry' rfl htext
      constructor
      · rw [Editor.processLine_of_holds hregistry' htext (hline ▸ hstart)]
        exact Editor.askDocument_of_answer htells.decisions
      · intro character last hcolumn hlast
        rw [Editor.findContext_of_holds hregistry' htext hstart hstop hcolumn hlast]
        exact Editor.askDocument_of_answer htells.context

/-- A file that ends a line with a carriage return and the next one with a pair. -/
theorem surfaces_agree_mixed_ends :
    let text : Text := "x\ry\r\n(".toList
    let bytes : List UInt8 := [0x78, 0x0D, 0x79, 0x0D, 0x0A, 0x28]
    let files := FileTree.toFileSystem ⟨[([['a']], .file bytes)]⟩
    let request : Cli.Request := ⟨{ input := some ['a'], line := some 3 }, ['a'], 3⟩
    let document := Document.ofText text "plaintext" .builtin
    Cli.loadRegistry .standard files request = .ok .builtin ∧
      Cli.chooseLanguage .builtin request = .ok "plaintext" ∧
      Cli.chooseIndent request = .ok none ∧
      files.read request.inputPath = .ok bytes ∧ Text.ofUtf8 bytes = .ok text ∧
      Cli.selectRange document request = .ok (.caret 3 2) ∧
      ∃ answer, Cli.buildReport .standard files request = .ok answer ∧
        document.Tells .builtin 3 none (.caret 3 2) answer.report := by
  intro text bytes files request document
  have hregistry : Cli.loadRegistry .standard files request = .ok .builtin := rfl
  have hlanguage : Cli.chooseLanguage .builtin request = .ok "plaintext" := rfl
  have hindent : Cli.chooseIndent request = .ok none := rfl
  have hread : files.read request.inputPath = .ok bytes := rfl
  have hdecode : Text.ofUtf8 bytes = .ok text := rfl
  have hrange : Cli.selectRange document request = .ok (.caret 3 2) := rfl
  obtain ⟨-, -, hsurfaces⟩ := surfaces_agree text
  obtain ⟨-, -, hreport⟩ := hsurfaces .standard .builtin "plaintext" files request none bytes
    hregistry hlanguage hindent hread hdecode
  obtain ⟨answer, hbuild, htells, -⟩ := hreport _ hrange
  exact ⟨hregistry, hlanguage, hindent, hread, hdecode, hrange, answer, hbuild, htells⟩

end Indentation
