import Indentation.Proofs.Outcomes
import Indentation.Proofs.Selections

/-!
# The order of selections

A range runs forward if its start does not stand behind its end. The command line and the editor
both turn a request into a range before they ask the document for its context, and both refuse a
line that the document has not.

The command line also refuses a selection that runs backward, whichever of its numbers are given and
whichever are filled in. The editor does not look at the order: it asks for the context of every
selection between places that its codec takes. So a selection from a line back to an earlier one
runs backward and has a context, whatever the codec makes of its counts.

## Main definitions

* `Range.IsForward` — the start of a range does not stand behind its end
* `Cli.Request.AsksFor`, `Cli.Request.Refused` — the range that a request means, or why it has none
* `Editor.Point` — a place as an editor gives it
* `Editor.Point.LeadsTo`, `Editor.Point.Refused` — what the editor makes of it
* `Editor.Spans` — a range lies between two places

## Main results

* `Cli.selectRange_or_refused` — which ranges the command line takes
* `Editor.findContext_or_refused` — which ranges the editor takes
* `selections_handed_over` — the ranges whose context is asked for
-/

namespace Indentation

open Config (bind_of_ok)
open Cli (bind_of_error)

namespace Range

/-- The start of a range does not stand behind its end. -/
def IsForward (range : Range) : Prop :=
  range.start.line < range.stop.line ∨
    range.start.line = range.stop.line ∧ range.start.column ≤ range.stop.column

instance (range : Range) : Decidable range.IsForward :=
  inferInstanceAs (Decidable (_ ∨ _))

theorem isForward_of_eq {range : Range} (h : range.start = range.stop) : range.IsForward := by
  right
  rw [h]
  exact ⟨rfl, Int.le_refl _⟩

theorem not_isForward_of_line_lt {range : Range} (h : range.stop.line < range.start.line) :
    ¬ range.IsForward := by
  rintro (hlt | ⟨heq, -⟩) <;> omega

end Range

namespace Document

variable {document : Document} {line : Int}

theorem Holds.exists_maxColumn (h : document.Holds line) :
    ∃ column, document.maxColumn line = .ok column := by
  obtain ⟨text, htext⟩ := h.exists_content
  exact ⟨_, bind_of_ok htext⟩

theorem maxColumn_of_not_holds (h : ¬ document.Holds line) :
    document.maxColumn line = .error ⟨line, document.lineCount⟩ := by
  rw [maxColumn, content, index?_eq_error h]
  rfl

/-- A range in the lines of a document has a context. -/
theorem exists_context {range : Range} (hdocument : document.Faithful)
    (hstart : document.Holds range.start.line) (hstop : document.Holds range.stop.line)
    (registry : Registry) :
    ∃ context, (extractContext source registry range).answer document = .ok context := by
  obtain ⟨context, -, -, -, -, hcontext, -⟩ :=
    hdocument.exists_context_clampColumns registry hstart (.inr hstop)
  exact ⟨context, hcontext⟩

end Document

/-! ### The command line -/

namespace Cli

open Document

variable {document : Document} {request : Request} {range : Range} {failure : Failure}
  {maxColumn maxEndColumn : Int}

/-- The line on which the range of a request ends. -/
def Request.endLine (request : Request) : Int :=
  request.arguments.endLine.getD request.line

/-- The range of a request, where the columns behind the last characters of its two lines are given.
Without an end it is a caret. -/
def Request.rangeWithin (request : Request) (maxColumn maxEndColumn : Int) : Range :=
  let start : Position := ⟨request.line, request.arguments.column.getD maxColumn⟩
  if request.arguments.endLine = none ∧ request.arguments.endColumn = none then
    ⟨start, start⟩
  else
    ⟨start, ⟨request.endLine, request.arguments.endColumn.getD maxEndColumn⟩⟩

/-- A request asks for a range in the lines of a document. -/
def Request.AsksFor (request : Request) (document : Document) (range : Range) : Prop :=
  ∃ maxColumn maxEndColumn, document.maxColumn request.line = .ok maxColumn ∧
    document.maxColumn request.endLine = .ok maxEndColumn ∧
    range = request.rangeWithin maxColumn maxEndColumn

theorem Request.AsksFor.holds (h : request.AsksFor document range) :
    document.Holds range.start.line ∧ document.Holds range.stop.line := by
  obtain ⟨maxColumn, maxEndColumn, hstart, hstop, rfl⟩ := h
  have hline := holds_of_maxColumn hstart
  have hend := holds_of_maxColumn hstop
  rw [rangeWithin]
  split
  · exact ⟨hline, hline⟩
  · exact ⟨hline, hend⟩

theorem Request.exists_asksFor (hline : document.Holds request.line)
    (hend : document.Holds request.endLine) : ∃ range, request.AsksFor document range := by
  obtain ⟨maxColumn, hstart⟩ := hline.exists_maxColumn
  obtain ⟨maxEndColumn, hstop⟩ := hend.exists_maxColumn
  exact ⟨_, maxColumn, maxEndColumn, hstart, hstop, rfl⟩

/-- The range of a request is taken if it runs forward, and refused otherwise. -/
theorem Request.AsksFor.selectRange_eq (h : request.AsksFor document range) :
    selectRange document request = if range.IsForward then .ok range else .error .reversed := by
  obtain ⟨maxColumn, maxEndColumn, hstart, hstop, rfl⟩ := h
  have hstop' : document.maxColumn (request.arguments.endLine.getD request.line) =
      .ok maxEndColumn := hstop
  rw [selectRange]
  dsimp only
  rw [bind_of_ok (checkLine_eq_ok.mpr hstart), bind_of_ok (checkLine_eq_ok.mpr hstop')]
  -- a caret runs forward, and is not compared with anything
  by_cases hcaret : request.arguments.endLine = none ∧ request.arguments.endColumn = none
  · have hrange : request.rangeWithin maxColumn maxEndColumn =
        .caret request.line (request.arguments.column.getD maxColumn) := if_pos hcaret
    rw [hrange, if_pos (Range.isForward_of_eq rfl), hcaret.1, hcaret.2, Option.getD_none,
      if_neg (Int.lt_irrefl _)]
    rfl
  · have hrange : request.rangeWithin maxColumn maxEndColumn =
        .between request.line (request.arguments.column.getD maxColumn) request.endLine
          (request.arguments.endColumn.getD maxEndColumn) := if_neg hcaret
    have hnone : ¬ (request.arguments.endLine.isNone && request.arguments.endColumn.isNone) =
        true := by simpa using hcaret
    rw [hrange, if_neg hnone, Request.endLine]
    generalize request.arguments.endLine.getD request.line = endLine,
      request.arguments.endColumn.getD maxEndColumn = endColumn,
      request.arguments.column.getD maxColumn = column
    have hiff : (Range.between request.line column endLine endColumn).IsForward ↔
        request.line < endLine ∨ request.line = endLine ∧ column ≤ endColumn := Iff.rfl
    by_cases hforward : (Range.between request.line column endLine endColumn).IsForward
    · have hle := hiff.mp hforward
      have hline : ¬ endLine < request.line := by omega
      have hcolumn : ¬ (endLine = request.line ∧ endColumn < column) := by omega
      rw [if_pos hforward, if_neg hline, if_neg hcolumn]
      rfl
    · -- the lines are compared first, and the columns only on one line
      have hlt := mt hiff.mpr hforward
      rw [if_neg hforward]
      by_cases hline : endLine < request.line
      · rw [if_pos hline]
        rfl
      · have hcolumn : endLine = request.line ∧ endColumn < column := by omega
        rw [if_neg hline, if_pos hcolumn]
        rfl

/-- Why the range of a request is refused. -/
inductive Request.Refused (request : Request) (document : Document) : Failure → Prop where
  | missing {line : Int} (hline : line = request.line ∨ line = request.endLine)
      (hmissing : ¬ document.Holds line) :
      Refused request document (.lineOutOfRange ⟨line, document.lineCount⟩)
  | reversed {range : Range} (hasks : request.AsksFor document range)
      (hbackward : ¬ range.IsForward) : Refused request document .reversed

theorem checkLine_maxColumn_of_not_holds {line : Int} (h : ¬ document.Holds line) :
    checkLine (document.maxColumn line) =
      .error (.lineOutOfRange ⟨line, document.lineCount⟩) := by
  rw [maxColumn_of_not_holds h]
  rfl

/-- The command line takes a range that runs forward in the lines of the document, and refuses all
else. -/
theorem selectRange_or_refused (document : Document) (request : Request) :
    (∃ range, request.AsksFor document range ∧ range.IsForward ∧
        selectRange document request = .ok range) ∨
      ∃ failure, request.Refused document failure ∧
        selectRange document request = .error failure := by
  by_cases hline : document.Holds request.line
  · by_cases hend : document.Holds request.endLine
    · obtain ⟨range, hasks⟩ := Request.exists_asksFor hline hend
      rw [hasks.selectRange_eq]
      by_cases hforward : range.IsForward
      · exact .inl ⟨range, hasks, hforward, if_pos hforward⟩
      · exact .inr ⟨_, .reversed hasks hforward, if_neg hforward⟩
    · obtain ⟨maxColumn, hmax⟩ := hline.exists_maxColumn
      refine .inr ⟨_, .missing (.inr rfl) hend, ?_⟩
      rw [selectRange]
      dsimp only
      rw [bind_of_ok (checkLine_eq_ok.mpr hmax)]
      exact bind_of_error (checkLine_maxColumn_of_not_holds hend)
  · exact .inr ⟨_, .missing (.inl rfl) hline,
      bind_of_error (checkLine_maxColumn_of_not_holds hline)⟩

end Cli

/-! ### The editor -/

namespace Editor

open Document

/-- A place as an editor gives it: a line and the units in front of it, both counted from 0. -/
structure Point where
  line : Int
  character : Int
  deriving DecidableEq, Repr

namespace Point

variable (point start : Point)

/-- The end of a selection that begins at a point. Unless both numbers of an end are given, it is a
caret. -/
def endOr (endLine? endCharacter? : Option Int) : Point :=
  endLine?.elim start fun endLine =>
    endCharacter?.elim start fun endCharacter => ⟨endLine, endCharacter⟩

/-- A point leads to the position on its line behind the characters that the codec tells. -/
structure LeadsTo (codec : Codec) (text : Text) (position : Position) : Prop where
  line_eq : position.line = point.line + 1
  column_eq : ∃ characters : Nat,
    codec text point.line.toNat point.character = .ok characters ∧
      position.column = characters + 1

/-- Why a point is refused: the document has not its line, or the codec does not take it. -/
inductive Refused (codec : Codec) (text : Text) (document : Document) : Fault → Prop where
  | line (h : ¬ document.Holds (point.line + 1)) :
      Refused codec text document (.lineOutOfRange point.line document.lineCount)
  | character {reason : Breakdown}
      (h : codec text point.line.toNat point.character = .error reason) :
      Refused codec text document (.breakdown reason)

variable {point} {document : Document} {codec : Codec} {text : Text} {position : Position}

theorem checkLine_of_holds_succ (h : document.Holds (point.line + 1)) :
    checkLine document point.line = .ok point.line.toNat := by
  have hcheck := checkLine_of_holds h
  rwa [Int.add_sub_cancel] at hcheck

theorem checkLine_of_not_holds (h : ¬ document.Holds (point.line + 1)) :
    checkLine document point.line = .error (.lineOutOfRange point.line document.lineCount) := by
  apply if_neg
  rintro ⟨hfirst, hlast⟩
  exact h ⟨by omega, by omega⟩

theorem LeadsTo.findColumn_eq (h : point.LeadsTo codec text position) :
    findColumn codec text point.line.toNat point.character = .ok position.column := by
  obtain ⟨characters, hcodec, hcolumn⟩ := h.column_eq
  rw [findColumn, hcodec, hcolumn]

theorem findColumn_of_error {reason : Breakdown}
    (h : codec text point.line.toNat point.character = .error reason) :
    findColumn codec text point.line.toNat point.character = .error (.breakdown reason) := by
  rw [findColumn, h]

/-- A point that the codec takes leads to a position. -/
theorem exists_leadsTo_or_error (codec : Codec) (text : Text) (point : Point) :
    (∃ position, point.LeadsTo codec text position) ∨
      ∃ reason, codec text point.line.toNat point.character = .error reason := by
  cases hcodec : codec text point.line.toNat point.character with
  | ok characters => exact .inl ⟨⟨point.line + 1, characters + 1⟩, rfl, characters, hcodec, rfl⟩
  | error reason => exact .inr ⟨reason, rfl⟩

theorem LeadsTo.holds_iff (h : point.LeadsTo codec text position) :
    document.Holds position.line ↔ document.Holds (point.line + 1) := by
  rw [h.line_eq]

theorem LeadsTo.unique {other : Position} (h : point.LeadsTo codec text position)
    (h' : point.LeadsTo codec text other) : position = other := by
  obtain ⟨characters, hcodec, hcolumn⟩ := h.column_eq
  obtain ⟨characters', hcodec', hcolumn'⟩ := h'.column_eq
  have hcharacters : characters = characters' := Except.ok.inj (hcodec.symm.trans hcodec')
  have hline : position.line = other.line := h.line_eq.trans h'.line_eq.symm
  have hcolumn : position.column = other.column := by rw [hcolumn, hcolumn', hcharacters]
  cases position
  cases other
  exact congr (congrArg Position.mk hline) hcolumn

end Point

/-- A range in the lines of a document lies between the positions of two points. -/
structure Spans (codec : Codec) (text : Text) (document : Document) (start stop : Point)
    (range : Range) : Prop where
  start : start.LeadsTo codec text range.start
  stop : stop.LeadsTo codec text range.stop
  holds_start : document.Holds range.start.line
  holds_stop : document.Holds range.stop.line

namespace Spans

variable {codec : Codec} {text : Text} {document : Document} {start stop : Point} {range : Range}

theorem isForward_of_line_lt (h : Spans codec text document start stop range)
    (hlt : start.line < stop.line) : range.IsForward := by
  left
  rw [h.start.line_eq, h.stop.line_eq]
  omega

theorem not_isForward_of_line_lt (h : Spans codec text document start stop range)
    (hlt : stop.line < start.line) : ¬ range.IsForward := by
  apply Range.not_isForward_of_line_lt
  rw [h.start.line_eq, h.stop.line_eq]
  omega

theorem start_eq_stop (h : Spans codec text document start stop range) (hcaret : stop = start) :
    range.start = range.stop :=
  h.start.unique (hcaret ▸ h.stop)

end Spans

variable {tools : Config.Tools} {files : FileSystem} {workspace : Workspace} {uri text : Text}
  {registry : Registry}

/-- A caret is the selection from a point to itself. -/
theorem findContext_caret_eq (hregistry : loadRegistry tools files workspace = .ok registry)
    (htext : readText files workspace uri = .ok text) (start : Point) :
    findContext tools files workspace uri start.line start.character none none =
      findContext tools files workspace uri start.line start.character (some start.line)
        (some start.character) := by
  rw [findContext, findContext, bind_of_ok hregistry, bind_of_ok hregistry, bind_of_ok htext,
    bind_of_ok htext]
  dsimp only
  -- what is looked for twice is found twice
  cases checkLine (ofText text (chooseLanguage workspace registry uri) registry) start.line with
  | error fault => rfl
  | ok index =>
    cases hcolumn : findColumn workspace.codec text index start.character with
    | error fault => simp [hcolumn, bind, Except.bind]
    | ok column => simp [hcolumn, bind, Except.bind, Range.caret, Range.between]

/-- The editor takes every selection between two points that it can look for, whatever their order,
and refuses the others. -/
theorem findContext_selection_or_refused
    (hregistry : loadRegistry tools files workspace = .ok registry)
    (htext : readText files workspace uri = .ok text) (start stop : Point) :
    let document := ofText text (chooseLanguage workspace registry uri) registry
    let result := findContext tools files workspace uri start.line start.character (some stop.line)
      (some stop.character)
    (∃ range, Spans workspace.codec text document start stop range ∧
        result = askDocument document (extractContext source registry range)) ∨
      ∃ fault, (start.Refused workspace.codec text document fault ∨
        stop.Refused workspace.codec text document fault) ∧ result = .error fault := by
  intro document result
  have hresult : result = checkLine document start.line >>= fun index =>
      checkLine document stop.line >>= fun last =>
        findColumn workspace.codec text index start.character >>= fun column =>
          findColumn workspace.codec text last stop.character >>= fun endColumn =>
            askDocument document (extractContext source registry
              (.between (start.line + 1) column (stop.line + 1) endColumn)) := by
    dsimp only [result]
    rw [findContext, bind_of_ok hregistry, bind_of_ok htext]
    dsimp only
    simp only [pure_bind]
    rfl
  rw [hresult]
  -- the lines are looked at before the counts
  by_cases hline : document.Holds (start.line + 1)
  · rw [bind_of_ok (Point.checkLine_of_holds_succ hline)]
    by_cases hend : document.Holds (stop.line + 1)
    · rw [bind_of_ok (Point.checkLine_of_holds_succ hend)]
      rcases start.exists_leadsTo_or_error workspace.codec text with
        ⟨first, hfirst⟩ | ⟨reason, hreason⟩
      · rw [bind_of_ok hfirst.findColumn_eq]
        rcases stop.exists_leadsTo_or_error workspace.codec text with
          ⟨last, hlast⟩ | ⟨reason, hreason⟩
        · rw [bind_of_ok hlast.findColumn_eq, ← hfirst.line_eq, ← hlast.line_eq]
          exact .inl ⟨⟨first, last⟩, ⟨hfirst, hlast, hfirst.holds_iff.mpr hline,
            hlast.holds_iff.mpr hend⟩, rfl⟩
        · exact .inr ⟨_, .inr (.character hreason),
            bind_of_error (Point.findColumn_of_error hreason)⟩
      · exact .inr ⟨_, .inl (.character hreason),
          bind_of_error (Point.findColumn_of_error hreason)⟩
    · exact .inr ⟨_, .inr (.line hend), bind_of_error (Point.checkLine_of_not_holds hend)⟩
  · exact .inr ⟨_, .inl (.line hline), bind_of_error (Point.checkLine_of_not_holds hline)⟩

/-- The editor takes every range between two points that it can look for, and refuses all else. -/
theorem findContext_or_refused (hregistry : loadRegistry tools files workspace = .ok registry)
    (htext : readText files workspace uri = .ok text) (start : Point)
    (endLine? endCharacter? : Option Int) :
    let document := ofText text (chooseLanguage workspace registry uri) registry
    let stop := start.endOr endLine? endCharacter?
    let result := findContext tools files workspace uri start.line start.character endLine?
      endCharacter?
    (∃ range, Spans workspace.codec text document start stop range ∧
        result = askDocument document (extractContext source registry range)) ∨
      ∃ fault, (start.Refused workspace.codec text document fault ∨
        stop.Refused workspace.codec text document fault) ∧ result = .error fault := by
  have hcaret := findContext_selection_or_refused hregistry htext start start
  rw [← findContext_caret_eq hregistry htext] at hcaret
  cases endLine? with
  | none => exact hcaret
  | some endLine =>
    cases endCharacter? with
    | none => exact hcaret
    | some endCharacter =>
      exact findContext_selection_or_refused hregistry htext start ⟨endLine, endCharacter⟩

end Editor

/-! ### Both surfaces -/

/-- The command line asks a document for the context of the range of a request if it runs forward
in the lines of the document, and refuses every other request as wrong usage. The editor asks for
the context of every range between points that it can look for, with any codec. A caret is one. If
the end is on a later line than the start, the range runs forward. If it is on an earlier line, the
range runs backward and has a context all the same. -/
theorem selections_handed_over (text : Text) (language : String) (registry : Registry)
    (tools : Config.Tools) (files : FileSystem) :
    let document := Document.ofText text language registry
    (∀ (request : Cli.Request) (indent? : Option Text),
      Cli.Understands tools files request registry language indent? →
      files.HoldsText request.inputPath text →
      (∃ range answer, request.AsksFor document range ∧ range.IsForward ∧
        document.Holds range.start.line ∧ document.Holds range.stop.line ∧
        Cli.buildReport tools files request = .ok answer ∧
        document.Tells registry request.line indent? range answer.report) ∨
      ∃ failure, request.Refused document failure ∧ failure.exit = .returned 2 ∧
        Cli.buildReport tools files request = .error failure) ∧
    ∀ (workspace : Editor.Workspace) (uri : Text),
      Editor.loadRegistry tools files workspace = .ok registry →
      Editor.chooseLanguage workspace registry uri = language →
      Editor.readText files workspace uri = .ok text →
      ∀ (start : Editor.Point) (endLine? endCharacter? : Option Int),
        let stop := start.endOr endLine? endCharacter?
        let result := Editor.findContext tools files workspace uri start.line start.character
          endLine? endCharacter?
        (∃ range context, Editor.Spans workspace.codec text document start stop range ∧
          result = .ok context ∧
          (extractContext Document.source registry range).answer document = .ok context ∧
          (stop = start → range.start = range.stop) ∧
          (start.line < stop.line → range.IsForward) ∧
          (stop.line < start.line → ¬ range.IsForward)) ∨
        ∃ fault, (start.Refused workspace.codec text document fault ∨
          stop.Refused workspace.codec text document fault) ∧ result = .error fault := by
  intro document
  constructor
  · intro request indent? hunderstands htext
    rcases Cli.selectRange_or_refused document request with
      ⟨range, hasks, hforward, hrange⟩ | ⟨failure, hrefused, hrange⟩
    · have hselects : Cli.Selects tools files request registry language indent? text range :=
        ⟨hunderstands, htext, hrange⟩
      obtain ⟨answer, hbuild, htells⟩ := hselects.exists_answer
      obtain ⟨hstart, hstop⟩ := hasks.holds
      exact .inl ⟨range, answer, hasks, hforward, hstart, hstop, hbuild, htells⟩
    · have hfails : Cli.Fails tools files request failure := .range hunderstands htext hrange
      exact .inr ⟨failure, hrefused, Cli.exit_of_selectRange hrange, hfails.buildReport_eq⟩
  · rintro workspace uri hregistry rfl htext start endLine? endCharacter? stop result
    rcases Editor.findContext_or_refused hregistry htext start endLine? endCharacter? with
      ⟨range, hspans, hresult⟩ | hrefused
    · obtain ⟨context, hcontext⟩ := @Document.exists_context _ range
        (Document.faithful_ofText ..) hspans.holds_start hspans.holds_stop registry
      exact .inl ⟨range, context, hspans, hresult.trans (Editor.askDocument_of_answer hcontext),
        hcontext, hspans.start_eq_stop, hspans.isForward_of_line_lt,
        hspans.not_isForward_of_line_lt⟩
    · exact .inr hrefused

/-- A selection from the second line back to the first one, in units of the usual encoding: the
command line refuses it, the editor shows its context. -/
theorem selections_handed_over_backward :
    let text : Text := "ab\ncd".toList
    let files := FileTree.toFileSystem ⟨[([['a']], .file text.toUtf8)]⟩
    let request : Cli.Request :=
      ⟨{ input := some ['a'], line := some 2, endLine := some 1 }, ['a'], 2⟩
    let workspace := Editor.Workspace.put ['a'] ⟨"plaintext", text⟩ {}
    let document := Document.ofText text "plaintext" .builtin
    let range := Range.between 2 1 1 2
    Cli.Understands .standard files request .builtin "plaintext" none ∧
      files.HoldsText request.inputPath text ∧
      Cli.buildReport .standard files request = .error .reversed ∧
      Editor.loadRegistry .standard files workspace = .ok .builtin ∧
      Editor.chooseLanguage workspace .builtin ['a'] = "plaintext" ∧
      Editor.readText files workspace ['a'] = .ok text ∧ ¬ range.IsForward ∧
      ∃ context,
        Editor.findContext .standard files workspace ['a'] 1 0 (some 0) (some 1) = .ok context ∧
        (extractContext Document.source .builtin range).answer document = .ok context := by
  intro text files request workspace document range
  have hunderstands : Cli.Understands .standard files request .builtin "plaintext" none :=
    ⟨.absent rfl rfl, rfl, rfl⟩
  have htext : files.HoldsText request.inputPath text := rfl
  have hregistry : Editor.loadRegistry .standard files workspace = .ok .builtin := rfl
  have hlanguage : Editor.chooseLanguage workspace .builtin ['a'] = "plaintext" := by
    decide +kernel
  have hopen : Editor.readText files workspace ['a'] = .ok text := rfl
  have hfirst : document.Holds 1 := ⟨by decide, by decide⟩
  have hsecond : document.Holds 2 := ⟨by decide, by decide⟩
  -- the codec takes both ends
  have hstart : Editor.Point.LeadsTo ⟨1, 0⟩ workspace.codec text range.start :=
    ⟨rfl, 0, rfl, rfl⟩
  have hstop : Editor.Point.LeadsTo ⟨0, 1⟩ workspace.codec text range.stop :=
    ⟨rfl, 1, rfl, rfl⟩
  obtain ⟨hcli, heditor⟩ := selections_handed_over text "plaintext" .builtin .standard files
  have hbuild : Cli.buildReport .standard files request = .error .reversed := by
    rcases hcli request none hunderstands htext with
      ⟨_, _, ⟨maxColumn, maxEndColumn, -, -, rfl⟩, hforward, -⟩ | ⟨failure, hrefused, -, hbuild⟩
    · have hrange : request.rangeWithin maxColumn maxEndColumn =
          .between 2 maxColumn 1 maxEndColumn := rfl
      rw [hrange] at hforward
      exact absurd hforward (Range.not_isForward_of_line_lt (by simp [Range.between]))
    · cases hrefused with
      | missing hline hmissing =>
        rcases hline with rfl | rfl
        · exact absurd hsecond hmissing
        · exact absurd hfirst hmissing
      | reversed => exact hbuild
  rcases heditor workspace ['a'] hregistry hlanguage hopen ⟨1, 0⟩ (some 0) (some 1) with
    ⟨found, context, hspans, hfind, hcontext, -, -, hbackward⟩ | ⟨fault, hrefused, -⟩
  · -- each end leads to one position only
    have hfound : found = range := by
      cases found
      exact congr (congrArg Range.mk (hspans.start.unique hstart)) (hspans.stop.unique hstop)
    subst hfound
    exact ⟨hunderstands, htext, hbuild, hregistry, hlanguage, hopen, hbackward (by decide), context,
      hfind, hcontext⟩
  · rcases hrefused with hrefused | hrefused
    · cases hrefused with
      | line hline => exact absurd hsecond hline
      | character hcodec => cases hcodec
    · cases hrefused with
      | line hline => exact absurd hfirst hline
      | character hcodec => cases hcodec

end Indentation
