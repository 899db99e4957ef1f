import Indentation.Proofs.ConfigShape
import Indentation.Sanitize
import Mathlib.Data.List.Forall2

/-!
# Changed languages

What the values in a configuration stand for, told without decoding: a *meaning* relates values to
texts, brackets, regions or rules. A decoder that accepts a value gives what the value stands for.

The table of a language replaces the components that it names by what their entries stand for, and
keeps the others. All tables are applied to one registry, but each only changes its own language, so
what a table starts from is the built-in language, or an empty one if there is none. Languages
without a table are the built-in ones.

## Main definitions

* `Config.Meaning` — what values stand for
* `Config.Decodes` — a decoder gives what its values stand for
* `Config.Overridden` — a component, after an entry that may be missing
* `Config.Overrides` — a language, after its table
* `Config.TableSpells` — a value is a table that can be decoded
* `Config.languageTable?` — the table of a language

## Main results

* `Config.overridden_of_decodeEntry` — an entry replaces its component or leaves it
* `Config.overrides_apply` — a decoded table changes what it names
* `Config.get?_of_foldlM`, `Config.get?_of_applyTables` — what is found after all tables are applied
* `Config.buildRegistry_overrides` — the languages of an accepted configuration
-/

namespace Indentation

/-! ### Entries of a table -/

namespace Toml

variable {table : Table} {name : String} {value : Value}

theorem lookup_isSome_iff : (table.lookup name).isSome = true ↔ name ∈ table.map (·.1) := by
  rw [List.lookup_isSome_iff, List.mem_map]
  exact exists_congr fun entry => and_congr_right fun _ => beq_iff_eq.trans eq_comm

theorem mem_of_lookup (h : table.lookup name = some value) : (name, value) ∈ table := by
  obtain ⟨before, behind, rfl, -⟩ := List.lookup_eq_some_iff.mp h
  exact List.mem_append_right before List.mem_cons_self

theorem lookup_of_mem (hnames : (table.map (·.1)).Nodup) (h : (name, value) ∈ table) :
    table.lookup name = some value := by
  obtain ⟨before, behind, rfl⟩ := List.append_of_mem h
  refine List.lookup_eq_some_iff.mpr ⟨before, behind, rfl, ?_⟩
  intro entry hentry
  rw [List.map_append, List.nodup_append] at hnames
  have hne := hnames.2.2 entry.1 (List.mem_map_of_mem hentry) name (by simp)
  simpa using hne.symm

end Toml

namespace Config

open Toml (Value Table)

/-- What values stand for. -/
abbrev Meaning (α : Type) := Value → α → Prop

namespace Meaning

/-- A text stands for itself. -/
def text : Meaning Text := fun value content =>
  value = .text content

/-- A condition stands for itself. -/
def boolean : Meaning Bool := fun value holds =>
  value = .boolean holds

/-- An array stands for what its items stand for, in their order. -/
def arrayOf {α : Type} (item : Meaning α) : Meaning (List α) := fun value results =>
  ∃ items, value = .array items ∧ List.Forall₂ item items results

/-- A side of a bracket: one spelling, or an array of them. -/
def bracketSide : Meaning (List Text) := fun value spellings =>
  (∃ spelling, text value spelling ∧ spellings = [spelling]) ∨ arrayOf text value spellings

/-- A bracket, as the array of its sides. -/
def bracketPair : Meaning BracketPair := fun value pair =>
  ∃ opens closes, value = .array [opens, closes] ∧ bracketSide opens pair.opens ∧
    bracketSide closes pair.closes

/-- Brackets. No pairs stand for no brackets. -/
def brackets : Meaning (Option (List BracketPair)) := fun value brackets? =>
  ∃ pairs, arrayOf bracketPair value pairs ∧ brackets? = if pairs = [] then none else some pairs

/-- Extensions, in any letter case and with or without their dots. -/
def extensions : Meaning (List Text) := fun value extensions =>
  ∃ texts, arrayOf text value texts ∧ extensions = texts.map normalExtension

/-- A block comment, as the array of its delimiters. -/
def blockComment : Meaning BlockComment := fun value comment =>
  value = .array [.text comment.opening, .text comment.closing]

/-- A region, as a table of its delimiters and its language. -/
def embedding : Meaning Embedding := fun value region =>
  ∃ table, value = .table table ∧ table.lookup "open" = some (.text region.opening) ∧
    table.lookup "close" = some (.text region.closing) ∧
    table.lookup "language" = some (.text region.language.toList)

/-- A pattern, as the text it is read from. -/
def pattern (compiler : Pattern.Compiler) : Meaning Pattern := fun value pattern =>
  ∃ source, value = .text source ∧ compiler source = .ok pattern

/-- Indentation rules, as a table of those that are there. -/
def rules (compiler : Pattern.Compiler) : Meaning IndentRules := fun value rules =>
  ∃ table, value = .table table ∧
    Option.Rel (pattern compiler) (table.lookup "increase") rules.increase ∧
    Option.Rel (pattern compiler) (table.lookup "decrease") rules.decrease ∧
    Option.Rel (pattern compiler) (table.lookup "indent_next_line") rules.indentNextLine ∧
    Option.Rel (pattern compiler) (table.lookup "unindented_line") rules.unindentedLine

/-- Something that may be missing, and is there. -/
def given {α : Type} (meaning : Meaning α) : Meaning (Option α) := fun value result =>
  ∃ a, meaning value a ∧ result = some a

end Meaning

/-! ### Decoders and meanings -/

/-- A decoder gives what the values that it accepts stand for. -/
def Decodes {α : Type} (decode : String → Value → Decode α) (meaning : Meaning α) : Prop :=
  ∀ key value a, decode key value = .ok a → meaning value a

variable {compiler : Pattern.Compiler}

section Decoders

variable {key : String} {value : Value}

theorem forall₂_of_mapM {α β ε : Type} {f : α → Except ε β} {items : List α} {results : List β}
    (h : items.mapM f = .ok results) :
    List.Forall₂ (fun item result => f item = .ok result) items results := by
  induction items generalizing results with
  | nil =>
    obtain rfl := Except.ok.inj h
    exact .nil
  | cons item items ih =>
    rw [List.mapM_cons] at h
    obtain ⟨first, hfirst, h⟩ := bind_eq_ok.mp h
    obtain ⟨others, hothers, h⟩ := bind_eq_ok.mp h
    obtain rfl := Except.ok.inj h
    exact .cons hfirst (ih hothers)

theorem arrayOf_text (texts : List Text) :
    Meaning.arrayOf Meaning.text (.array (texts.map .text)) texts := by
  refine ⟨_, rfl, ?_⟩
  rw [List.forall₂_map_left_iff, List.forall₂_same]
  exact fun _ _ => rfl

/-- A decoder for all items of an array. -/
theorem Decodes.items {α : Type} {decode : String → Value → Decode α} {item : Meaning α}
    (h : Decodes decode item) :
    Decodes (fun key value => decodeArray key value >>= fun items => items.mapM (decode key))
      (Meaning.arrayOf item) := by
  intro key value results hresults
  obtain ⟨items, hitems, hresults⟩ := bind_eq_ok.mp hresults
  cases value with
  | array values =>
    obtain rfl := Except.ok.inj hitems
    exact ⟨_, rfl, (forall₂_of_mapM hresults).imp fun value a => h key value a⟩
  | _ => cases hitems

theorem decodes_decodeTexts : Decodes decodeTexts (Meaning.arrayOf Meaning.text) := by
  intro key value texts h
  rw [eq_array_of_decodeTexts h]
  exact arrayOf_text texts

theorem decodes_decodeExtensions : Decodes decodeExtensions Meaning.extensions := by
  intro key value extensions h
  obtain ⟨texts, htexts, h⟩ := bind_eq_ok.mp h
  obtain rfl := Except.ok.inj h
  exact ⟨texts, decodes_decodeTexts key value texts htexts, rfl⟩

theorem decodes_decodeQuotes : Decodes decodeQuotes (Meaning.arrayOf Meaning.text) := by
  intro key value quotes h
  obtain ⟨texts, htexts, h⟩ := bind_eq_ok.mp h
  split at h
  · obtain rfl := Except.ok.inj h
    exact decodes_decodeTexts key value texts htexts
  · cases h

theorem decodes_decodeBoolean : Decodes decodeBoolean Meaning.boolean := by
  intro key value holds h
  cases value with
  | boolean =>
    obtain rfl := Except.ok.inj h
    rfl
  | _ => cases h

theorem bracketSide_of_bracketSide? {spellings : List Text}
    (h : bracketSide? value = some spellings) : Meaning.bracketSide value spellings := by
  unfold bracketSide? at h
  split at h
  · cases h
  · rw [eq_map_text_of_mapM h]
    exact .inr (arrayOf_text spellings)
  · obtain ⟨spelling, hspelling, rfl⟩ := Option.map_eq_some_iff.mp h
    exact .inl ⟨spelling, (nonEmptyText?_eq_some_iff.mp hspelling).1, rfl⟩

theorem decodes_decodeBracketPair : Decodes decodeBracketPair Meaning.bracketPair := by
  intro key value pair h
  unfold decodeBracketPair at h
  split at h
  · split at h
    · rename_i hopens hcloses
      obtain rfl := Except.ok.inj h
      exact ⟨_, _, rfl, bracketSide_of_bracketSide? hopens, bracketSide_of_bracketSide? hcloses⟩
    · cases h
  · cases h

theorem decodes_decodeBrackets : Decodes decodeBrackets Meaning.brackets := by
  intro key value brackets? h
  obtain ⟨items, hitems, h⟩ := bind_eq_ok.mp h
  obtain ⟨pairs, hpairs, h⟩ := bind_eq_ok.mp h
  obtain rfl := Except.ok.inj h
  refine ⟨pairs, decodes_decodeBracketPair.items key value pairs ?_, ?_⟩
  · exact bind_eq_ok.mpr ⟨items, hitems, hpairs⟩
  · simp only [List.isEmpty_iff]

theorem decodes_decodeBlockComment : Decodes decodeBlockComment Meaning.blockComment := by
  intro key value comment h
  unfold decodeBlockComment at h
  split at h
  · split at h
    · rename_i hopening hclosing
      obtain rfl := Except.ok.inj h
      rw [(nonEmptyText?_eq_some_iff.mp hopening).1, (nonEmptyText?_eq_some_iff.mp hclosing).1]
      rfl
    · cases h
  · cases h

theorem decodes_decodeEmbedding : Decodes decodeEmbedding Meaning.embedding := by
  intro key value region h
  unfold decodeEmbedding at h
  split at h
  · split at h
    · rename_i hopening hclosing hlanguage
      obtain rfl := Except.ok.inj h
      refine ⟨_, rfl, (textEntry?_eq_some_iff.mp hopening).1,
        (textEntry?_eq_some_iff.mp hclosing).1, ?_⟩
      rw [String.toList_ofList]
      exact (textEntry?_eq_some_iff.mp hlanguage).1
    · cases h
  · cases h

/-- A rule whose pattern has been read. -/
theorem rel_pattern {table : Table} {name : String} {source? : Option Text}
    {pattern? : Option Pattern} (hrule : decodeRule key table name = .ok source?)
    (hpattern : source?.mapM compiler = .ok pattern?) :
    Option.Rel (Meaning.pattern compiler) (table.lookup name) pattern? := by
  unfold decodeRule at hrule
  split at hrule
  · rename_i hlookup
    obtain rfl := Except.ok.inj hrule
    obtain rfl := Except.ok.inj hpattern
    rw [hlookup]
    exact .none
  · rename_i source hlookup
    obtain rfl := Except.ok.inj hrule
    rw [Option.mapM_some] at hpattern
    obtain ⟨pattern, hcompile, hpattern⟩ := bind_eq_ok.mp hpattern
    obtain rfl := Except.ok.inj hpattern
    rw [hlookup]
    exact .some ⟨source, rfl, hcompile⟩
  · cases hrule

theorem decodes_decodeRules : Decodes (decodeRules compiler) (Meaning.rules compiler) := by
  intro key value rules h
  cases value with
  | table table =>
    rw [decodeRules] at h
    cases hunknown : unknownName? ruleNames table with
    | some name =>
      rw [hunknown] at h
      cases h
    | none =>
      rw [hunknown] at h
      -- the rules are found one after the other, and then their patterns are read in this order
      obtain ⟨increase, hincrease, h⟩ := bind_eq_ok.mp h
      obtain ⟨decrease, hdecrease, h⟩ := bind_eq_ok.mp h
      obtain ⟨indentNextLine, hindentNextLine, h⟩ := bind_eq_ok.mp h
      obtain ⟨unindentedLine, hunindentedLine, h⟩ := bind_eq_ok.mp h
      split at h
      · rename_i compiled hcompile
        obtain rfl := Except.ok.inj h
        obtain ⟨_, hincrease', hcompile⟩ := bind_eq_ok.mp hcompile
        obtain ⟨_, hdecrease', hcompile⟩ := bind_eq_ok.mp hcompile
        obtain ⟨_, hindentNextLine', hcompile⟩ := bind_eq_ok.mp hcompile
        obtain ⟨_, hunindentedLine', hcompile⟩ := bind_eq_ok.mp hcompile
        obtain rfl := Except.ok.inj hcompile
        exact ⟨table, rfl, rel_pattern hincrease hincrease', rel_pattern hdecrease hdecrease',
          rel_pattern hindentNextLine hindentNextLine',
          rel_pattern hunindentedLine hunindentedLine'⟩
      · cases h
  | _ => cases h

end Decoders

/-! ### Tables -/

/-- A component after an entry that may be missing: what the entry stands for, or what it was. -/
def Overridden {α : Type} (meaning : Meaning α) (value? : Option Value) (old new : α) : Prop :=
  match value? with
  | none => new = old
  | some value => meaning value new

/-- A language after its table: each component that has an entry is what the entry stands for, and
each other one is what it was. -/
structure Overrides (compiler : Pattern.Compiler) (table : Table) (old new : Language) :
    Prop where
  brackets : Overridden .brackets (table.lookup "brackets") old.brackets new.brackets
  extensions : Overridden .extensions (table.lookup "extensions") old.extensions new.extensions
  lineComments : Overridden (.arrayOf .text) (table.lookup "line_comments")
    old.grammar.lineComments new.grammar.lineComments
  blockComments : Overridden (.arrayOf .blockComment) (table.lookup "block_comments")
    old.grammar.blockComments new.grammar.blockComments
  quotes : Overridden (.arrayOf .text) (table.lookup "quotes") old.grammar.quotes
    new.grammar.quotes
  regexLiterals : Overridden .boolean (table.lookup "regex_literals") old.grammar.regexLiterals
    new.grammar.regexLiterals
  embedded : Overridden (.arrayOf .embedding) (table.lookup "embedded") old.grammar.embedded
    new.grammar.embedded
  rules : Overridden (.given (.rules compiler)) (table.lookup "indentation") old.rules new.rules

section Tables

variable {key : String} {table : Table}

/-- An entry that has been decoded replaces its component, and a missing one leaves it. -/
theorem overridden_of_decodeEntry {α : Type} {name : String} {decode : String → Value → Decode α}
    {meaning : Meaning α} {change? : Option α} (hdecode : Decodes decode meaning)
    (h : decodeEntry key table name decode = .ok change?) (old : α) :
    Overridden meaning (table.lookup name) old (change?.getD old) := by
  cases change? with
  | none =>
    rw [lookup_of_decodeEntry h]
    rfl
  | some a =>
    obtain ⟨value, hlookup, hvalue⟩ := decodeEntry_eq_ok h
    rw [hlookup]
    exact hdecode _ value a hvalue

/-- A table that has been decoded changes the components that it names, and no other ones. -/
theorem overrides_apply {changes : Changes} (h : decodeChanges compiler key table = .ok changes)
    (old : Language) : Overrides compiler table old (changes.apply old) := by
  have hspells := spells_of_decodeChanges h
  refine ⟨overridden_of_decodeEntry decodes_decodeBrackets hspells.brackets _,
    overridden_of_decodeEntry decodes_decodeExtensions hspells.extensions _,
    overridden_of_decodeEntry decodes_decodeTexts hspells.lineComments _,
    overridden_of_decodeEntry decodes_decodeBlockComment.items hspells.blockComments _,
    overridden_of_decodeEntry decodes_decodeQuotes hspells.quotes _,
    overridden_of_decodeEntry decodes_decodeBoolean hspells.regexLiterals _,
    overridden_of_decodeEntry decodes_decodeEmbedding.items hspells.embedded _, ?_⟩
  -- rules may be missing in a language too, so they are given as a whole
  have hrules := hspells.rules
  change Overridden _ _ _ (changes.rules <|> old.rules)
  cases hchange : changes.rules with
  | none =>
    rw [hchange] at hrules
    rw [lookup_of_decodeEntry hrules]
    rfl
  | some rules =>
    rw [hchange] at hrules
    obtain ⟨value, hlookup, hvalue⟩ := decodeEntry_eq_ok hrules
    rw [hlookup]
    exact ⟨rules, decodes_decodeRules _ value rules hvalue, rfl⟩

/-- The array of no brackets switches brackets off. -/
theorem Overrides.brackets_eq_none {old new : Language} (h : Overrides compiler table old new)
    (hempty : table.lookup "brackets" = some (.array [])) : new.brackets = none := by
  have hbrackets := h.brackets
  rw [hempty] at hbrackets
  obtain ⟨pairs, ⟨items, hitems, hpairs⟩, hnew⟩ := hbrackets
  obtain rfl := Value.array.inj hitems
  rw [hnew, List.forall₂_nil_left_iff.mp hpairs, if_pos rfl]

end Tables

/-- The language that a table changes: the built-in one, or an empty one. -/
def baseLanguage (id : String) : Language :=
  (Registry.builtin.get? id).getD { id }

theorem id_baseLanguage (id : String) : (baseLanguage id).id = id := by
  unfold baseLanguage
  cases hget : Registry.builtin.get? id with
  | none => rfl
  | some language => exact (Registry.mem_languages_of_get? hget).2

/-- A value is a table that can be decoded, and spells some changes. -/
def TableSpells (compiler : Pattern.Compiler) (key : String) (value : Value) (changes : Changes) :
    Prop :=
  ∃ table, value = .table table ∧ decodeChanges compiler key table = .ok changes

/-- Each language is changed by its own table alone, and those without a table are built in. -/
theorem get?_of_foldlM {languages : Table} {registry : Registry}
    (hnames : (languages.map (·.1)).Nodup)
    (h : languages.foldlM (fun registry entry => applyTable compiler registry entry.1 entry.2)
      .builtin = .ok registry) :
    (∀ entry ∈ languages, ∃ changes, TableSpells compiler (languageKey entry.1) entry.2 changes ∧
      registry.get? entry.1 = some (changes.apply (baseLanguage entry.1))) ∧
    ∀ id, id ∉ languages.map (·.1) → registry.get? id = Registry.builtin.get? id := by
  obtain ⟨hnamed, hothers⟩ := get?_foldlM_applyTable
    (fun _ _ hget => (Registry.mem_languages_of_get? hget).2) hnames h
  refine ⟨?_, hothers⟩
  intro entry hentry
  obtain ⟨table, changes, htable, hchanges, hget⟩ := hnamed entry hentry
  exact ⟨changes, ⟨table, htable, hchanges⟩, hget⟩

theorem get?_of_applyTables {languages : Table} {registry : Registry}
    (hnames : (languages.map (·.1)).Nodup) (h : applyTables compiler languages = .ok registry) :
    (∀ entry ∈ languages, ∃ table language, entry.2 = .table table ∧
      registry.get? entry.1 = some language ∧ language.id = entry.1 ∧
      Overrides compiler table (baseLanguage entry.1) language) ∧
    ∀ id, id ∉ languages.map (·.1) → registry.get? id = Registry.builtin.get? id := by
  obtain ⟨registry', hfold, h⟩ := bind_eq_ok.mp h
  obtain ⟨_, -, h⟩ := bind_eq_ok.mp h
  obtain rfl := Except.ok.inj h
  obtain ⟨hnamed, hothers⟩ := get?_of_foldlM hnames hfold
  refine ⟨?_, hothers⟩
  intro entry hentry
  obtain ⟨changes, ⟨table, htable, hchanges⟩, hget⟩ := hnamed entry hentry
  exact ⟨table, _, htable, hget, id_baseLanguage entry.1, overrides_apply hchanges _⟩

/-- The table of a language in a configuration. -/
def languageTable? (config : Table) (id : String) : Option Table :=
  match config.lookup "languages" with
  | some (.table languages) =>
    match languages.lookup id with
    | some (.table table) => some table
    | _ => none
  | _ => none

theorem languageTable?_eq_some_iff {config table : Table} {id : String} :
    languageTable? config id = some table ↔
      ∃ languages, config.lookup "languages" = some (.table languages) ∧
        languages.lookup id = some (.table table) := by
  unfold languageTable?
  split
  · rename_i languages hlanguages
    split <;> simp_all
  · simp_all

/-- The tables of an accepted configuration. -/
theorem exists_of_buildRegistry {config : Table} {path : Option Path} {registry : Registry}
    (h : buildRegistry compiler config path = .ok registry) :
    config.lookup "languages" = none ∧ registry = .builtin ∨
      ∃ languages, config.lookup "languages" = some (.table languages) ∧
        applyTables compiler languages = .ok registry := by
  obtain ⟨languages, hlanguages, happly⟩ := buildRegistry_eq_ok h
  unfold languageTables at hlanguages
  split at hlanguages
  · rename_i hlookup
    obtain rfl := Except.ok.inj hlanguages
    exact .inl ⟨hlookup, (Except.ok.inj happly).symm⟩
  · rename_i hlookup
    obtain rfl := Except.ok.inj hlanguages
    exact .inr ⟨_, hlookup, happly⟩
  · cases hlanguages

/-- In an accepted configuration, a language without a table is the built-in one, if there is one.
With a table it has its id, the components that the table names are what their entries stand for,
and the others are those of the built-in language, or empty. No brackets are erased from the lines
of a language whose brackets are an empty array. -/
theorem buildRegistry_overrides {config : Table} {path : Option Path} {registry : Registry}
    (h : buildRegistry compiler config path = .ok registry)
    (hnames : ∀ languages, config.lookup "languages" = some (.table languages) →
      (languages.map (·.1)).Nodup) (id : String) :
    (languageTable? config id = none → registry.get? id = Registry.builtin.get? id) ∧
    ∀ table, languageTable? config id = some table →
      (∃ language, registry.get? id = some language ∧ language.id = id ∧
        Overrides compiler table (baseLanguage id) language) ∧
      (table.lookup "brackets" = some (.array []) → registry.brackets? id = none ∧
        ∀ line : TokenizedLine, line.first.language = id → registry.sanitize line = line.text) := by
  rcases exists_of_buildRegistry h with ⟨hlookup, rfl⟩ | ⟨languages, hlookup, happly⟩
  · refine ⟨fun _ => rfl, fun table htable => ?_⟩
    obtain ⟨languages, hlanguages, -⟩ := languageTable?_eq_some_iff.mp htable
    cases hlookup.symm.trans hlanguages
  · obtain ⟨hentries, hothers⟩ := get?_of_applyTables (hnames languages hlookup) happly
    constructor
    · intro hnone
      apply hothers id
      intro hid
      -- an entry for the language would be a table
      obtain ⟨value, hvalue⟩ := Option.isSome_iff_exists.mp (Toml.lookup_isSome_iff.mpr hid)
      obtain ⟨table, _, rfl, -⟩ := hentries _ (Toml.mem_of_lookup hvalue)
      have htable := languageTable?_eq_some_iff.mpr ⟨languages, hlookup, hvalue⟩
      cases hnone.symm.trans htable
    · intro table htable
      obtain ⟨others, hlanguages, htable⟩ := languageTable?_eq_some_iff.mp htable
      obtain rfl := Value.table.inj (Option.some.inj (hlookup.symm.trans hlanguages))
      obtain ⟨table', language, heq, hget, hid, hoverrides⟩ :=
        hentries _ (Toml.mem_of_lookup htable)
      obtain rfl := Value.table.inj heq
      refine ⟨⟨language, hget, hid, hoverrides⟩, fun hempty => ?_⟩
      have hbrackets : registry.brackets? id = none := by
        rw [Registry.brackets?, hget, Option.bind_some, hoverrides.brackets_eq_none hempty]
        rfl
      refine ⟨hbrackets, fun line hline => ?_⟩
      rw [Registry.sanitize, hline, hbrackets]

/-- CSS without brackets and with one quote only: its other components stay, brackets in its strings
are kept, and HTML is not touched. -/
theorem buildRegistry_overrides_css :
    let table : Table := [("quotes", .array [.text ['"']]), ("brackets", .array [])]
    let config : Table := [("languages", .table [("css", .table table)])]
    let css : Language := { Builtin.css with
      brackets := none, grammar := { Builtin.css.grammar with quotes := [['"']] } }
    let line : TokenizedLine := ⟨"\"(\"".toList, ⟨.string, "css"⟩, []⟩
    let compiler := Tools.standard.compiler
    ∃ registry, buildRegistry compiler config none = .ok registry ∧
      registry.get? "css" = some css ∧ Overrides compiler table Builtin.css css ∧
      registry.sanitize line = line.text ∧
      registry.get? "html" = some Builtin.html := by
  intro table config css line compiler
  have happly : applyTable compiler .builtin "css" (.table table) =
      .ok (Registry.builtin.register css) := by
    unfold applyTable
    rw [Registry.get?_builtin_css]
    rfl
  have hget : (Registry.builtin.register css).get? "css" = some css := by
    rw [Registry.get?_register]
    exact if_pos rfl
  have hcheck : checkEmbedded (Registry.builtin.register css) "css" = .ok () := by
    rw [checkEmbedded, Registry.grammar_of_get? hget]
    rfl
  have hbuild : buildRegistry compiler config none = .ok (Registry.builtin.register css) := by
    have htables : languageTables config >>= applyTables compiler =
        .ok (Registry.builtin.register css) :=
      applyTables_singleton happly hcheck
    rw [buildRegistry, htables]
  have hnames : ∀ languages, config.lookup "languages" = some (.table languages) →
      (languages.map (·.1)).Nodup := by
    intro languages hlanguages
    obtain rfl := Value.table.inj (Option.some.inj hlanguages)
    exact List.pairwise_singleton _ "css"
  obtain ⟨⟨language, hlanguage, -, hoverrides⟩, hbrackets⟩ :=
    (buildRegistry_overrides hbuild hnames "css").2 table rfl
  obtain rfl := Option.some.inj (hget.symm.trans hlanguage)
  have hbase : baseLanguage "css" = Builtin.css := by
    rw [baseLanguage, Registry.get?_builtin_css]
    rfl
  have hhtml := (buildRegistry_overrides hbuild hnames "html").1 rfl
  refine ⟨_, hbuild, hget, hbase ▸ hoverrides, (hbrackets rfl).2 line rfl, ?_⟩
  rw [hhtml, Registry.get?_builtin_html]

end Config

end Indentation
