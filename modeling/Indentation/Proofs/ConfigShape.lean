import Indentation.Proofs.Shapes

/-!
# The shape of a configuration

A configuration may have a table `languages`, whose entries are tables of languages. Whether a
region may embed a language depends on the whole configuration, since the language may be configured
anywhere in it. So all tables are applied before the first region is checked. By then each language
has the changes of its own table, and the regions that it has without a table are built in; nothing
but a table that is not of its shape can be wrong.

A configuration is accepted exactly if it has this shape. Otherwise the key that is reported leads
to an entry that has not, unless reading a pattern of the configuration breaks down.

## Main definitions

* `Config.Known` — the languages that may be embedded
* `Config.WellShaped` — configurations whose languages are tables of languages
* `Config.Blames` — the keys that may be reported
* `Config.RuleText` — the patterns of a configuration

## Main results

* `Config.get?_foldlM_applyTable` — what applying tables changes
* `Config.languageTable_iff_of_decodeChanges` — decoded tables whose regions embed known languages
* `Config.checks_applyTables` — the tables of all languages
* `Config.buildRegistry_accepts_iff` — the configurations that are accepted
-/

namespace Indentation.Config

open Toml (Value Table)
open Shape

variable {compiler : Pattern.Compiler}

/-- A language is built in, or it has a table of its own. -/
def Known (languages : Table) (id : String) : Prop :=
  Registry.builtin.contains id = true ∨ id ∈ languages.map (·.1)

/-- A configuration has no languages, or a table of tables of languages. -/
def WellShaped (compiler : Pattern.Compiler) (config : Table) : Prop :=
  ∀ value, config.lookup "languages" = some value →
    ∃ languages, value = .table languages ∧
      ∀ entry ∈ languages, Shape.LanguageTable compiler (Known languages) entry.2

/-- The texts of the indentation rules in a configuration. -/
def RuleText (config : Table) (source : Text) : Prop :=
  ∃ languages entry, config.lookup "languages" = some (.table languages) ∧ entry ∈ languages ∧
    PatternOf entry.2 source

/-! ### Applying tables -/

section Tables

variable {registry start stop : Registry} {languages : Table} {known : String → Prop}

theorem checks_applyTable (registry : Registry) (id : String) (value : Value) :
    Checks (Culprit.In compiler (languageKey id) (PatternOf value))
      (applyTable compiler registry id value) (LanguageTable compiler (fun _ => True) value) := by
  cases value with
  | table table => exact (checks_decodeChanges (languageKey id) table).map _
  | _ => exact .problem _ (.inl (under_refl _)) (by simp [LanguageTable, TableOf])

/-- Each language has the changes of its own table, and the others have none. -/
theorem get?_foldlM_applyTable
    (hids : ∀ id language, start.get? id = some language → language.id = id)
    (hnames : (languages.map (·.1)).Nodup)
    (h : languages.foldlM (fun registry entry => applyTable compiler registry entry.1 entry.2)
      start = .ok stop) :
    (∀ entry ∈ languages, ∃ table changes, entry.2 = .table table ∧
      decodeChanges compiler (languageKey entry.1) table = .ok changes ∧
      stop.get? entry.1 = some (changes.apply ((start.get? entry.1).getD { id := entry.1 }))) ∧
    ∀ id, id ∉ languages.map (·.1) → stop.get? id = start.get? id := by
  induction languages generalizing start with
  | nil =>
    obtain rfl := Except.ok.inj h
    simp
  | cons entry languages ih =>
    rw [List.foldlM_cons] at h
    -- the registry that the first table makes is the one in which the others start
    obtain ⟨next, hnext, h⟩ := bind_eq_ok.mp h
    obtain ⟨table, changes, htable, hchanges, rfl⟩ := applyTable_eq_ok hnext
    rw [List.map_cons, List.nodup_cons] at hnames
    obtain ⟨hfresh, hnames⟩ := hnames
    have hid : (changes.apply ((start.get? entry.1).getD { id := entry.1 })).id = entry.1 := by
      cases hget : start.get? entry.1 with
      | none => rfl
      | some language => exact hids entry.1 language hget
    generalize hchanged : changes.apply ((start.get? entry.1).getD { id := entry.1 }) = changed
      at h hid
    have hget : ∀ id, (start.register changed).get? id =
        if entry.1 = id then some changed else start.get? id := by
      intro id
      rw [Registry.get?_register, hid]
    have hids' : ∀ id language, (start.register changed).get? id = some language →
        language.id = id := by
      intro id language hlanguage
      rw [hget] at hlanguage
      split at hlanguage
      · rename_i heq
        rw [← Option.some.inj hlanguage, hid, heq]
      · exact hids id language hlanguage
    obtain ⟨hentries, hothers⟩ := ih hids' hnames h
    refine ⟨List.forall_mem_cons.mpr ⟨⟨table, changes, htable, hchanges, ?_⟩, ?_⟩, ?_⟩
    · rw [hothers entry.1 hfresh, hget, if_pos rfl, hchanged]
    · intro other hother
      have hne : entry.1 ≠ other.1 := fun heq => hfresh (heq ▸ List.mem_map_of_mem hother)
      have hentry := hentries other hother
      rwa [hget, if_neg hne] at hentry
    · intro id hnot
      rw [List.map_cons, List.mem_cons, not_or] at hnot
      rw [hothers id hnot.2, hget, if_neg (Ne.symm hnot.1)]

theorem contains_iff_known (hnames : (languages.map (·.1)).Nodup)
    (h : languages.foldlM (fun registry entry => applyTable compiler registry entry.1 entry.2)
      .builtin = .ok registry) (id : String) :
    registry.contains id = true ↔ Known languages id := by
  obtain ⟨hentries, hothers⟩ := get?_foldlM_applyTable
    (fun _ _ hget => (Registry.mem_languages_of_get? hget).2) hnames h
  by_cases hid : id ∈ languages.map (·.1)
  · obtain ⟨entry, hentry, rfl⟩ := List.mem_map.mp hid
    obtain ⟨_, _, -, -, hget⟩ := hentries entry hentry
    simp [Registry.contains, hget, Known, hid]
  · rw [Known, Registry.contains, hothers id hid, or_iff_left hid, Registry.contains]

theorem checks_checkEmbedded (registry : Registry) (id : String) :
    Checks (Culprit.Under (languageKey id)) (checkEmbedded registry id)
      (∀ region ∈ (registry.grammar id).embedded, registry.contains region.language = true) := by
  unfold checkEmbedded
  split
  · rename_i hfind
    exact .ok () (by simpa using hfind)
  · rename_i region hfind
    refine .problem _ ⟨_, rfl, below_append (languageKey id) ".embedded"⟩ ?_
    intro hall
    have hcontains := hall region (List.mem_of_find?_eq_some hfind)
    have hmissing := List.find?_some hfind
    simp [hcontains] at hmissing

end Tables

/-! ### Regions -/

section Regions

variable {key : String} {value : Value} {known : String → Prop} {languages : Table}

/-- What is decoded from items has a property if and only if the items have another one. -/
theorem forall_mem_mapM_iff {α β ε : Type} {f : α → Except ε β} {items : List α}
    {results : List β} {motive : α → Prop} {motive' : β → Prop}
    (hiff : ∀ item result, f item = .ok result → (motive item ↔ motive' result))
    (h : items.mapM f = .ok results) :
    (∀ item ∈ items, motive item) ↔ ∀ result ∈ results, motive' result := by
  induction items generalizing results with
  | nil =>
    obtain rfl := Except.ok.inj h
    simp
  | cons item items ih =>
    rw [List.mapM_cons] at h
    obtain ⟨first, hfirst, h⟩ := bind_eq_ok.mp h
    obtain ⟨others, hothers, h⟩ := bind_eq_ok.mp h
    obtain rfl := Except.ok.inj h
    rw [List.forall_mem_cons, List.forall_mem_cons, hiff item first hfirst, ih hothers]

theorem embeddedRegion_iff_of_decodeEmbedding {region : Embedding}
    (h : decodeEmbedding key value = .ok region) :
    EmbeddedRegion known value ↔ known region.language := by
  rw [embeddedRegion_iff]
  unfold decodeEmbedding at h
  split at h
  · split at h
    · rename_i table _ _ _ _ _ _ hopening hclosing hlanguage
      obtain rfl := Except.ok.inj h
      simp [hopening, hclosing, hlanguage]
    · cases h
  · cases h

theorem arrayOf_iff_of_decodeEmbedded {regions : List Embedding}
    (h : decodeEmbedded key value = .ok regions) :
    ArrayOf (EmbeddedRegion known) value ↔ ∀ region ∈ regions, known region.language := by
  obtain ⟨items, hitems, h⟩ := bind_eq_ok.mp h
  cases value with
  | array values =>
    obtain rfl := Except.ok.inj hitems
    rw [← forall_mem_mapM_iff (fun _ _ => embeddedRegion_iff_of_decodeEmbedding) h]
    simp [ArrayOf]
  | _ => cases hitems

/-- Only the shape of its regions depends on which languages are known. -/
theorem languageTable_iff {table : Table} : LanguageTable compiler known (.table table) ↔
    LanguageTable compiler (fun _ => True) (.table table) ∧
      ∀ value, table.lookup "embedded" = some value → ArrayOf (EmbeddedRegion known) value := by
  have hmono : ∀ value, ArrayOf (EmbeddedRegion known) value →
      ArrayOf (EmbeddedRegion fun _ => True) value := by
    rintro value ⟨items, rfl, hitems⟩
    refine ⟨items, rfl, ?_⟩
    intro item hitem
    obtain ⟨table, opening, closing, language, hregion⟩ := hitems item hitem
    exact ⟨table, opening, closing, language, by tauto⟩
  simp only [LanguageTable, TableOf, Value.table.injEq, exists_eq_left', List.map_cons,
    List.map_nil, List.forall_mem_cons, List.not_mem_nil, false_implies, implies_true, and_true]
  have hentry : (∀ value, table.lookup "embedded" = some value →
      ArrayOf (EmbeddedRegion known) value) → ∀ value, table.lookup "embedded" = some value →
      ArrayOf (EmbeddedRegion fun _ => True) value :=
    fun h value hlookup => hmono value (h value hlookup)
  tauto

theorem languageTable_mono (h : LanguageTable compiler known value) :
    LanguageTable compiler (fun _ => True) value := by
  obtain ⟨table, rfl, htable⟩ := h
  exact (languageTable_iff.mp ⟨table, rfl, htable⟩).1

theorem lookup_of_decodeEntry {α : Type} {table : Table} {name : String}
    {decode : String → Value → Decode α} (h : decodeEntry key table name decode = .ok none) :
    table.lookup name = none := by
  unfold decodeEntry at h
  split at h
  · assumption
  · rename_i value _
    cases hdecode : decode s!"{key}.{name}" value <;> rw [hdecode] at h <;> cases h

/-- A table that can be decoded is of its shape if the languages that it embeds are known. -/
theorem languageTable_iff_of_decodeChanges {table : Table} {changes : Changes}
    (h : decodeChanges compiler key table = .ok changes) :
    LanguageTable compiler known (.table table) ↔
      ∀ regions, changes.embedded = some regions → ∀ region ∈ regions, known region.language := by
  have hshape := (checks_decodeChanges key table).accepts.mp ⟨changes, h⟩
  rw [languageTable_iff, and_iff_right hshape]
  have hembedded := (spells_of_decodeChanges h).embedded
  cases hchange : changes.embedded with
  | none =>
    rw [hchange] at hembedded
    simp [lookup_of_decodeEntry hembedded]
  | some regions =>
    rw [hchange] at hembedded
    obtain ⟨value, hlookup, hvalue⟩ := decodeEntry_eq_ok hembedded
    simp [hlookup, arrayOf_iff_of_decodeEmbedded hvalue]

end Regions

/-! ### Configurations -/

/-- After all tables have been applied, the regions of a language can be blamed only if its own
table is wrong: those that it has without a table are built in. -/
theorem checks_checkEmbedded_entry {languages : Table} {registry : Registry}
    (hnames : (languages.map (·.1)).Nodup)
    (h : languages.foldlM (fun registry entry => applyTable compiler registry entry.1 entry.2)
      .builtin = .ok registry) {entry : String × Value} (hentry : entry ∈ languages) :
    Checks (Culprit.Under (languageKey entry.1)) (checkEmbedded registry entry.1)
      (LanguageTable compiler (Known languages) entry.2) := by
  have hcontains := contains_iff_known hnames h
  obtain ⟨hentries, -⟩ := get?_foldlM_applyTable
    (fun _ _ hget => (Registry.mem_languages_of_get? hget).2) hnames h
  obtain ⟨table, changes, htable, hchanges, hget⟩ := hentries entry hentry
  refine (checks_checkEmbedded registry entry.1).congr ?_
  rw [htable, languageTable_iff_of_decodeChanges hchanges, Registry.grammar_of_get? hget]
  simp only [hcontains]
  change (∀ region ∈ changes.embedded.getD _, _) ↔ _
  cases changes.embedded with
  | some regions => simp
  | none =>
    -- the language keeps the regions that it has, which are built in
    simp only [Option.getD_none, reduceCtorEq, false_implies, implies_true, iff_true]
    intro region hregion
    cases hbase : Registry.builtin.get? entry.1 with
    | none =>
      rw [hbase] at hregion
      exact absurd hregion List.not_mem_nil
    | some language =>
      rw [hbase] at hregion
      exact .inl (builtin_embedded hbase hregion)

theorem checks_foldlM_applyTable (languages : Table) :
    Checks (BlamesOne (fun entry => LanguageTable compiler (fun _ => True) entry.2)
        (fun entry => Culprit.In compiler (languageKey entry.1) (PatternOf entry.2)) languages)
      (languages.foldlM (fun registry entry => applyTable compiler registry entry.1 entry.2)
        .builtin)
      (∀ entry ∈ languages, LanguageTable compiler (fun _ => True) entry.2) :=
  .foldlM (fun registry entry _ => checks_applyTable registry entry.1 entry.2) .builtin

/-- All tables are decoded before the first region is checked. -/
theorem checks_applyTables {languages : Table} (hnames : (languages.map (·.1)).Nodup) :
    Checks (BlamesOne (fun entry => LanguageTable compiler (Known languages) entry.2)
        (fun entry => Culprit.In compiler (languageKey entry.1) (PatternOf entry.2)) languages)
      (applyTables compiler languages)
      (∀ entry ∈ languages, LanguageTable compiler (Known languages) entry.2) := by
  refine (((checks_foldlM_applyTable languages).mono ?_).bind fun registry hregistry =>
    (Checks.forM fun entry hentry =>
      (checks_checkEmbedded_entry hnames hregistry hentry).mono fun _ _ => .inl).map
        fun _ => registry).congr ?_
  · rintro culprit - ⟨entry, hentry, hshape, hculprit⟩
    exact ⟨entry, hentry, fun h => hshape (languageTable_mono h), hculprit⟩
  · exact and_iff_right_of_imp fun h entry hentry => languageTable_mono (h entry hentry)

/-- Applying tables breaks down only if reading a pattern in one of them does: nothing else in it
can break down, and checking regions cannot. -/
theorem exists_of_applyTables_eq_breakdown {languages : Table} {reason : Breakdown}
    (h : applyTables compiler languages = .error (.breakdown reason)) :
    ∃ entry ∈ languages, ∃ source, PatternOf entry.2 source ∧
      compiler source = .error (.breakdown reason) := by
  rcases bind_eq_error.mp h with hfold | ⟨registry, -, hcheck⟩
  · obtain ⟨culprit, hculprit, entry, hentry, -, hblamed⟩ :=
      (checks_foldlM_applyTable languages).blames _ hfold
    rcases hblamed with ⟨_, rfl, -⟩ | ⟨_, source, rfl, hsource, hbreaks⟩
    · cases hculprit
    · obtain rfl := Failed.breakdown.inj hculprit
      exact ⟨entry, hentry, source, hsource, hbreaks⟩
  · rcases bind_eq_error.mp hcheck with hcheck | ⟨_, -, h⟩
    · have hchecks := Checks.forM fun entry (_ : entry ∈ languages) =>
        checks_checkEmbedded registry entry.1
      obtain ⟨culprit, hculprit, _, _, -, _, rfl, -⟩ := hchecks.blames _ hcheck
      cases hculprit
    · cases h

/-- The key of what is wrong with a configuration: `languages` if that is no table, or otherwise the
key of an entry that is not of its shape, or one below it. -/
def Blames (compiler : Pattern.Compiler) (config : Table) (key : String) : Prop :=
  (key = "languages" ∧ ∃ value, config.lookup "languages" = some value ∧
    ∀ languages, value ≠ .table languages) ∨
  ∃ languages entry, config.lookup "languages" = some (.table languages) ∧ entry ∈ languages ∧
    ¬ LanguageTable compiler (Known languages) entry.2 ∧ Below s!"languages.{entry.1}" key

theorem checks_languageTables {config : Table}
    (hnames : ∀ languages, config.lookup "languages" = some (.table languages) →
      (languages.map (·.1)).Nodup) :
    Checks (fun culprit => (∃ key, culprit = .cause key ∧ Blames compiler config key) ∨
        culprit.Breaks compiler (RuleText config))
      (languageTables config >>= applyTables compiler) (WellShaped compiler config) := by
  unfold languageTables
  split
  · rename_i hlookup
    have hshape : WellShaped compiler config := by simp [WellShaped, hlookup]
    exact Checks.ok Registry.builtin hshape
  · rename_i languages hlookup
    refine ((checks_applyTables (hnames languages hlookup)).mono ?_).congr ?_
    · rintro culprit - ⟨entry, hentry, hshape, ⟨key, rfl, hkey⟩ | ⟨reason, source, rfl, hsource⟩⟩
      · exact .inl ⟨key, rfl, .inr ⟨languages, entry, hlookup, hentry, hshape, hkey⟩⟩
      · exact .inr ⟨reason, source, rfl, ⟨languages, entry, hlookup, hentry, hsource.1⟩, hsource.2⟩
    · simp [WellShaped, hlookup]
  · rename_i value htable hlookup
    refine .problem _ (.inl ⟨_, rfl, .inl ⟨rfl, value, hlookup, htable⟩⟩) ?_
    intro hshape
    obtain ⟨languages, rfl, -⟩ := hshape value hlookup
    exact htable languages rfl

/-- Building a registry breaks down only if reading a pattern of the configuration does. -/
theorem ruleText_of_buildRegistry_eq_breakdown {config : Table} {path : Option Path}
    {reason : Breakdown} (h : buildRegistry compiler config path = .error (.breakdown reason)) :
    ∃ source, RuleText config source ∧ compiler source = .error (.breakdown reason) := by
  have hbuild : languageTables config >>= applyTables compiler = .error (.breakdown reason) := by
    unfold buildRegistry at h
    split at h
    · cases h
    · rename_i failed hfailed
      rw [hfailed]
      cases failed with
      | cause _ => cases h
      | breakdown other => exact congrArg _ (congrArg _ (Failed.breakdown.inj (Except.error.inj h)))
  unfold languageTables at hbuild
  split at hbuild
  · cases hbuild
  · rename_i languages hlookup
    obtain ⟨entry, hentry, source, hsource, hbreaks⟩ := exists_of_applyTables_eq_breakdown hbuild
    exact ⟨source, ⟨languages, entry, hlookup, hentry, hsource⟩, hbreaks⟩
  · cases hbuild

/-- How a configuration may fail: an error with a key that may be reported, or the breakdown of one
of its patterns. -/
theorem buildRegistry_eq_error {config : Table} {path : Option Path}
    (hnames : ∀ languages, config.lookup "languages" = some (.table languages) →
      (languages.map (·.1)).Nodup) {failed : Failed Error}
    (h : buildRegistry compiler config path = .error failed) :
    (∃ fault key, failed = .cause ⟨⟨fault, some key⟩, path⟩ ∧ Blames compiler config key) ∨
      ∃ reason source, failed = .breakdown reason ∧ RuleText config source ∧
        compiler source = .error (.breakdown reason) := by
  cases failed with
  | breakdown reason =>
    obtain ⟨source, hsource, hbreaks⟩ := ruleText_of_buildRegistry_eq_breakdown h
    exact .inr ⟨reason, source, rfl, hsource, hbreaks⟩
  | cause error =>
    unfold buildRegistry at h
    split at h
    · cases h
    · rename_i failed hfailed
      cases failed with
      | breakdown _ => cases h
      | cause problem =>
        obtain ⟨culprit, hculprit, hblame⟩ := (checks_languageTables hnames).blames _ hfailed
        rcases hblame with ⟨key, rfl, hkey⟩ | ⟨_, _, rfl, -⟩
        · have hproblem : problem.key = some key := Failed.cause.inj hculprit
          have herror : ⟨problem, path⟩ = error := Failed.cause.inj (Except.error.inj h)
          exact .inl ⟨problem.fault, key, by rw [← herror, ← hproblem], hkey⟩
        · cases hculprit

/-- Exactly the configurations of the right shape are accepted. For each other one an error is
reported, with a key that leads to what is wrong, or reading one of its patterns breaks down. So
with a compiler that accepts a pattern or tells its error, there is always such an error. -/
theorem buildRegistry_accepts_iff (compiler : Pattern.Compiler) (config : Table)
    (path : Option Path)
    (hnames : ∀ languages, config.lookup "languages" = some (.table languages) →
      (languages.map (·.1)).Nodup) :
    ((∃ registry, buildRegistry compiler config path = .ok registry) ↔
        WellShaped compiler config) ∧
      (¬ WellShaped compiler config →
        (∃ fault key,
          buildRegistry compiler config path = .error (.cause ⟨⟨fault, some key⟩, path⟩) ∧
            Blames compiler config key) ∨
        ∃ reason source, buildRegistry compiler config path = .error (.breakdown reason) ∧
          RuleText config source ∧ compiler source = .error (.breakdown reason)) := by
  have haccepts : (∃ registry, buildRegistry compiler config path = .ok registry) ↔
      WellShaped compiler config := by
    rw [← (checks_languageTables hnames).accepts, buildRegistry]
    cases languageTables config >>= applyTables compiler <;> simp
  refine ⟨haccepts, fun hshape => ?_⟩
  cases hbuild : buildRegistry compiler config path with
  | ok registry => exact absurd (haccepts.mp ⟨registry, hbuild⟩) hshape
  | error failed =>
    rcases buildRegistry_eq_error hnames hbuild with ⟨fault, key, rfl, h⟩ | ⟨reason, source, rfl, h⟩
    · exact .inl ⟨fault, key, rfl, h⟩
    · exact .inr ⟨reason, source, rfl, h⟩

/-- A language with a region in another one is accepted if the other one is configured behind it,
and refused if it is not. -/
theorem buildRegistry_accepts_iff_later_language :
    let compiler := Tools.standard.compiler
    let region : Value := .table [("open", .text ['<']), ("close", .text ['>']),
      ("language", .text ['b'])]
    let first : String × Value := ("a", .table [("embedded", .array [region])])
    let second : String × Value := ("b", .table [("quotes", .array [.text ['"']])])
    ([first, second].map (·.1)).Nodup ∧
      (∃ registry, buildRegistry compiler [("languages", .table [first, second])] none =
        .ok registry) ∧
      ∃ fault key, buildRegistry compiler [("languages", .table [first])] none =
          .error (.cause ⟨⟨fault, some key⟩, none⟩) ∧
        Blames compiler [("languages", .table [first])] key := by
  intro compiler region first second
  have hregion : ∀ known : String → Prop, EmbeddedRegion known region ↔ known "b" := by
    intro known
    simp [EmbeddedRegion, region, List.lookup_cons]
  have hfirst : ∀ known : String → Prop, LanguageTable compiler known first.2 ↔ known "b" := by
    intro known
    simp [LanguageTable, TableOf, first, List.lookup_cons, ArrayOf, hregion]
  have hsecond : ∀ known : String → Prop, LanguageTable compiler known second.2 := by
    intro known
    simp [LanguageTable, TableOf, second, List.lookup_cons, ArrayOf, Character]
  have hunknown : Registry.builtin.contains "b" = false := by
    rw [Registry.contains, Registry.get?_builtin]
    rfl
  have hlookup : ∀ languages : Table,
      List.lookup "languages" [("languages", Value.table languages)] = some (.table languages) :=
    fun _ => rfl
  have hshape : ∀ languages : Table, WellShaped compiler [("languages", .table languages)] ↔
      ∀ entry ∈ languages, LanguageTable compiler (Known languages) entry.2 := by
    intro languages
    simp [WellShaped, hlookup]
  have hnames : ∀ languages : Table, (languages.map (·.1)).Nodup → ∀ entries,
      List.lookup "languages" [("languages", Value.table languages)] = some (.table entries) →
      (entries.map (·.1)).Nodup := by
    intro languages hnodup entries hentries
    rwa [← Value.table.inj (Option.some.inj ((hlookup languages).symm.trans hentries))]
  have hboth : ([first, second].map (·.1)).Nodup := by simp [first, second]
  -- there are no patterns with which reading could break down
  have hrules : ∀ source, ¬ RuleText [("languages", .table [first])] source := by
    rintro source ⟨languages, entry, hlanguages, hentry, table, rules, htable, hlookup', -⟩
    obtain rfl := Value.table.inj (Option.some.inj ((hlookup _).symm.trans hlanguages))
    obtain rfl := List.mem_singleton.mp hentry
    obtain rfl := Value.table.inj htable
    cases hlookup'
  refine ⟨hboth, (buildRegistry_accepts_iff compiler _ none (hnames _ hboth)).1.mpr ?_,
    ((buildRegistry_accepts_iff compiler _ none (hnames _ (by simp))).2 ?_).resolve_right ?_⟩
  · refine (hshape _).mpr (List.forall_mem_cons.mpr ⟨(hfirst _).mpr (.inr ?_), ?_⟩)
    · simp [first, second]
    · exact List.forall_mem_singleton.mpr (hsecond _)
  · intro h
    rcases (hfirst _).mp ((hshape _).mp h first List.mem_cons_self) with hbuiltin | hnamed
    · rw [hunknown] at hbuiltin
      cases hbuiltin
    · simp [first] at hnamed
  · rintro ⟨_, source, -, hsource, -⟩
    exact hrules source hsource

end Indentation.Config
