import Indentation.Proofs.Overrides
import Mathlib.Data.String.Basic

/-!
# The order of tables

The entries of a table are written in some order. Decoding a value looks entries up by their names,
so it gives the same result, or finds the same fault, in whatever order they are written. Of several
names that are not known the first in alphabetical order is reported, which is no matter of their
places either.

The tables of languages are applied one after the other to one registry, and the regions of all
languages are checked at the end. What comes out can be told without their order: each language has
the changes of its own table, the others are built in, and all regions lie in languages that are
known in the end. So a configuration that is accepted gives the same registry in every order. Only
which of several failures comes first depends on the order of the languages. If one of them is a
breakdown, an error may be reported in one order and none in the other.

## Main definitions

* `Toml.Reorders` — values with the same entries in their tables, in any order
* `Config.Orderless` — functions of values that do not see the order of entries
* `Config.Applied` — the registry that tables of languages make, told without their order

## Main results

* `Toml.rel_lookup` — entries of tables in another order
* `Config.orderless_decodeRules`, `Config.decodeChanges_congr` — decoding does not see the order
* `Config.applyTables_eq_ok_iff` — what applying tables gives
* `Config.RuleText.of_reorders` — the patterns of a configuration in another order
* `Config.buildRegistry_reorders` — configurations in another order
-/

namespace Indentation

namespace Toml

/-- Two values have the same entries in their tables, in any order. The names in a table are
distinct. -/
inductive Reorders : Value → Value → Prop where
  | refl (value : Value) : Reorders value value
  | array {items items' : List Value} (h : List.Forall₂ Reorders items items') :
      Reorders (.array items) (.array items')
  | table {table table' : Table} (hnames : (table.map (·.1)).Nodup)
      (hperm : (table.map (·.1)).Perm (table'.map (·.1)))
      (h : ∀ name value value', table.lookup name = some value →
        table'.lookup name = some value' → Reorders value value') :
      Reorders (.table table) (.table table')

section Entries

variable {table table' : Table} {name : String} {value : Value}

/-- Tables with the same names have their entries under the same names. -/
theorem rel_lookup {relation : Value → Value → Prop}
    (hperm : (table.map (·.1)).Perm (table'.map (·.1)))
    (h : ∀ name value value', table.lookup name = some value →
      table'.lookup name = some value' → relation value value') (name : String) :
    Option.Rel relation (table.lookup name) (table'.lookup name) := by
  have hsome : (table.lookup name).isSome = true ↔ (table'.lookup name).isSome = true := by
    rw [lookup_isSome_iff, lookup_isSome_iff, hperm.mem_iff]
  cases hvalue : table.lookup name with
  | none =>
    cases hvalue' : table'.lookup name with
    | none => exact .none
    | some value' => simp [hvalue, hvalue'] at hsome
  | some value =>
    cases hvalue' : table'.lookup name with
    | none => simp [hvalue, hvalue'] at hsome
    | some value' => exact .some (h name value value' hvalue hvalue')

theorem exists_of_mem_of_forall₂ {α : Type} {relation : α → α → Prop} {items items' : List α}
    (h : List.Forall₂ relation items items') {item : α} (hitem : item ∈ items) :
    ∃ item' ∈ items', relation item item' := by
  induction h with
  | nil => exact absurd hitem List.not_mem_nil
  | cons hfirst _ ih =>
    rcases List.mem_cons.mp hitem with rfl | hitem
    · exact ⟨_, List.mem_cons_self, hfirst⟩
    · obtain ⟨item', hitem', hrelation⟩ := ih hitem
      exact ⟨item', List.mem_cons_of_mem _ hitem', hrelation⟩

/-- Entries that are put in another order, and whose values are then put in another order one by
one. -/
theorem Reorders.of_entries {middle : Table} (hnames : (table.map (·.1)).Nodup)
    (hperm : table.Perm middle)
    (h : List.Forall₂ (fun entry entry' => entry.1 = entry'.1 ∧ Reorders entry.2 entry'.2) middle
      table') : Reorders (.table table) (.table table') := by
  have hmiddle : middle.map (·.1) = table'.map (·.1) := by
    rw [← List.forall₂_eq_eq_eq, List.forall₂_map_left_iff, List.forall₂_map_right_iff]
    exact h.imp fun _ _ hentry => hentry.1
  have hperm' : (table.map (·.1)).Perm (table'.map (·.1)) := hmiddle ▸ hperm.map _
  refine .table hnames hperm' ?_
  intro name value value' hvalue hvalue'
  obtain ⟨⟨_, found⟩, hfound, rfl, hreorders⟩ :=
    exists_of_mem_of_forall₂ h (hperm.mem_iff.mp (mem_of_lookup hvalue))
  -- there is only one entry of this name
  have hlookup := lookup_of_mem (hperm'.nodup_iff.mp hnames) hfound
  obtain rfl := Option.some.inj (hvalue'.symm.trans hlookup)
  exact hreorders

end Entries

end Toml

namespace Config

open Toml (Value Table Reorders)

/-! ### Decoding in any order -/

/-- A function gives the same for values that differ in the order of entries only. -/
def Orderless {α : Type} (f : Value → α) : Prop :=
  ∀ value value', Reorders value value' → f value = f value'

variable {compiler : Pattern.Compiler}

section Decoders

variable {table table' : Table}

theorem mapM_congr {m : Type → Type} [Monad m] [LawfulMonad m] {α β : Type} {f : α → m β}
    {relation : α → α → Prop} {items items' : List α} (h : List.Forall₂ relation items items')
    (hcongr : ∀ item item', relation item item' → f item = f item') :
    items.mapM f = items'.mapM f := by
  induction h with
  | nil => rfl
  | cons hitem _ ih => rw [List.mapM_cons, List.mapM_cons, hcongr _ _ hitem, ih]

theorem orderless_nonEmptyText? : Orderless nonEmptyText? := by
  intro value value' h
  cases h <;> rfl

theorem orderless_decodeBoolean (key : String) : Orderless (decodeBoolean key) := by
  intro value value' h
  cases h <;> rfl

/-- What looks at the items of an array one by one does not see the order of their entries. -/
theorem orderless_items {α : Type} {key : String} {decode : List Value → Decode α}
    (h : ∀ items items', List.Forall₂ Reorders items items' → decode items = decode items') :
    Orderless fun value => decodeArray key value >>= decode := by
  intro value value' hvalue
  cases hvalue with
  | refl => rfl
  | array hitems => exact h _ _ hitems
  | table => rfl

theorem orderless_decodeTexts (key : String) : Orderless (decodeTexts key) := by
  apply orderless_items
  intro items items' hitems
  rw [mapM_congr hitems orderless_nonEmptyText?]

theorem orderless_decodeExtensions (key : String) : Orderless (decodeExtensions key) := by
  intro value value' h
  rw [decodeExtensions, decodeExtensions, orderless_decodeTexts key value value' h]

theorem orderless_decodeQuotes (key : String) : Orderless (decodeQuotes key) := by
  intro value value' h
  rw [decodeQuotes, decodeQuotes, orderless_decodeTexts key value value' h]

theorem orderless_bracketSide? : Orderless bracketSide? := by
  intro value value' h
  cases h with
  | refl => rfl
  | array hitems =>
    cases hitems with
    | nil => rfl
    | cons hitem hitems =>
      exact mapM_congr (hitems.cons hitem) orderless_nonEmptyText?
  | table => rfl

/-- What only looks at pairs, and at their items apart, does not see the order of their entries. -/
theorem orderless_pairs {α : Type} {f : Value → α} {other : α}
    (hpair : ∀ first second first' second', Reorders first first' → Reorders second second' →
      f (.array [first, second]) = f (.array [first', second']))
    (hother : ∀ value, (∀ first second, value ≠ .array [first, second]) → f value = other) :
    Orderless f := by
  intro value value' h
  cases h with
  | refl => rfl
  | table => rw [hother _ (by simp), hother _ (by simp)]
  | array hitems =>
    cases hitems with
    | nil => rfl
    | cons hfirst hitems =>
      cases hitems with
      | nil => rw [hother _ (by simp), hother _ (by simp)]
      | cons hsecond hitems =>
        cases hitems with
        | nil => exact hpair _ _ _ _ hfirst hsecond
        | cons => rw [hother _ (by simp), hother _ (by simp)]

theorem orderless_decodeBracketPair (key : String) : Orderless (decodeBracketPair key) := by
  apply orderless_pairs
  · intro opens closes opens' closes' hopens hcloses
    rw [decodeBracketPair, decodeBracketPair, orderless_bracketSide? _ _ hopens,
      orderless_bracketSide? _ _ hcloses]
  · intro value hpair
    unfold decodeBracketPair
    split
    · exact absurd rfl (hpair _ _)
    · rfl

theorem orderless_decodeBrackets (key : String) : Orderless (decodeBrackets key) := by
  apply orderless_items
  intro items items' hitems
  rw [mapM_congr hitems (orderless_decodeBracketPair key)]

theorem orderless_decodeBlockComment (key : String) : Orderless (decodeBlockComment key) := by
  apply orderless_pairs
  · intro opening closing opening' closing' hopening hclosing
    rw [decodeBlockComment, decodeBlockComment, orderless_nonEmptyText? _ _ hopening,
      orderless_nonEmptyText? _ _ hclosing]
  · intro value hpair
    unfold decodeBlockComment
    split
    · exact absurd rfl (hpair _ _)
    · rfl

theorem orderless_decodeBlockComments (key : String) : Orderless (decodeBlockComments key) := by
  apply orderless_items
  intro items items' hitems
  rw [mapM_congr hitems (orderless_decodeBlockComment key)]

theorem textEntry?_congr {name : String}
    (h : Option.Rel Reorders (table.lookup name) (table'.lookup name)) :
    textEntry? table name = textEntry? table' name := by
  unfold textEntry?
  generalize table.lookup name = value?, table'.lookup name = value?' at h ⊢
  cases h with
  | none => rfl
  | some hvalue => exact orderless_nonEmptyText? _ _ hvalue

theorem orderless_decodeEmbedding (key : String) : Orderless (decodeEmbedding key) := by
  intro value value' h
  cases h with
  | refl => rfl
  | array => rfl
  | table hnames hperm h =>
    have hentry := Toml.rel_lookup hperm h
    rw [decodeEmbedding, decodeEmbedding, textEntry?_congr (hentry "open"),
      textEntry?_congr (hentry "close"), textEntry?_congr (hentry "language")]

theorem orderless_decodeEmbedded (key : String) : Orderless (decodeEmbedded key) := by
  apply orderless_items
  intro items items' hitems
  rw [mapM_congr hitems (orderless_decodeEmbedding key)]

theorem leastName?_eq_min? (names : List String) : leastName? names = names.min? := by
  cases names with
  | nil => rfl
  | cons name names =>
    have hmin : (fun least other : String => if other < least then other else least) = min := by
      funext least other
      rw [min_def]
      grind
    rw [leastName?, hmin]
    rfl

/-- The name that is reported does not depend on where it stands. -/
theorem unknownName?_congr {known : List String}
    (hperm : (table.map (·.1)).Perm (table'.map (·.1))) :
    unknownName? known table = unknownName? known table' := by
  have hfilter := hperm.filter fun name => !known.contains name
  rw [unknownName?, unknownName?, leastName?_eq_min?, leastName?_eq_min?]
  ext name
  rw [List.min?_eq_some_iff, List.min?_eq_some_iff]
  simp only [hfilter.mem_iff]

theorem decodeRule_congr {key name : String}
    (h : Option.Rel Reorders (table.lookup name) (table'.lookup name)) :
    decodeRule key table name = decodeRule key table' name := by
  rw [decodeRule, decodeRule]
  generalize table.lookup name = value?, table'.lookup name = value?' at h ⊢
  cases h with
  | none => rfl
  | some hvalue => cases hvalue <;> rfl

theorem orderless_decodeRules (key : String) : Orderless (decodeRules compiler key) := by
  intro value value' h
  cases h with
  | refl => rfl
  | array => rfl
  | table hnames hperm h =>
    have hentry := Toml.rel_lookup hperm h
    rw [decodeRules, decodeRules, unknownName?_congr hperm, decodeRule_congr (hentry "increase"),
      decodeRule_congr (hentry "decrease"), decodeRule_congr (hentry "indent_next_line"),
      decodeRule_congr (hentry "unindented_line")]

theorem decodeEntry_congr {α : Type} {key name : String} {decode : String → Value → Decode α}
    (hdecode : ∀ key, Orderless (decode key))
    (h : Option.Rel Reorders (table.lookup name) (table'.lookup name)) :
    decodeEntry key table name decode = decodeEntry key table' name decode := by
  rw [decodeEntry, decodeEntry]
  generalize table.lookup name = value?, table'.lookup name = value?' at h ⊢
  cases h with
  | none => rfl
  | some hvalue => exact congrArg (Except.map some) (hdecode _ _ _ hvalue)

/-- The table of a language says the same, or has the same fault, in any order. -/
theorem decodeChanges_congr {key : String} (hperm : (table.map (·.1)).Perm (table'.map (·.1)))
    (h : ∀ name, Option.Rel Reorders (table.lookup name) (table'.lookup name)) :
    decodeChanges compiler key table = decodeChanges compiler key table' := by
  rw [decodeChanges, decodeChanges, decodeEntry_congr orderless_decodeBrackets (h _),
    decodeEntry_congr orderless_decodeExtensions (h _),
    decodeEntry_congr orderless_decodeTexts (h _),
    decodeEntry_congr orderless_decodeBlockComments (h _),
    decodeEntry_congr orderless_decodeQuotes (h _),
    decodeEntry_congr orderless_decodeBoolean (h _),
    decodeEntry_congr orderless_decodeEmbedded (h _),
    decodeEntry_congr orderless_decodeRules (h _), unknownName?_congr hperm]

end Decoders

/-! ### Applying tables in any order -/

section Tables

variable {languages languages' : Table} {registry : Registry}

theorem forM_eq_ok_iff {α : Type} {check : α → Decode Unit} {items : List α} :
    items.forM check = .ok () ↔ ∀ item ∈ items, check item = .ok () := by
  constructor
  · intro h item hitem
    exact of_mem_of_forM h hitem
  · intro h
    induction items with
    | nil => rfl
    | cons item items ih =>
      obtain ⟨hitem, hitems⟩ := List.forall_mem_cons.mp h
      rw [List.forM_eq_forM, List.forM_cons, bind_of_ok hitem]
      exact ih hitems

theorem TableSpells.eq {key : String} {value : Value} {changes changes' : Changes}
    (h : TableSpells compiler key value changes) (h' : TableSpells compiler key value changes') :
    changes = changes' := by
  obtain ⟨table, htable, hchanges⟩ := h
  obtain ⟨table', htable', hchanges'⟩ := h'
  obtain rfl := Value.table.inj (htable.symm.trans htable')
  exact Except.ok.inj (hchanges.symm.trans hchanges')

theorem tableSpells_congr {key : String} {value value' : Value} (h : Reorders value value')
    (changes : Changes) :
    TableSpells compiler key value changes ↔ TableSpells compiler key value' changes := by
  cases h with
  | refl => rfl
  | array => simp [TableSpells]
  | table _ hperm h =>
    simp [TableSpells, decodeChanges_congr hperm (Toml.rel_lookup hperm h)]

/-- The registry that tables of languages make: a language with a table has its changes, the others
are built in, and the regions of those with a table lie in languages of the registry. -/
structure Applied (compiler : Pattern.Compiler) (languages : Table) (registry : Registry) :
    Prop where
  named : ∀ entry ∈ languages, ∃ changes,
    TableSpells compiler (languageKey entry.1) entry.2 changes ∧
    registry.get? entry.1 = some (changes.apply (baseLanguage entry.1))
  others : ∀ id, id ∉ languages.map (·.1) → registry.get? id = Registry.builtin.get? id
  regions : ∀ id ∈ languages.map (·.1), checkEmbedded registry id = .ok ()

theorem exists_foldlM_applyTable
    (h : ∀ entry ∈ languages, ∃ changes,
      TableSpells compiler (languageKey entry.1) entry.2 changes)
    (start : Registry) :
    ∃ stop, languages.foldlM (fun registry entry => applyTable compiler registry entry.1 entry.2)
      start = .ok stop := by
  induction languages generalizing start with
  | nil => exact ⟨start, rfl⟩
  | cons entry languages ih =>
    obtain ⟨⟨changes, table, htable, hchanges⟩, hothers⟩ := List.forall_mem_cons.mp h
    have happly : applyTable compiler start entry.1 entry.2 =
        .ok (start.register (changes.apply ((start.get? entry.1).getD { id := entry.1 }))) := by
      rw [htable, applyTable, bind_of_ok hchanges]
      rfl
    rw [List.foldlM_cons, bind_of_ok happly]
    exact ih hothers _

/-- Applying tables gives the registry that is told without their order. -/
theorem applyTables_eq_ok_iff (hnames : (languages.map (·.1)).Nodup) :
    applyTables compiler languages = .ok registry ↔ Applied compiler languages registry := by
  constructor
  · intro h
    obtain ⟨-, hregions⟩ := extends_of_applyTables h
    obtain ⟨registry', hfold, h⟩ := bind_eq_ok.mp h
    obtain ⟨_, -, h⟩ := bind_eq_ok.mp h
    obtain rfl := Except.ok.inj h
    obtain ⟨hnamed, hothers⟩ := get?_of_foldlM hnames hfold
    exact ⟨hnamed, hothers, hregions⟩
  · intro h
    have hspells : ∀ entry ∈ languages, ∃ changes,
        TableSpells compiler (languageKey entry.1) entry.2 changes := by
      intro entry hentry
      obtain ⟨changes, hchanges, -⟩ := h.named entry hentry
      exact ⟨changes, hchanges⟩
    obtain ⟨registry', hfold⟩ := exists_foldlM_applyTable hspells .builtin
    obtain ⟨hnamed, hothers⟩ := get?_of_foldlM hnames hfold
    -- in the registry that comes out the same is found as in the given one
    obtain rfl : registry' = registry := by
      apply Registry.ext_get?
      intro id
      by_cases hid : id ∈ languages.map (·.1)
      · obtain ⟨entry, hentry, rfl⟩ := List.mem_map.mp hid
        obtain ⟨changes, hchanges, hget⟩ := h.named entry hentry
        obtain ⟨changes', hchanges', hget'⟩ := hnamed entry hentry
        rw [hget, hget', hchanges.eq hchanges']
      · rw [hothers id hid, h.others id hid]
    have hcheck : languages.forM (fun entry => checkEmbedded registry' entry.1) = .ok () := by
      rw [forM_eq_ok_iff]
      intro entry hentry
      exact h.regions entry.1 (List.mem_map_of_mem hentry)
    exact bind_eq_ok.mpr ⟨registry', hfold, bind_eq_ok.mpr ⟨(), hcheck, rfl⟩⟩

/-- The same registry is made by tables of the same languages that spell the same changes. -/
theorem Applied.congr (h : Applied compiler languages registry)
    (hnames : (languages'.map (·.1)).Nodup)
    (hperm : (languages.map (·.1)).Perm (languages'.map (·.1)))
    (hsame : ∀ id value value', languages.lookup id = some value →
      languages'.lookup id = some value' → ∀ key changes,
        TableSpells compiler key value changes → TableSpells compiler key value' changes) :
    Applied compiler languages' registry := by
  refine ⟨?_, ?_, ?_⟩
  · intro entry hentry
    have hid : entry.1 ∈ languages.map (·.1) := hperm.mem_iff.mpr (List.mem_map_of_mem hentry)
    obtain ⟨value, hvalue⟩ := Option.isSome_iff_exists.mp (Toml.lookup_isSome_iff.mpr hid)
    obtain ⟨changes, hchanges, hget⟩ := h.named _ (Toml.mem_of_lookup hvalue)
    have hvalue' := Toml.lookup_of_mem hnames hentry
    exact ⟨changes, hsame entry.1 value entry.2 hvalue hvalue' _ changes hchanges, hget⟩
  · intro id hid
    exact h.others id fun hmem => hid (hperm.mem_iff.mp hmem)
  · intro id hid
    exact h.regions id (hperm.mem_iff.mpr hid)

/-- Tables of languages make the same registry in any order, or none in any. -/
theorem applyTables_reorders (h : Reorders (.table languages) (.table languages'))
    (registry : Registry) :
    applyTables compiler languages = .ok registry ↔
      applyTables compiler languages' = .ok registry := by
  cases h with
  | refl => rfl
  | table hnames hperm h =>
    have hnames' := hperm.nodup_iff.mp hnames
    rw [applyTables_eq_ok_iff hnames, applyTables_eq_ok_iff hnames']
    constructor
    · intro happlied
      apply happlied.congr hnames' hperm
      intro id value value' hvalue hvalue' key changes
      exact (tableSpells_congr (h id value value' hvalue hvalue') changes).mp
    · intro happlied
      apply happlied.congr hnames hperm.symm
      intro id value' value hvalue' hvalue key changes
      exact (tableSpells_congr (h id value value' hvalue hvalue') changes).mpr

end Tables

/-! ### Configurations in any order -/

section Patterns

variable {config config' : Table} {value value' : Value} {source : Text}

theorem RuleOf.of_reorders (h : Reorders value value') (hrule : RuleOf value' source) :
    RuleOf value source := by
  obtain ⟨table', name, hvalue, hname, hlookup'⟩ := hrule
  cases h with
  | refl => exact ⟨table', name, hvalue, hname, hlookup'⟩
  | array => cases hvalue
  | table hnames hperm h =>
    obtain rfl := Value.table.inj hvalue
    have hentry := Toml.rel_lookup hperm h name
    rw [hlookup'] at hentry
    generalize hlookup : List.lookup name _ = value? at hentry
    cases hentry with
    | some hvalue =>
      cases hvalue
      exact ⟨_, name, rfl, hname, hlookup⟩

theorem PatternOf.of_reorders (h : Reorders value value') (hpattern : PatternOf value' source) :
    PatternOf value source := by
  obtain ⟨table', rules', hvalue, hlookup', hrule⟩ := hpattern
  cases h with
  | refl => exact ⟨table', rules', hvalue, hlookup', hrule⟩
  | array => cases hvalue
  | table hnames hperm h =>
    obtain rfl := Value.table.inj hvalue
    have hentry := Toml.rel_lookup hperm h "indentation"
    rw [hlookup'] at hentry
    generalize hlookup : List.lookup "indentation" _ = value? at hentry
    cases hentry with
    | some hvalue => exact ⟨_, _, rfl, hlookup, hrule.of_reorders hvalue⟩

/-- A configuration has the same patterns in another order. -/
theorem RuleText.of_reorders (h : Reorders (.table config) (.table config'))
    (hrule : RuleText config' source) : RuleText config source := by
  obtain ⟨languages', entry', hlookup', hentry', hpattern⟩ := hrule
  cases h with
  | refl => exact ⟨languages', entry', hlookup', hentry', hpattern⟩
  | table _ hperm h =>
    have hentry := Toml.rel_lookup hperm h "languages"
    rw [hlookup'] at hentry
    generalize hlookup : List.lookup "languages" _ = value? at hentry
    cases hentry with
    | some hvalue =>
      cases hvalue with
      | refl => exact ⟨languages', entry', hlookup, hentry', hpattern⟩
      | @table languages _ hnames hperm h =>
        -- the languages have distinct names, so each entry is the one that is looked up
        have hlookup'' := Toml.lookup_of_mem (hperm.nodup_iff.mp hnames) hentry'
        have hlanguage := Toml.rel_lookup hperm h entry'.1
        rw [hlookup''] at hlanguage
        generalize hfound : languages.lookup entry'.1 = value? at hlanguage
        cases hlanguage with
        | some hvalue =>
          exact ⟨languages, _, hlookup, Toml.mem_of_lookup hfound, hpattern.of_reorders hvalue⟩

end Patterns

theorem languageTables_reorders {config config' : Table}
    (h : Option.Rel Reorders (config.lookup "languages") (config'.lookup "languages"))
    (registry : Registry) :
    languageTables config >>= applyTables compiler = .ok registry ↔
      languageTables config' >>= applyTables compiler = .ok registry := by
  rw [languageTables, languageTables]
  generalize config.lookup "languages" = value?, config'.lookup "languages" = value?' at h ⊢
  cases h with
  | none => rfl
  | some hvalue =>
    cases hvalue with
    | refl => rfl
    | array => rfl
    | table hnames hperm h => exact applyTables_reorders (.table hnames hperm h) registry

theorem buildRegistry_eq_ok_iff {config : Table} {path : Option Path} {registry : Registry} :
    buildRegistry compiler config path = .ok registry ↔
      languageTables config >>= applyTables compiler = .ok registry := by
  unfold buildRegistry
  split <;> simp_all

/-- How a configuration may fail in any order: it is refused with an error, or reading one of its
patterns breaks down. -/
def FailsWith (compiler : Pattern.Compiler) (config : Table) : Failed Error → Prop
  | .cause _ => True
  | .breakdown reason =>
    ∃ source, RuleText config source ∧ compiler source = .error (.breakdown reason)

/-- Two configurations with the same tables and the same entries in them, in any order, are both
accepted and make the same registry, or they both fail. If reading their patterns does not break
down, both are refused with an error. -/
theorem buildRegistry_reorders {config config' : Table}
    (h : Reorders (.table config) (.table config')) (path : Option Path) :
    (∃ registry, buildRegistry compiler config path = .ok registry ∧
      buildRegistry compiler config' path = .ok registry) ∨
    ∃ failed failed', buildRegistry compiler config path = .error failed ∧
      buildRegistry compiler config' path = .error failed' ∧
      FailsWith compiler config failed ∧ FailsWith compiler config failed' := by
  have hiff : ∀ registry, buildRegistry compiler config path = .ok registry ↔
      buildRegistry compiler config' path = .ok registry := by
    intro registry
    rw [buildRegistry_eq_ok_iff, buildRegistry_eq_ok_iff]
    cases h with
    | refl => rfl
    | table _ hperm h =>
      exact languageTables_reorders (Toml.rel_lookup hperm h "languages") registry
  cases hbuild : buildRegistry compiler config path with
  | ok registry => exact .inl ⟨registry, rfl, (hiff registry).mp hbuild⟩
  | error failed =>
    cases hbuild' : buildRegistry compiler config' path with
    | ok registry => cases hbuild.symm.trans ((hiff registry).mpr hbuild')
    | error failed' =>
      refine .inr ⟨failed, failed', rfl, rfl, ?_, ?_⟩
      · cases failed with
        | cause _ => trivial
        | breakdown reason => exact ruleText_of_buildRegistry_eq_breakdown hbuild
      · cases failed' with
        | cause _ => trivial
        | breakdown reason =>
          -- what breaks down in the other order is a pattern of this configuration as well
          obtain ⟨source, hsource, hbreaks⟩ := ruleText_of_buildRegistry_eq_breakdown hbuild'
          exact ⟨source, hsource.of_reorders h, hbreaks⟩

/-- Two languages, the first with a region in the second, in the other order: the tables and the
entries in them all stand the other way round. For a language with a pattern that breaks reading
down, beside another one that is no table, it depends on the order whether an error is reported. -/
theorem buildRegistry_reorders_reversed :
    let compiler := Tools.standard.compiler
    let quotes : String × Value := ("quotes", .array [.text ['"']])
    let opening : String × Value := ("open", .text ['<'])
    let closing : String × Value := ("close", .text ['>'])
    let language : String × Value := ("language", .text ['b'])
    let first : Table := [quotes, ("embedded", .array [.table [opening, closing, language]])]
    let first' : Table := [("embedded", .array [.table [language, closing, opening]]), quotes]
    let config : Table := [("languages", .table [("a", .table first), ("b", .table [quotes])])]
    let config' : Table := [("languages", .table [("b", .table [quotes]), ("a", .table first')])]
    let rules : Table := [("increase", .text "(?a)(?u)x".toList)]
    let breaking : String × Value := ("a", .table [("indentation", .table rules)])
    let wrong : String × Value := ("b", .boolean true)
    Reorders (.table config) (.table config') ∧
      (∃ registry, buildRegistry compiler config none = .ok registry ∧
        buildRegistry compiler config' none = .ok registry) ∧
      Reorders (.table [("languages", .table [breaking, wrong])])
        (.table [("languages", .table [wrong, breaking])]) ∧
      buildRegistry compiler [("languages", .table [breaking, wrong])] none =
        .error (.breakdown .flagsIncompatible) ∧
      buildRegistry compiler [("languages", .table [wrong, breaking])] none =
        .error (.cause ⟨⟨.notTable "languages.b", some "languages.b"⟩, none⟩) := by
  intro compiler quotes opening closing language first first' config config' rules breaking wrong
  have hregion : Reorders (.table [opening, closing, language])
      (.table [language, closing, opening]) :=
    .of_entries (by decide) (List.reverse_perm _).symm
      (List.forall₂_same.mpr fun _ _ => ⟨rfl, .refl _⟩)
  have hfirst : Reorders (.table first) (.table first') :=
    .of_entries (by decide) (List.reverse_perm _).symm
      (.cons ⟨rfl, .array (.cons hregion .nil)⟩ (.cons ⟨rfl, .refl _⟩ .nil))
  have hlanguages : Reorders (.table [("a", .table first), ("b", .table [quotes])])
      (.table [("b", .table [quotes]), ("a", .table first')]) :=
    .of_entries (by decide) (List.reverse_perm _).symm
      (.cons ⟨rfl, .refl _⟩ (.cons ⟨rfl, hfirst⟩ .nil))
  have hconfig : Reorders (.table config) (.table config') :=
    .of_entries (by decide) (.refl _) (.cons ⟨rfl, hlanguages⟩ .nil)
  have hwrong : Reorders (.table [breaking, wrong]) (.table [wrong, breaking]) :=
    .of_entries (by decide) (List.Perm.swap _ _ _)
      (List.forall₂_same.mpr fun _ _ => ⟨rfl, .refl _⟩)
  -- whether two registries are equal is not decided, so none is looked at
  have hbreaks : (buildRegistry compiler [("languages", .table [breaking, wrong])] none).map
      (fun _ => ()) = .error (.breakdown .flagsIncompatible) := by decide +kernel
  refine ⟨hconfig, ?_, .of_entries (by decide) (.refl _) (.cons ⟨rfl, hwrong⟩ .nil),
    eq_error_of_map hbreaks, rfl⟩
  rcases @buildRegistry_reorders compiler _ _ hconfig none with haccepted | ⟨error, _, herror, -⟩
  · exact haccepted
  · have hlookup : config.lookup "languages" =
        some (.table [("a", .table first), ("b", .table [quotes])]) := rfl
    have hshape : WellShaped compiler config := by
      intro value hvalue
      obtain rfl := Option.some.inj (hlookup.symm.trans hvalue)
      refine ⟨_, rfl, List.forall_mem_cons.mpr ⟨⟨first, rfl, ?_, ?_⟩,
        List.forall_mem_singleton.mpr ⟨[quotes], rfl, ?_, ?_⟩⟩⟩
      · exact List.forall_mem_cons.mpr ⟨by simp [quotes], List.forall_mem_singleton.mpr (by simp)⟩
      · simp [Shape.ArrayOf, Shape.EmbeddedRegion, Shape.Character, Known, first, quotes, opening,
          closing, language, List.lookup_cons]
      · exact List.forall_mem_singleton.mpr (by simp [quotes])
      · simp [Shape.ArrayOf, Shape.Character, quotes, List.lookup_cons]
    have hnames : ∀ languages, config.lookup "languages" = some (.table languages) →
        (languages.map (·.1)).Nodup := by
      intro languages hlanguages
      obtain rfl := Value.table.inj (Option.some.inj (hlookup.symm.trans hlanguages))
      decide
    obtain ⟨registry, hregistry⟩ := (checks_languageTables hnames).accepts.mpr hshape
    cases herror.symm.trans (buildRegistry_eq_ok_iff.mpr hregistry)

end Config

end Indentation
