import Indentation.Proofs.Lowercase
import Indentation.Proofs.Overrides

/-!
# Extensions of files

The extensions in a configuration are put into lowercase and get a dot, and the extension of a path
is put into lowercase when its language is looked for. The two forms meet: a file whose name ends in
an extension that has been accepted gets a language, the first one by id among those that list it.

A path has only one extension, from the last dot of its name on. So of an extension with several
dots only the last part is looked for.

## Main definitions

* `Registry.Lists` — a language has an extension
* `Registry.IsFirstFor` — the first language with an extension

## Main results

* `Registry.languageForPath_eq_some_iff` — the language of a path
* `Path.suffix_ofText` — the extension of a name with a dot
* `Config.exists_lists_of_buildRegistry` — an accepted extension is listed by its language
* `Config.extensions_are_found` — the language of a file with an accepted extension
-/

namespace Indentation

/-! ### The first language with an extension -/

namespace Registry

variable {registry : Registry} {extension : Text} {id : String} {path : Path}

/-- The language has the extension. -/
def Lists (registry : Registry) (extension : Text) (id : String) : Prop :=
  ∃ language, registry.get? id = some language ∧ extension ∈ language.extensions

/-- Of all languages with the extension, this one has the least id. -/
structure IsFirstFor (registry : Registry) (extension : Text) (id : String) : Prop where
  lists : registry.Lists extension id
  le : ∀ other, registry.Lists extension other → id ≤ other

theorem mem_ids_iff : id ∈ registry.ids ↔ (registry.get? id).isSome = true := by
  rw [ids, Std.ExtTreeMap.mem_keys, Std.ExtTreeMap.mem_iff_isSome_getElem?, get?]

/-- The ids are in ascending order. -/
theorem pairwise_ids (registry : Registry) : registry.ids.Pairwise (· < ·) :=
  List.Pairwise.imp (fun h => compareOfLessAndEq_eq_lt.mp h)
    (Std.ExtTreeMap.ordered_keys (t := registry.languages))

theorem lists_iff : registry.Lists extension id ↔
    id ∈ registry.ids ∧ (registry.get? id).any (·.extensions.contains extension) = true := by
  rw [Lists, mem_ids_iff]
  cases registry.get? id <;> simp

/-- What is found first in ascending order is the least that can be found. -/
theorem find?_eq_some_iff_least {ids : List String} (h : ids.Pairwise (· < ·))
    {p : String → Bool} :
    ids.find? p = some id ↔ (id ∈ ids ∧ p id) ∧ ∀ other ∈ ids, p other → id ≤ other := by
  induction ids with
  | nil => simp
  | cons first ids ih =>
    obtain ⟨hfirst, hids⟩ := List.pairwise_cons.mp h
    by_cases hp : p first
    · rw [List.find?_cons_of_pos hp, Option.some_inj]
      constructor
      · rintro rfl
        refine ⟨⟨List.mem_cons_self, hp⟩, fun other hmem _ => ?_⟩
        rcases List.mem_cons.mp hmem with rfl | hmem
        · exact Std.le_refl _
        · exact Std.le_of_lt (hfirst other hmem)
      · rintro ⟨⟨hmem, -⟩, hle⟩
        rcases List.mem_cons.mp hmem with rfl | hmem
        · rfl
        · exact absurd (hfirst id hmem) (Std.not_lt.mpr (hle first List.mem_cons_self hp))
    · -- the first one is none of those that can be found
      rw [List.find?_cons_of_neg hp, ih hids, List.forall_mem_cons]
      refine and_congr (and_congr_left fun hid => ?_) (and_iff_right fun h => absurd h hp).symm
      have hne : id ≠ first := by
        rintro rfl
        exact hp hid
      rw [List.mem_cons, or_iff_right hne]

theorem languageForPath_eq_some_iff (hne : extension ≠ [])
    (hsuffix : lowercase path.suffix = extension) :
    registry.languageForPath path = some id ↔ registry.IsFirstFor extension id := by
  rw [languageForPath, hsuffix, if_neg (by simpa using hne),
    find?_eq_some_iff_least registry.pairwise_ids, ← lists_iff]
  constructor
  · rintro ⟨hlists, hle⟩
    refine ⟨hlists, fun other hother => ?_⟩
    obtain ⟨hmem, hany⟩ := lists_iff.mp hother
    exact hle other hmem hany
  · rintro ⟨hlists, hle⟩
    exact ⟨hlists, fun other hmem hany => hle other (lists_iff.mpr ⟨hmem, hany⟩)⟩

/-- If a language has the extension, then one of them is found. -/
theorem exists_languageForPath (hne : extension ≠ [])
    (hsuffix : lowercase path.suffix = extension) (hlists : registry.Lists extension id) :
    ∃ found, registry.languageForPath path = some found := by
  obtain ⟨hmem, hany⟩ := lists_iff.mp hlists
  rw [languageForPath, hsuffix, if_neg (by simpa using hne), ← Option.isSome_iff_exists,
    List.find?_isSome]
  exact ⟨id, hmem, hany⟩

end Registry

/-! ### The extension of a path -/

namespace Path

variable {name stem last : Text}

theorem splitSeparators_of_not_mem (h : '/' ∉ name) : splitSeparators name = [name] := by
  induction name with
  | nil => rfl
  | cons c cs ih =>
    have hc : c ≠ '/' := fun heq => h (heq ▸ List.mem_cons_self)
    rw [splitSeparators.eq_3 c cs (fun heq => hc heq), ih fun hmem => h (List.mem_cons_of_mem c hmem)]

theorem suffix_ofText_of_not_mem (h : '/' ∉ name) (hnil : name ≠ []) (hdot : name ≠ ['.']) :
    (ofText name).suffix = extension name := by
  rw [suffix, ofText, splitSeparators_of_not_mem h]
  simp [hnil, hdot]

/-- The extension begins at the last dot, if something stands on both sides of it. -/
theorem extension_append (hstem : stem ≠ []) (hlast : last ≠ []) (hdot : '.' ∉ last) :
    extension (stem ++ '.' :: last) = '.' :: last := by
  have htail : (stem ++ '.' :: last).reverse.takeWhile (· != '.') = last.reverse := by
    rw [List.reverse_append, List.reverse_cons, List.append_assoc,
      List.takeWhile_append_of_pos (by
        intro c hmem
        simpa using fun heq : c = '.' => hdot (heq ▸ List.mem_reverse.mp hmem))]
    simp
  have hlength := List.length_pos_iff.mpr hstem
  rw [extension, htail]
  simp [hlast]
  omega

/-- The extension of a name with a dot. -/
theorem suffix_ofText (hslash : '/' ∉ stem ++ '.' :: last) (hstem : stem ≠ []) (hlast : last ≠ [])
    (hdot : '.' ∉ last) : (ofText (stem ++ '.' :: last)).suffix = '.' :: last := by
  rw [suffix_ofText_of_not_mem hslash (by simp) ?_, extension_append hstem hlast hdot]
  intro heq
  have hlength := congrArg List.length heq
  have hpos := List.length_pos_iff.mpr hstem
  rw [List.length_append, List.length_cons, List.length_singleton] at hlength
  omega

end Path

/-! ### Extensions in a configuration -/

namespace Config

open Toml (Value Table)

section NormalForm

variable {entry : Text} {c : Char}

theorem mem_normalExtension (h : c ∈ normalExtension entry) : c = '.' ∨ c ∈ lowercase entry := by
  rw [normalExtension] at h
  split at h
  · exact .inr h
  · exact List.mem_cons.mp h

/-- The normal form of an extension is in lowercase. -/
theorem isLower_of_mem_normalExtension (h : c ∈ normalExtension entry) :
    Character.IsLower c.toNat := by
  rcases mem_normalExtension h with rfl | hmem
  · exact Character.isLower_of_ascii (by decide) (by decide)
  · exact isLower_of_mem_lowercase hmem

theorem slash_not_mem_normalExtension (h : '/' ∉ entry) : '/' ∉ normalExtension entry := by
  intro hmem
  rcases mem_normalExtension hmem with heq | hmem
  · exact absurd heq (by decide)
  · exact h (mem_of_mem_lowercaseAfter (by decide) hmem)

/-- A dot in front does not stand at the end as well. -/
theorem getLast?_normalExtension (hnil : entry ≠ []) (h : entry.getLast? ≠ some '.') :
    (normalExtension entry).getLast? ≠ some '.' := by
  have hlower : (lowercase entry).getLast? ≠ some '.' :=
    fun heq => h (getLast?_of_lowercaseAfter (by decide) heq)
  rw [normalExtension]
  split
  · exact hlower
  · have hne : lowercase entry ≠ [] := fun heq => hnil (lowercaseAfter_eq_nil_iff.mp heq)
    rw [List.getLast?_cons_of_ne_nil hne]
    exact hlower

theorem head?_normalExtension (entry : Text) : (normalExtension entry).head? = some '.' := by
  rw [normalExtension]
  split
  · assumption
  · rfl

/-- The last dot of an extension, and something behind it. -/
theorem exists_normalExtension_eq (hnil : entry ≠ []) (h : entry.getLast? ≠ some '.') :
    ∃ stem last, normalExtension entry = stem ++ '.' :: last ∧ '.' ∉ last ∧ last ≠ [] := by
  have hdot : '.' ∈ (normalExtension entry).reverse :=
    List.mem_reverse.mpr (List.mem_of_mem_head? (head?_normalExtension entry))
  obtain ⟨behind, before, heq, hbehind⟩ := List.eq_append_cons_of_mem hdot
  have heq : normalExtension entry = before.reverse ++ '.' :: behind.reverse := by
    rw [← List.reverse_reverse (normalExtension entry), heq]
    simp
  refine ⟨_, _, heq, fun hmem => hbehind (List.mem_reverse.mp hmem), ?_⟩
  intro hlast
  rw [hlast] at heq
  exact getLast?_normalExtension hnil h (by rw [heq, List.getLast?_concat])

/-- What is looked for when a file name ends in an extension: the part from the last dot on. -/
theorem lowercase_suffix_of_eq {stem last : Text} (hslash : '/' ∉ entry)
    (heq : normalExtension entry = stem ++ '.' :: last) (hdot : '.' ∉ last) (hlast : last ≠ []) :
    lowercase (Path.ofText ('f' :: normalExtension entry)).suffix = '.' :: last := by
  have hname : '/' ∉ 'f' :: stem ++ '.' :: last := by
    rw [List.cons_append, ← heq]
    exact List.not_mem_cons_of_ne_of_not_mem (by decide) (slash_not_mem_normalExtension hslash)
  rw [heq, ← List.cons_append, Path.suffix_ofText hname (List.cons_ne_nil _ _) hlast hdot]
  have hlower : ∀ c ∈ normalExtension entry, Character.IsLower c.toNat :=
    fun c hmem => isLower_of_mem_normalExtension hmem
  rw [heq] at hlower
  exact lowercase_of_isLower fun c hmem => hlower c (List.mem_append_right stem hmem)

end NormalForm

section Entries

variable {compiler : Pattern.Compiler} {config table : Table} {path : Option Path}
  {registry : Registry} {id : String}

/-- The table of a language in an accepted configuration spells the changes of this language. -/
theorem exists_changes_of_buildRegistry (h : buildRegistry compiler config path = .ok registry)
    (hnames : ∀ languages, config.lookup "languages" = some (.table languages) →
      (languages.map (·.1)).Nodup)
    (htable : languageTable? config id = some table) :
    ∃ changes, decodeChanges compiler (languageKey id) table = .ok changes ∧
      registry.get? id = some (changes.apply (baseLanguage id)) := by
  obtain ⟨languages, hlanguages, hlookup⟩ := languageTable?_eq_some_iff.mp htable
  rcases exists_of_buildRegistry h with ⟨hnone, -⟩ | ⟨others, hothers, happly⟩
  · cases hnone.symm.trans hlanguages
  · obtain rfl := Value.table.inj (Option.some.inj (hlanguages.symm.trans hothers))
    obtain ⟨registry', hfold, happly⟩ := bind_eq_ok.mp happly
    obtain ⟨-, -, happly⟩ := bind_eq_ok.mp happly
    obtain rfl := Except.ok.inj happly
    obtain ⟨changes, ⟨table', heq, hchanges⟩, hget⟩ :=
      (get?_of_foldlM (hnames languages hlanguages) hfold).1 _ (Toml.mem_of_lookup hlookup)
    obtain rfl := Value.table.inj heq
    exact ⟨changes, hchanges, hget⟩

/-- The entries of an array of extensions are not empty, and are put into their normal form. -/
theorem of_decodeExtensions {key : String} {items : List Value} {extensions : List Text}
    (h : decodeExtensions key (.array items) = .ok extensions) {entry : Text}
    (hentry : .text entry ∈ items) : entry ≠ [] ∧ normalExtension entry ∈ extensions := by
  obtain ⟨texts, htexts, h⟩ := bind_eq_ok.mp h
  obtain rfl := Except.ok.inj h
  constructor
  · obtain ⟨items', heq, hshape⟩ := (checks_decodeTexts key (.array items)).accepts.mp ⟨texts, htexts⟩
    obtain rfl := Value.array.inj heq
    obtain ⟨text, htext, hne⟩ := hshape _ hentry
    obtain rfl := Value.text.inj htext
    exact hne
  · rw [Value.array.inj (eq_array_of_decodeTexts htexts)] at hentry
    obtain ⟨text, hmem, htext⟩ := List.mem_map.mp hentry
    obtain rfl := Value.text.inj htext
    exact List.mem_map_of_mem hmem

/-- An accepted extension is not empty, and its language lists its normal form. -/
theorem exists_lists_of_buildRegistry (h : buildRegistry compiler config path = .ok registry)
    (hnames : ∀ languages, config.lookup "languages" = some (.table languages) →
      (languages.map (·.1)).Nodup)
    (htable : languageTable? config id = some table) {items : List Value} {entry : Text}
    (hitems : table.lookup "extensions" = some (.array items)) (hentry : .text entry ∈ items) :
    entry ≠ [] ∧ registry.Lists (normalExtension entry) id := by
  obtain ⟨changes, hchanges, hget⟩ := exists_changes_of_buildRegistry h hnames htable
  have hspells := (spells_of_decodeChanges hchanges).extensions
  cases hextensions : changes.extensions with
  | none =>
    rw [hextensions] at hspells
    cases (lookup_of_decodeEntry hspells).symm.trans hitems
  | some extensions =>
    rw [hextensions] at hspells
    obtain ⟨value, hvalue, hdecode⟩ := decodeEntry_eq_ok hspells
    obtain rfl := Option.some.inj (hitems.symm.trans hvalue)
    obtain ⟨hne, hmem⟩ := of_decodeExtensions hdecode hentry
    refine ⟨hne, _, hget, ?_⟩
    rw [Changes.apply, hextensions]
    exact hmem

/-- A file whose name ends in an accepted extension is looked up by what follows its last dot. If
the extension has no other dot than the one in front, the file gets a language, and this is the
first one by id among all languages with the extension. -/
theorem extensions_are_found (h : buildRegistry compiler config path = .ok registry)
    (hnames : ∀ languages, config.lookup "languages" = some (.table languages) →
      (languages.map (·.1)).Nodup)
    (htable : languageTable? config id = some table) {items : List Value} {entry : Text}
    (hitems : table.lookup "extensions" = some (.array items)) (hentry : .text entry ∈ items)
    (hslash : '/' ∉ entry) (hdot : entry.getLast? ≠ some '.') :
    ('.' ∉ (normalExtension entry).tail → ∃ found,
      registry.languageForPath (.ofText ('f' :: normalExtension entry)) = some found ∧
        registry.IsFirstFor (normalExtension entry) found) ∧
    ∃ stem last, normalExtension entry = stem ++ '.' :: last ∧ '.' ∉ last ∧
      ∀ found, registry.languageForPath (.ofText ('f' :: normalExtension entry)) = some found ↔
        registry.IsFirstFor ('.' :: last) found := by
  obtain ⟨hne, hlists⟩ := exists_lists_of_buildRegistry h hnames htable hitems hentry
  obtain ⟨stem, last, heq, hlast, hlast'⟩ := exists_normalExtension_eq hne hdot
  have hsuffix := lowercase_suffix_of_eq hslash heq hlast hlast'
  have hfound (found : String) :
      registry.languageForPath (.ofText ('f' :: normalExtension entry)) = some found ↔
        registry.IsFirstFor ('.' :: last) found :=
    Registry.languageForPath_eq_some_iff (List.cons_ne_nil '.' last) hsuffix
  refine ⟨fun hsingle => ?_, stem, last, heq, hlast, hfound⟩
  -- the last dot is the one in front, so that the whole extension is looked for
  have hstem : stem = [] := by
    cases stem with
    | nil => rfl
    | cons c stem =>
      rw [heq] at hsingle
      exact absurd (List.mem_append_right stem List.mem_cons_self) hsingle
  rw [hstem, List.nil_append] at heq
  obtain ⟨found, hpath⟩ := Registry.exists_languageForPath (List.cons_ne_nil '.' last) hsuffix
    (heq ▸ hlists)
  refine ⟨found, hpath, ?_⟩
  rw [heq]
  exact (hfound found).mp hpath

end Entries

/-! ### One extension -/

/-- The table of a language of which nothing but an extension is given. -/
def extensionTable (entry : Text) : Table :=
  [("extensions", .array [.text entry])]

/-- A configuration with one such language. -/
def extensionConfig (id : String) (entry : Text) : Table :=
  [("languages", .table [(id, .table (extensionTable entry))])]

theorem nodup_extensionConfig (id : String) (entry : Text) (languages : Table)
    (h : (extensionConfig id entry).lookup "languages" = some (.table languages)) :
    (languages.map (·.1)).Nodup := by
  obtain rfl := Value.table.inj (Option.some.inj h)
  exact List.pairwise_singleton _ id

theorem languageTable?_extensionConfig (id : String) (entry : Text) :
    languageTable? (extensionConfig id entry) id = some (extensionTable entry) :=
  languageTable?_eq_some_iff.mpr ⟨_, rfl, List.lookup_cons_self⟩

theorem buildRegistry_extensionConfig {compiler : Pattern.Compiler} {id : String} {entry : Text}
    (hid : Registry.builtin.get? id = none) (hne : entry ≠ []) :
    buildRegistry compiler (extensionConfig id entry) none =
      .ok (Registry.builtin.register { id, extensions := [normalExtension entry] }) := by
  obtain ⟨c, cs, rfl⟩ := List.exists_cons_of_ne_nil hne
  have happly : applyTable compiler .builtin id (.table (extensionTable (c :: cs))) =
      .ok (Registry.builtin.register { id, extensions := [normalExtension (c :: cs)] }) := by
    unfold applyTable
    rw [hid]
    rfl
  have hget : (Registry.builtin.register
      { id, extensions := [normalExtension (c :: cs)] }).get? id =
        some { id, extensions := [normalExtension (c :: cs)] } := by
    rw [Registry.get?_register]
    exact if_pos rfl
  have hcheck : checkEmbedded (Registry.builtin.register
      { id, extensions := [normalExtension (c :: cs)] }) id = .ok () := by
    rw [checkEmbedded, Registry.grammar_of_get? hget]
    rfl
  have hlanguages : languageTables (extensionConfig id (c :: cs)) =
      .ok [(id, .table (extensionTable (c :: cs)))] := rfl
  have htables : languageTables (extensionConfig id (c :: cs)) >>= applyTables compiler =
      .ok (Registry.builtin.register { id, extensions := [normalExtension (c :: cs)] }) :=
    bind_eq_ok.mpr ⟨_, hlanguages, applyTables_singleton happly hcheck⟩
  rw [buildRegistry, htables]

/-- An extension in capital letters that a built-in language has as well. -/
theorem extensions_are_found_shared :
    ∃ registry, buildRegistry Tools.standard.compiler (extensionConfig "zeta" "JSX".toList) none =
        .ok registry ∧
      '/' ∉ "JSX".toList ∧ "JSX".toList.getLast? ≠ some '.' ∧ '.' ∉ ".jsx".toList.tail ∧
      normalExtension "JSX".toList = ".jsx".toList ∧
      ∃ found, registry.languageForPath (.ofText "f.jsx".toList) = some found ∧
        registry.IsFirstFor ".jsx".toList found := by
  have hid : Registry.builtin.get? "zeta" = none := by
    rw [Registry.get?_builtin]
    rfl
  have hbuild := @buildRegistry_extensionConfig Tools.standard.compiler _ _ hid
    (show "JSX".toList ≠ [] by decide)
  have hslash : '/' ∉ "JSX".toList := by decide
  have hdot : "JSX".toList.getLast? ≠ some '.' := by decide
  have hnormal : normalExtension "JSX".toList = ".jsx".toList := by decide +kernel
  have hsingle : '.' ∉ ".jsx".toList.tail := by decide
  have hfound := (extensions_are_found hbuild (nodup_extensionConfig _ _)
    (languageTable?_extensionConfig _ _) List.lookup_cons_self List.mem_cons_self hslash hdot).1
  rw [hnormal] at hfound
  exact ⟨_, hbuild, hslash, hdot, hsingle, hnormal, hfound hsingle⟩

/-- An extension with several dots is accepted and listed, but no file has it. -/
theorem extension_with_dots_is_lost :
    ∃ registry, buildRegistry Tools.standard.compiler (extensionConfig "archive" "tar.gz".toList)
        none = .ok registry ∧
      '/' ∉ "tar.gz".toList ∧ '\x00' ∉ "tar.gz".toList ∧ "tar.gz".toList.getLast? ≠ some '.' ∧
      registry.Lists (normalExtension "tar.gz".toList) "archive" ∧
      registry.languageForPath (.ofText ('f' :: normalExtension "tar.gz".toList)) = none := by
  have hid : Registry.builtin.get? "archive" = none := by
    rw [Registry.get?_builtin]
    rfl
  have hbuild := @buildRegistry_extensionConfig Tools.standard.compiler _ _ hid
    (show "tar.gz".toList ≠ [] by decide)
  have hnormal : normalExtension "tar.gz".toList = ".tar".toList ++ '.' :: "gz".toList := by
    decide +kernel
  have hslash : '/' ∉ "tar.gz".toList := by decide
  have hlists := (exists_lists_of_buildRegistry hbuild (nodup_extensionConfig _ _)
    (languageTable?_extensionConfig _ _) List.lookup_cons_self List.mem_cons_self).2
  refine ⟨_, hbuild, hslash, by decide, by decide, hlists, ?_⟩
  rw [Option.eq_none_iff_forall_ne_some]
  intro found hfound
  have hsuffix := lowercase_suffix_of_eq hslash hnormal (by decide) (by decide)
  obtain ⟨⟨language, hget, hmem⟩, -⟩ :=
    (Registry.languageForPath_eq_some_iff (by decide) hsuffix).mp hfound
  -- neither the new language nor a built-in one has the last part as an extension
  rw [Registry.get?_register, hnormal] at hget
  split at hget
  · obtain rfl := Option.some.inj hget
    exact absurd hmem (by decide)
  · have hbuiltin : ∀ language ∈ Builtin.languages, ".gz".toList ∉ language.extensions := by
      decide
    exact hbuiltin language (Registry.mem_languages_of_get? hget).1 hmem

end Config

end Indentation
