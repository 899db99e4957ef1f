import Indentation.Config
import Indentation.Proofs.ReachableStates

/-!
# Configured languages

A configuration is accepted only if the embedded regions of the languages that it names lie in
languages that are known in the end. The languages that it does not name stay built-in ones, and
what they embed is built in and can be changed, but not removed. So nothing that the lexer meets
leads out of the registry: every region that it opens and every token that it makes belongs to a
registered language. Delimiters that are read from a configuration are not empty, so each comment
and each region can be closed.

## Main definitions

* `Grammar.Closable` — no comment or region of a grammar closes with the empty text
* `Registry.Sound` — the languages of a registry embed each other and can be closed
* `Config.Spells` — what a table that is accepted says about each component
* `Config.Extends` — registries that change the built-in one in some languages

## Main results

* `Config.spells_of_decodeChanges` — accepted tables
* `Config.Extends.applyTable`, `Config.extends_of_applyTables` — what applying tables keeps
* `Config.sound_of_buildRegistry` — the registry of an accepted configuration is sound
* `Registry.Sound.wellFormed_registered` — states over a sound registry
* `Config.buildRegistry_closed` — lexing does not leave the registry of a configuration
-/

namespace Indentation

/-- Neither the comments nor the embedded regions of a grammar close with the empty text. -/
structure Grammar.Closable (grammar : Grammar) : Prop where
  blockComments : ∀ comment ∈ grammar.blockComments, comment.closing ≠ []
  embedded : ∀ embedding ∈ grammar.embedded, embedding.closing ≠ []

/-- Each embedded region lies in a language of the registry, and all grammars can be closed. -/
structure Registry.Sound (registry : Registry) : Prop where
  embedded : ∀ id language, registry.get? id = some language →
    ∀ embedding ∈ language.grammar.embedded, registry.contains embedding.language = true
  closable : ∀ id language, registry.get? id = some language → language.grammar.Closable

namespace Config

open Toml (Value Table)

variable {compiler : Pattern.Compiler}

/-! ### Decoding -/

section Decoding

variable {α β ε : Type}

theorem bind_eq_ok {x : Except ε α} {f : α → Except ε β} {b : β} :
    x >>= f = .ok b ↔ ∃ a, x = .ok a ∧ f a = .ok b := by
  cases x with
  | error e => exact ⟨fun h => (by cases h), fun ⟨_, h, _⟩ => (by cases h)⟩
  | ok a => exact ⟨fun h => ⟨a, rfl, h⟩, fun ⟨_, ha, hf⟩ => Except.ok.inj ha ▸ hf⟩

theorem bind_eq_error {x : Except ε α} {f : α → Except ε β} {e : ε} :
    x >>= f = .error e ↔ x = .error e ∨ ∃ a, x = .ok a ∧ f a = .error e := by
  cases x with
  | error e' =>
    refine ⟨fun h => .inl (congrArg Except.error (Except.error.inj h)), ?_⟩
    rintro (h | ⟨_, h, -⟩)
    · exact congrArg Except.error (Except.error.inj h)
    · cases h
  | ok a =>
    refine ⟨fun h => .inr ⟨a, rfl, h⟩, ?_⟩
    rintro (h | ⟨a', ha, h⟩)
    · cases h
    · exact Except.ok.inj ha ▸ h

theorem eq_error_of_map {x : Except ε α} {f : α → β} {e : ε} (h : x.map f = .error e) :
    x = .error e := by
  cases x with
  | error other => exact congrArg Except.error (Except.error.inj h)
  | ok _ => cases h

theorem bind_of_ok {x : Except ε α} {f : α → Except ε β} {a : α} (h : x = .ok a) :
    x >>= f = f a := by
  rw [h]
  rfl

theorem exists_of_mem_mapM {f : α → Except ε β} {items : List α} {results : List β}
    (h : items.mapM f = .ok results) {result : β} (hmem : result ∈ results) :
    ∃ item ∈ items, f item = .ok result := by
  induction items generalizing results with
  | nil =>
    obtain rfl := Except.ok.inj h
    exact absurd hmem List.not_mem_nil
  | cons item items ih =>
    rw [List.mapM_cons] at h
    obtain ⟨first, hfirst, h⟩ := bind_eq_ok.mp h
    obtain ⟨others, hothers, h⟩ := bind_eq_ok.mp h
    obtain rfl := Except.ok.inj h
    rcases List.mem_cons.mp hmem with rfl | hmem
    · exact ⟨item, List.mem_cons_self, hfirst⟩
    · obtain ⟨other, hother, hresult⟩ := ih hothers hmem
      exact ⟨other, List.mem_cons_of_mem item hother, hresult⟩

theorem of_mem_of_forM {f : α → Except ε Unit} {items : List α} (h : items.forM f = .ok ())
    {item : α} (hmem : item ∈ items) : f item = .ok () := by
  induction items with
  | nil => exact absurd hmem List.not_mem_nil
  | cons first items ih =>
    rw [List.forM_eq_forM, List.forM_cons] at h
    obtain ⟨_, hfirst, h⟩ := bind_eq_ok.mp h
    rcases List.mem_cons.mp hmem with rfl | hmem
    · exact hfirst
    · exact ih h hmem

/-- What each step of a fold keeps, the fold keeps. -/
theorem foldlM_ok {motive : β → Prop} {f : β → α → Except ε β} {items : List α} {start stop : β}
    (hkeep : ∀ item ∈ items, ∀ before behind, motive before → f before item = .ok behind →
      motive behind)
    (hstart : motive start) (h : items.foldlM f start = .ok stop) : motive stop := by
  induction items generalizing start with
  | nil =>
    obtain rfl := Except.ok.inj h
    exact hstart
  | cons item items ih =>
    rw [List.foldlM_cons] at h
    obtain ⟨next, hnext, h⟩ := bind_eq_ok.mp h
    refine ih (fun item hmem => hkeep item (List.mem_cons_of_mem _ hmem)) ?_ h
    exact hkeep item List.mem_cons_self start next hstart hnext

end Decoding

section Entries

variable {key : String} {value : Value} {table : Table}

theorem ne_nil_of_nonEmptyText? {text : Text} (h : nonEmptyText? value = some text) :
    text ≠ [] := by
  unfold nonEmptyText? at h
  split at h
  · obtain rfl := Option.some.inj h
    exact List.cons_ne_nil _ _
  · cases h

theorem closing_of_decodeBlockComment {comment : BlockComment}
    (h : decodeBlockComment key value = .ok comment) : comment.closing ≠ [] := by
  unfold decodeBlockComment at h
  split at h
  · split at h
    · rename_i hclosing
      obtain rfl := Except.ok.inj h
      exact ne_nil_of_nonEmptyText? hclosing
    · cases h
  · cases h

theorem closing_of_decodeEmbedding {embedding : Embedding}
    (h : decodeEmbedding key value = .ok embedding) : embedding.closing ≠ [] := by
  unfold decodeEmbedding at h
  split at h
  · split at h
    · rename_i hclosing _
      obtain rfl := Except.ok.inj h
      obtain ⟨value, -, hvalue⟩ := Option.bind_eq_some_iff.mp hclosing
      exact ne_nil_of_nonEmptyText? hvalue
    · cases h
  · cases h

theorem decodeEntry_eq_ok {α : Type} {name : String} {decode : String → Value → Decode α} {a : α}
    (h : decodeEntry key table name decode = .ok (some a)) :
    ∃ value, table.lookup name = some value ∧ decode s!"{key}.{name}" value = .ok a := by
  unfold decodeEntry at h
  split at h
  · cases h
  · rename_i value hlookup
    refine ⟨value, hlookup, ?_⟩
    cases hdecode : decode s!"{key}.{name}" value with
    | error => rw [hdecode] at h; cases h
    | ok a' =>
      rw [hdecode] at h
      obtain rfl := Option.some.inj (Except.ok.inj h)
      rfl

/-- The entries of a table are the components that it changes, and it has no other entries. -/
structure Spells (compiler : Pattern.Compiler) (key : String) (table : Table) (changes : Changes) :
    Prop where
  brackets : decodeEntry key table "brackets" decodeBrackets = .ok changes.brackets
  extensions : decodeEntry key table "extensions" decodeExtensions = .ok changes.extensions
  lineComments : decodeEntry key table "line_comments" decodeTexts = .ok changes.lineComments
  blockComments :
    decodeEntry key table "block_comments" decodeBlockComments = .ok changes.blockComments
  quotes : decodeEntry key table "quotes" decodeQuotes = .ok changes.quotes
  regexLiterals :
    decodeEntry key table "regex_literals" decodeBoolean = .ok changes.regexLiterals
  embedded : decodeEntry key table "embedded" decodeEmbedded = .ok changes.embedded
  rules : decodeEntry key table "indentation" (decodeRules compiler) = .ok changes.rules
  known : unknownName? languageKeys table = none

theorem spells_of_decodeChanges {changes : Changes}
    (h : decodeChanges compiler key table = .ok changes) : Spells compiler key table changes := by
  -- the components are decoded one after the other, in the order of the fields
  obtain ⟨brackets, hbrackets, h⟩ := bind_eq_ok.mp h
  obtain ⟨extensions, hextensions, h⟩ := bind_eq_ok.mp h
  obtain ⟨lineComments, hlineComments, h⟩ := bind_eq_ok.mp h
  obtain ⟨blockComments, hblockComments, h⟩ := bind_eq_ok.mp h
  obtain ⟨quotes, hquotes, h⟩ := bind_eq_ok.mp h
  obtain ⟨regexLiterals, hregexLiterals, h⟩ := bind_eq_ok.mp h
  obtain ⟨embedded, hembedded, h⟩ := bind_eq_ok.mp h
  obtain ⟨rules, hrules, h⟩ := bind_eq_ok.mp h
  cases hknown : unknownName? languageKeys table with
  | some name =>
    rw [hknown] at h
    cases h
  | none =>
    rw [hknown] at h
    obtain rfl := Except.ok.inj h
    exact ⟨hbrackets, hextensions, hlineComments, hblockComments, hquotes, hregexLiterals,
      hembedded, hrules, hknown⟩

/-- A property of all items that a table may give for a component, and of all that the component
has, is one of all that it gets. -/
theorem forall_mem_getD {α : Type} {name : String} {decode : String → Value → Decode α}
    {motive : α → Prop} {change? : Option (List α)} {items : List α}
    (h : decodeEntry key table name
      (fun key value => decodeArray key value >>= fun values => values.mapM (decode key)) =
        .ok change?)
    (hdecode : ∀ key value item, decode key value = .ok item → motive item)
    (hitems : ∀ item ∈ items, motive item) : ∀ item ∈ change?.getD items, motive item := by
  cases change? with
  | none => exact hitems
  | some entries =>
    intro item hmem
    obtain ⟨value, -, hvalue⟩ := decodeEntry_eq_ok h
    obtain ⟨values, -, hvalues⟩ := bind_eq_ok.mp hvalue
    obtain ⟨value, -, hitem⟩ := exists_of_mem_mapM hvalues hmem
    exact hdecode _ value item hitem

/-- Changes that are read from a table leave a grammar closable. -/
theorem Spells.closable_apply {changes : Changes} (h : Spells compiler key table changes)
    {language : Language} (hlanguage : language.grammar.Closable) :
    (changes.apply language).grammar.Closable where
  blockComments := forall_mem_getD h.blockComments
    (fun _ _ _ hitem => closing_of_decodeBlockComment hitem) hlanguage.blockComments
  embedded := forall_mem_getD h.embedded
    (fun _ _ _ hitem => closing_of_decodeEmbedding hitem) hlanguage.embedded

end Entries

/-! ### Applying tables -/

theorem applyTable_eq_ok {registry next : Registry} {id : String} {value : Value}
    (h : applyTable compiler registry id value = .ok next) :
    ∃ table changes, value = .table table ∧
      decodeChanges compiler (languageKey id) table = .ok changes ∧
      next = registry.register (changes.apply ((registry.get? id).getD { id })) := by
  unfold applyTable at h
  split at h
  · obtain ⟨changes, hchanges, h⟩ := bind_eq_ok.mp h
    exact ⟨_, changes, rfl, hchanges, (Except.ok.inj h).symm⟩
  · cases h

/-- `Extends names registry`: the registry holds the built-in languages, those with one of `names`
perhaps changed, and perhaps new languages with other ones of `names`. -/
structure Extends (names : List String) (registry : Registry) : Prop where
  contains_builtin : ∀ id, Registry.builtin.contains id = true → registry.contains id = true
  get?_eq : ∀ id, id ∉ names → registry.get? id = Registry.builtin.get? id
  id_eq : ∀ id language, registry.get? id = some language → language.id = id
  closable : ∀ id language, registry.get? id = some language → language.grammar.Closable

theorem contains_builtin_of_mem {language : Language} (h : language ∈ Builtin.languages) :
    Registry.builtin.contains language.id = true := by
  rw [Registry.contains, Registry.get?_builtin, List.find?_isSome]
  exact ⟨language, List.mem_reverse.mpr h, decide_eq_true rfl⟩

theorem builtin_closable :
    ∀ language ∈ Builtin.languages, language.grammar.Closable := by
  have hcomments : ∀ language ∈ Builtin.languages, ∀ comment ∈ language.grammar.blockComments,
      comment.closing ≠ [] := by decide
  have hembedded : ∀ language ∈ Builtin.languages, ∀ embedding ∈ language.grammar.embedded,
      embedding.closing ≠ [] := by decide
  exact fun language hmem => ⟨hcomments language hmem, hembedded language hmem⟩

/-- The built-in languages embed only each other. -/
theorem builtin_embedded {id : String} {language : Language}
    (h : Registry.builtin.get? id = some language) {embedding : Embedding}
    (hmem : embedding ∈ language.grammar.embedded) :
    Registry.builtin.contains embedding.language = true := by
  have hall : ∀ language ∈ Builtin.languages, ∀ embedding ∈ language.grammar.embedded,
      ∃ other ∈ Builtin.languages, other.id = embedding.language := by decide
  obtain ⟨other, hother, hid⟩ := hall language (Registry.mem_languages_of_get? h).1 embedding hmem
  rw [← hid]
  exact contains_builtin_of_mem hother

theorem extends_builtin (names : List String) : Extends names .builtin where
  contains_builtin _ h := h
  get?_eq _ _ := rfl
  id_eq _ _ h := (Registry.mem_languages_of_get? h).2
  closable _ language h := builtin_closable language (Registry.mem_languages_of_get? h).1

namespace Extends

variable {names : List String} {registry next : Registry}

theorem register (h : Extends names registry) {language : Language} (hname : language.id ∈ names)
    (hclosable : language.grammar.Closable) : Extends names (registry.register language) := by
  refine ⟨fun id hid => ?_, fun id hid => ?_, fun id other hget => ?_, fun id other hget => ?_⟩
  · rw [Registry.contains, Registry.get?_register]
    split
    · rfl
    · exact h.contains_builtin id hid
  · have hne : language.id ≠ id := by
      rintro rfl
      exact hid hname
    rw [Registry.get?_register, if_neg hne]
    exact h.get?_eq id hid
  · rw [Registry.get?_register] at hget
    split at hget
    · rename_i heq
      obtain rfl := Option.some.inj hget
      exact heq
    · exact h.id_eq id other hget
  · rw [Registry.get?_register] at hget
    split at hget
    · obtain rfl := Option.some.inj hget
      exact hclosable
    · exact h.closable id other hget

theorem applyTable (h : Extends names registry) {id : String} {value : Value} (hname : id ∈ names)
    (happly : applyTable compiler registry id value = .ok next) : Extends names next := by
  -- the language that is changed, or a new one
  have hlanguage : ((registry.get? id).getD { id }).id = id ∧
      ((registry.get? id).getD { id }).grammar.Closable := by
    cases hget : registry.get? id with
    | none => exact ⟨rfl, ⟨nofun, nofun⟩⟩
    | some language => exact ⟨h.id_eq id language hget, h.closable id language hget⟩
  obtain ⟨table, changes, -, hchanges, rfl⟩ := applyTable_eq_ok happly
  have hspells := spells_of_decodeChanges hchanges
  refine h.register ?_ (hspells.closable_apply hlanguage.2)
  exact hlanguage.1.symm ▸ hname

end Extends

theorem contains_of_checkEmbedded {registry : Registry} {id : String}
    (h : checkEmbedded registry id = .ok ()) {embedding : Embedding}
    (hmem : embedding ∈ (registry.grammar id).embedded) :
    registry.contains embedding.language = true := by
  unfold checkEmbedded at h
  split at h
  · rename_i hfind
    simpa using List.find?_eq_none.mp hfind embedding hmem
  · cases h

/-- What is known of the registry that some tables make: it extends the built-in one in their
languages, and these have been checked. -/
theorem extends_of_applyTables {languages : Table} {registry : Registry}
    (h : applyTables compiler languages = .ok registry) :
    Extends (languages.map (·.1)) registry ∧
      ∀ id ∈ languages.map (·.1), checkEmbedded registry id = .ok () := by
  -- all tables are applied before the first language is checked
  obtain ⟨registry', hfold, h⟩ := bind_eq_ok.mp h
  obtain ⟨_, hcheck, h⟩ := bind_eq_ok.mp h
  obtain rfl := Except.ok.inj h
  refine ⟨foldlM_ok ?_ (extends_builtin _) hfold, fun id hid => ?_⟩
  · intro entry hmem before behind hbefore hbehind
    exact hbefore.applyTable (List.mem_map_of_mem hmem) hbehind
  · obtain ⟨entry, hmem, rfl⟩ := List.mem_map.mp hid
    exact of_mem_of_forM hcheck hmem

/-- A single table is applied to the built-in languages, and the language that it makes is
checked. -/
theorem applyTables_singleton {id : String} {value : Value} {registry : Registry}
    (happly : applyTable compiler .builtin id value = .ok registry)
    (hcheck : checkEmbedded registry id = .ok ()) :
    applyTables compiler [(id, value)] = .ok registry := by
  have hfold : applyTables compiler [(id, value)] =
      applyTable compiler .builtin id value >>= fun registry =>
        checkEmbedded registry id >>= fun _ => pure registry := by
    rw [applyTables, List.foldlM_cons]
    simp [List.foldlM_nil]
  rw [hfold]
  exact bind_eq_ok.mpr ⟨_, happly, bind_eq_ok.mpr ⟨(), hcheck, rfl⟩⟩

theorem buildRegistry_eq_ok {config : Table} {path : Option Path} {registry : Registry}
    (h : buildRegistry compiler config path = .ok registry) :
    ∃ languages, languageTables config = .ok languages ∧
      applyTables compiler languages = .ok registry := by
  unfold buildRegistry at h
  split at h
  · rename_i hregistry
    obtain rfl := Except.ok.inj h
    exact bind_eq_ok.mp hregistry
  · cases h

/-- The registry of an accepted configuration is sound. -/
theorem sound_of_buildRegistry {config : Table} {path : Option Path} {registry : Registry}
    (h : buildRegistry compiler config path = .ok registry) : registry.Sound := by
  obtain ⟨languages, -, happly⟩ := buildRegistry_eq_ok h
  obtain ⟨hextends, hcheck⟩ := extends_of_applyTables happly
  refine ⟨fun id language hget embedding hmem => ?_, hextends.closable⟩
  by_cases hid : id ∈ languages.map (·.1)
  · -- a language that the configuration names has been checked
    apply contains_of_checkEmbedded (hcheck id hid)
    rwa [Registry.grammar_of_get? hget]
  · -- the others are built in, and so is what they embed
    rw [hextends.get?_eq id hid] at hget
    exact hextends.contains_builtin _ (builtin_embedded hget hmem)

end Config

/-! ### Lexing with a sound registry -/

namespace Registry.Sound

variable {registry : Registry} {document : String} {regions : List Region} {state : LineState}

/-- The embeddings of a grammar, which may be that of an unknown language. -/
theorem of_mem_embedded (h : registry.Sound) {id : String} {embedding : Embedding}
    (hmem : embedding ∈ (registry.grammar id).embedded) :
    registry.contains embedding.language = true ∧ embedding.closing ≠ [] := by
  cases hget : registry.get? id with
  | none => simp [Registry.grammar, hget] at hmem
  | some language =>
    rw [Registry.grammar_of_get? hget] at hmem
    exact ⟨h.embedded id language hget embedding hmem,
      (h.closable id language hget).embedded embedding hmem⟩

theorem closing_of_mem_blockComments (h : registry.Sound) {id : String} {comment : BlockComment}
    (hmem : comment ∈ (registry.grammar id).blockComments) : comment.closing ≠ [] := by
  cases hget : registry.get? id with
  | none => simp [Registry.grammar, hget] at hmem
  | some language =>
    rw [Registry.grammar_of_get? hget] at hmem
    exact (h.closable id language hget).blockComments comment hmem

theorem of_mem_nested (h : registry.Sound) (hnested : Nested registry document regions)
    {region : Region} (hmem : region ∈ regions) :
    registry.contains region.language = true ∧ region.close ≠ [] := by
  induction hnested with
  | nil => exact absurd hmem List.not_mem_nil
  | cons hembedding _ ih =>
    rcases List.mem_cons.mp hmem with rfl | hmem
    · exact h.of_mem_embedded hembedding
    · exact ih hmem

/-- The language of the text is registered if that of the document is. -/
theorem contains_language (h : registry.Sound) (hdocument : registry.contains document = true)
    (hstate : state.WellFormed registry document) : registry.contains state.language = true := by
  rw [LineState.language, hstate.document_eq]
  cases hregions : state.regions with
  | nil => exact hdocument
  | cons region regions =>
    exact (h.of_mem_nested hstate.nested (hregions ▸ List.mem_cons_self)).1

end Registry.Sound

namespace Config

open Toml (Value Table)
open Lexer

/-- With an accepted configuration every embedded region lies in a registered language, and from
the lines of a document in a registered language the lexer makes tokens and opens regions of
registered languages only; what it leaves open does not close with the empty text. -/
theorem buildRegistry_closed {compiler : Pattern.Compiler} {config : Table} {path : Option Path}
    {registry : Registry} (h : buildRegistry compiler config path = .ok registry) :
    (∀ id language, registry.get? id = some language →
      ∀ embedding ∈ language.grammar.embedded, registry.contains embedding.language = true) ∧
    ∀ document, registry.contains document = true → ∀ texts line state,
      (line, state) ∈ tokenizeLines registry (.initial document) texts →
      (∀ token ∈ line.tokens, registry.contains token.language = true) ∧
      (∀ region ∈ state.regions,
        registry.contains region.language = true ∧ region.close ≠ []) ∧
      ∀ close, state.commentClose = some close → close ≠ [] := by
  have hsound := sound_of_buildRegistry h
  refine ⟨hsound.embedded, fun document hdocument texts line state hmem => ?_⟩
  obtain ⟨before, text, hbefore, rfl, rfl⟩ := exists_wellFormed_of_mem_tokenizeLines hmem
  have hstate := wellFormed_tokenize hbefore text
  refine ⟨fun token htoken => ?_, fun region hregion => ?_, fun close hclose => ?_⟩
  · obtain ⟨other, hother, hlanguage⟩ := exists_wellFormed_of_mem_tokens hbefore htoken
    rw [hlanguage]
    exact hsound.contains_language hdocument hother
  · exact hsound.of_mem_nested hstate.nested hregion
  · obtain ⟨comment, hcomment, rfl⟩ := hstate.comment close hclose
    exact hsound.closing_of_mem_blockComments hcomment

/-- A language that embeds a built-in one. -/
def scripted : Language where
  id := "scripted"
  grammar := { embedded := [⟨"<script>".toList, "</script>".toList, "javascript"⟩] }

/-- The table that adds this language. -/
def scriptedTable : Value :=
  .table [("embedded", .array [.table [("open", .text "<script>".toList),
    ("close", .text "</script>".toList), ("language", .text "javascript".toList)]])]

theorem get?_scripted :
    (Registry.builtin.register scripted).get? "scripted" = some scripted := by
  rw [Registry.get?_register]
  exact if_pos rfl

theorem contains_scripted_javascript :
    (Registry.builtin.register scripted).contains "javascript" = true := by
  rw [Registry.contains, Registry.get?_register, if_neg (by decide),
    Registry.get?_builtin_javascript]
  rfl

theorem applyTables_scriptedTable (compiler : Pattern.Compiler) :
    applyTables compiler [("scripted", scriptedTable)] =
      .ok (Registry.builtin.register scripted) := by
  have happly : applyTable compiler .builtin "scripted" scriptedTable =
      .ok (Registry.builtin.register scripted) := by
    have hget : Registry.builtin.get? "scripted" = none := by
      rw [Registry.get?_builtin]
      rfl
    unfold applyTable scriptedTable
    rw [hget]
    rfl
  have hcheck : checkEmbedded (Registry.builtin.register scripted) "scripted" = .ok () := by
    have hfind : (scripted.grammar.embedded.find? fun region =>
        !(Registry.builtin.register scripted).contains region.language) = none := by
      rw [List.find?_eq_none]
      intro region hmem
      obtain rfl := List.mem_singleton.mp hmem
      rw [contains_scripted_javascript]
      decide
    rw [checkEmbedded, Registry.grammar_of_get? get?_scripted, hfind]
  exact applyTables_singleton happly hcheck

/-- A configured language whose document opens a script. -/
theorem buildRegistry_closed_scripted :
    let registry := Registry.builtin.register scripted
    let line := (tokenize registry (.initial "scripted") "<script>".toList).1
    buildRegistry Tools.standard.compiler [("languages", .table [("scripted", scriptedTable)])]
        none = .ok registry ∧
      registry.contains "scripted" = true ∧
      (line, ⟨"scripted", [⟨"javascript", "</script>".toList⟩], none⟩) ∈
        tokenizeLines registry (.initial "scripted") ["<script>".toList] ∧
      (∀ token ∈ line.tokens, registry.contains token.language = true) ∧
      registry.contains "javascript" = true := by
  intro registry line
  have hbuild : buildRegistry Tools.standard.compiler
      [("languages", .table [("scripted", scriptedTable)])] none = .ok registry := by
    have htables : languageTables [("languages", .table [("scripted", scriptedTable)])] >>=
        applyTables Tools.standard.compiler = .ok registry :=
      applyTables_scriptedTable Tools.standard.compiler
    rw [buildRegistry, htables]
  have hcontains : registry.contains "scripted" = true := by
    rw [Registry.contains, get?_scripted]
    rfl
  have hstep : (Place.front (.initial "scripted") "<script>".toList).step registry =
      ⟨8, ⟨.other, "scripted"⟩, ⟨"scripted", [⟨"javascript", "</script>".toList⟩], none⟩,
        none⟩ := by
    change plainStep (registry.grammar "scripted") (.initial "scripted") none
      "<script>".toList = _
    rw [Registry.grammar_of_get? get?_scripted]
    decide
  have hlast : (tokenize registry (.initial "scripted") "<script>".toList).2 =
      ⟨"scripted", [⟨"javascript", "</script>".toList⟩], none⟩ := by
    rw [tokenize_snd]
    change ((Place.front (.initial "scripted") "<script>".toList).labels registry).2 = _
    rw [Place.labels_of_step_eq (by decide) hstep]
    exact congrArg Prod.snd (Place.labels_of_rest_eq_nil rfl)
  have hmem : (line, ⟨"scripted", [⟨"javascript", "</script>".toList⟩], none⟩) ∈
      tokenizeLines registry (.initial "scripted") ["<script>".toList] :=
    List.mem_singleton.mpr (Prod.ext rfl hlast.symm)
  obtain ⟨htokens, hregions, -⟩ := (buildRegistry_closed hbuild).2 _ hcontains _ _ _ hmem
  exact ⟨hbuild, hcontains, hmem, htokens, (hregions _ List.mem_cons_self).1⟩

end Config

end Indentation
