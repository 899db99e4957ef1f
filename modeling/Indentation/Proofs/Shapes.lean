import Indentation.Proofs.ReferentialIntegrity

/-!
# Shapes of configured values

What is expected of the values in a configuration, told without decoding. Shapes are built from
texts, conditions and patterns by arrays, pairs and tables. The table of a language has eight
fields, all of which may be missing.

Decoding checks one value after the other and stops at the first one that is wrong. Each decoder
accepts exactly the values of one shape. Otherwise it reports a key below its own, or reading one of
the patterns in the value has broken down. All this carries over to decoders that are put together.

## Main definitions

* `Config.Shape` — what is expected of a value
* `Config.Shape.TableOf` — a table with some fields
* `Config.Shape.LanguageTable` — the table of a language
* `Config.Checks` — a decoder accepts the values of a shape, and blames the right culprits
* `Config.RuleOf`, `Config.PatternOf` — the patterns in the table of the rules and of a language

## Main results

* `Config.Checks.bind` — decoders one after the other
* `Config.Checks.mapM`, `Config.Checks.foldlM`, `Config.Checks.forM` — decoders for all items
* `Config.checks_decodeEntry` — decoders for an entry that may be missing
* `Config.checks_decodeChanges` — the decoder for the table of a language
-/

namespace Indentation.Config

open Toml (Value Table)

/-- What is expected of a value. -/
abbrev Shape := Value → Prop

namespace Shape

/-- A text that is not empty. -/
def NonEmptyText : Shape := fun value =>
  ∃ text, value = .text text ∧ text ≠ []

/-- A text of one character. -/
def Character : Shape := fun value =>
  ∃ c, value = .text [c]

/-- A condition. -/
def Boolean : Shape := fun value =>
  ∃ holds, value = .boolean holds

/-- A text that can be read as a pattern. -/
def PatternText (compiler : Pattern.Compiler) : Shape := fun value =>
  ∃ source pattern, value = .text source ∧ compiler source = .ok pattern

/-- An array of items. -/
def ArrayOf (item : Shape) : Shape := fun value =>
  ∃ items, value = .array items ∧ ∀ value ∈ items, item value

/-- An array of two items. -/
def PairOf (item : Shape) : Shape := fun value =>
  ∃ first second, value = .array [first, second] ∧ item first ∧ item second

/-- A text that is not empty, or an array of at least one of them. -/
def BracketSide : Shape := fun value =>
  NonEmptyText value ∨
    ∃ items, value = .array items ∧ items ≠ [] ∧ ∀ item ∈ items, NonEmptyText item

/-- A table that has no other entries than `fields`, and these in their shapes. -/
def TableOf (fields : List (String × Shape)) : Shape := fun value =>
  ∃ table, value = .table table ∧ (∀ entry ∈ table, entry.1 ∈ fields.map (·.1)) ∧
    ∀ field ∈ fields, ∀ value, table.lookup field.1 = some value → field.2 value

/-- A region in a language that is known. -/
def EmbeddedRegion (known : String → Prop) : Shape := fun value =>
  ∃ table opening closing language, value = .table table ∧
    table.lookup "open" = some (.text opening) ∧ opening ≠ [] ∧
    table.lookup "close" = some (.text closing) ∧ closing ≠ [] ∧
    table.lookup "language" = some (.text language) ∧ language ≠ [] ∧
    known (String.ofList language)

/-- The table of the indentation rules. -/
def Rules (compiler : Pattern.Compiler) : Shape :=
  TableOf [("increase", PatternText compiler), ("decrease", PatternText compiler),
    ("indent_next_line", PatternText compiler), ("unindented_line", PatternText compiler)]

/-- The table of a language, whose regions embed known languages. -/
def LanguageTable (compiler : Pattern.Compiler) (known : String → Prop) : Shape :=
  TableOf [("brackets", ArrayOf (PairOf BracketSide)), ("extensions", ArrayOf NonEmptyText),
    ("line_comments", ArrayOf NonEmptyText), ("block_comments", ArrayOf (PairOf NonEmptyText)),
    ("quotes", ArrayOf Character), ("regex_literals", Boolean),
    ("embedded", ArrayOf (EmbeddedRegion known)), ("indentation", Rules compiler)]

end Shape

/-! ### Decoders that check a shape -/

/-- What is to blame if decoding fails: the entry with a key, or a breakdown. -/
abbrev Culprit := Failed String

/-- A decoder accepts if and only if a shape is met, and otherwise it fails with a culprit that may
be blamed. -/
structure Checks {α : Type} (blame : Culprit → Prop) (decode : Decode α) (shape : Prop) :
    Prop where
  accepts : (∃ a, decode = .ok a) ↔ shape
  blames : ∀ failed, decode = .error failed →
    ∃ culprit, failed.map (·.key) = culprit.map some ∧ blame culprit

namespace Checks

variable {α β : Type} {blame blame' : Culprit → Prop} {decode : Decode α} {shape shape' : Prop}

theorem ok (a : α) (h : shape) : Checks blame (.ok a : Decode α) shape := by
  refine ⟨⟨fun _ => h, fun _ => ⟨a, rfl⟩⟩, ?_⟩
  intro failed hfailed
  cases hfailed

theorem problem {key : String} (fault : Fault) (hkey : blame (.cause key)) (h : ¬ shape) :
    Checks blame (problem fault key : Decode α) shape := by
  refine ⟨⟨nofun, fun hshape => absurd hshape h⟩, ?_⟩
  intro failed hfailed
  obtain rfl := Except.error.inj hfailed
  exact ⟨.cause key, rfl, hkey⟩

theorem breakdown {reason : Breakdown} (hreason : blame (.breakdown reason)) (h : ¬ shape) :
    Checks blame (.error (.breakdown reason) : Decode α) shape := by
  refine ⟨⟨nofun, fun hshape => absurd hshape h⟩, ?_⟩
  intro failed hfailed
  obtain rfl := Except.error.inj hfailed
  exact ⟨.breakdown reason, rfl, hreason⟩

theorem not_of_error (h : Checks blame decode shape) {failed : Failed Problem}
    (hfailed : decode = .error failed) : ¬ shape := by
  intro hshape
  obtain ⟨a, ha⟩ := h.accepts.mpr hshape
  cases hfailed.symm.trans ha

theorem congr (h : Checks blame decode shape) (hiff : shape ↔ shape') :
    Checks blame decode shape' :=
  ⟨h.accepts.trans hiff, h.blames⟩

/-- Something is blamed only if the shape is not met. -/
theorem mono (h : Checks blame decode shape)
    (himp : ∀ culprit, ¬ shape → blame culprit → blame' culprit) : Checks blame' decode shape := by
  refine ⟨h.accepts, ?_⟩
  intro failed hfailed
  obtain ⟨culprit, hculprit, hblame⟩ := h.blames failed hfailed
  exact ⟨culprit, hculprit, himp culprit (h.not_of_error hfailed) hblame⟩

/-- The second decoder is asked only if the first one accepts. -/
theorem bind (h : Checks blame decode shape) {next : α → Decode β}
    (hnext : ∀ a, decode = .ok a → Checks blame (next a) shape') :
    Checks blame (decode >>= next) (shape ∧ shape') := by
  cases hdecode : decode with
  | error failed =>
    have hshape := h.not_of_error hdecode
    refine ⟨⟨nofun, fun hboth => absurd hboth.1 hshape⟩, ?_⟩
    intro other hother
    obtain rfl : failed = other := Except.error.inj hother
    exact h.blames failed hdecode
  | ok a =>
    have hshape : shape := h.accepts.mp ⟨a, hdecode⟩
    exact (hnext a hdecode).congr (iff_and_self.mpr fun _ => hshape)

theorem map (h : Checks blame decode shape) (f : α → β) :
    Checks blame (decode >>= fun a => pure (f a)) shape :=
  (h.bind fun a _ => ok (f a) trivial).congr (and_iff_left trivial)

end Checks

/-- A culprit in one of some items, which is not of its shape. -/
def BlamesOne {α : Type} (shapes : α → Prop) (blames : α → Culprit → Prop) (items : List α)
    (culprit : Culprit) : Prop :=
  ∃ item ∈ items, ¬ shapes item ∧ blames item culprit

namespace Checks

section Items

variable {α β : Type} {shapes : α → Prop} {blames : α → Culprit → Prop} {items : List α}

/-- The first item is checked before the others. -/
theorem cons {γ : Type} {item : α} {decode : Decode β} {next : β → Decode γ}
    (h : Checks (blames item) decode (shapes item))
    (hnext : ∀ b, decode = .ok b →
      Checks (BlamesOne shapes blames items) (next b) (∀ other ∈ items, shapes other)) :
    Checks (BlamesOne shapes blames (item :: items)) (decode >>= next)
      (∀ other ∈ item :: items, shapes other) := by
  have hfirst : Checks (BlamesOne shapes blames (item :: items)) decode (shapes item) :=
    h.mono fun _ hshape hblamed => ⟨item, List.mem_cons_self, hshape, hblamed⟩
  have hothers : ∀ b, decode = .ok b → Checks (BlamesOne shapes blames (item :: items)) (next b)
      (∀ other ∈ items, shapes other) := by
    intro b hb
    apply (hnext b hb).mono
    rintro culprit - ⟨other, hother, hblamed⟩
    exact ⟨other, List.mem_cons_of_mem item hother, hblamed⟩
  exact (hfirst.bind hothers).congr List.forall_mem_cons.symm

theorem mapM {decode : α → Decode β} (h : ∀ item ∈ items, Checks (blames item) (decode item)
    (shapes item)) :
    Checks (BlamesOne shapes blames items) (items.mapM decode) (∀ item ∈ items, shapes item) := by
  induction items with
  | nil => exact ok [] (by simp)
  | cons item items ih =>
    obtain ⟨hitem, hitems⟩ := List.forall_mem_cons.mp h
    rw [List.mapM_cons]
    exact hitem.cons fun b _ => (ih hitems).map (b :: ·)

theorem foldlM {step : β → α → Decode β} (h : ∀ b, ∀ item ∈ items, Checks (blames item)
    (step b item) (shapes item)) (start : β) :
    Checks (BlamesOne shapes blames items) (items.foldlM step start)
      (∀ item ∈ items, shapes item) := by
  induction items generalizing start with
  | nil => exact ok start (by simp)
  | cons item items ih =>
    rw [List.foldlM_cons]
    exact (h start item List.mem_cons_self).cons fun next _ =>
      ih (fun b other hother => h b other (List.mem_cons_of_mem item hother)) next

theorem forM {check : α → Decode Unit} (h : ∀ item ∈ items, Checks (blames item) (check item)
    (shapes item)) :
    Checks (BlamesOne shapes blames items) (items.forM check) (∀ item ∈ items, shapes item) := by
  induction items with
  | nil => exact ok () (by simp)
  | cons item items ih =>
    obtain ⟨hitem, hitems⟩ := List.forall_mem_cons.mp h
    rw [List.forM_eq_forM, List.forM_cons]
    exact hitem.cons fun _ _ => ih hitems

end Items

end Checks

/-! ### Entries of a table -/

/-- A key is that of an entry, or leads into it. -/
def Below (key name : String) : Prop :=
  key.toList <+: name.toList

theorem below_refl (key : String) : Below key key :=
  List.prefix_refl _

theorem below_append (key rest : String) : Below key (key ++ rest) := by
  rw [Below, String.toList_append]
  exact List.prefix_append _ _

theorem below_entry (key name : String) : Below key s!"{key}.{name}" :=
  (below_append key ".").trans (below_append _ name)

/-- The culprit is an entry with a key below `key`. -/
def Culprit.Under (key : String) (culprit : Culprit) : Prop :=
  ∃ name, culprit = .cause name ∧ Below key name

/-- The culprit is one of some texts, with which reading patterns breaks down. -/
def Culprit.Breaks (compiler : Pattern.Compiler) (texts : Text → Prop) (culprit : Culprit) : Prop :=
  ∃ reason source, culprit = .breakdown reason ∧ texts source ∧
    compiler source = .error (.breakdown reason)

/-- The culprit is an entry below `key`, or one of the patterns there. -/
def Culprit.In (compiler : Pattern.Compiler) (key : String) (texts : Text → Prop)
    (culprit : Culprit) : Prop :=
  culprit.Under key ∨ culprit.Breaks compiler texts

theorem under_refl (key : String) : Culprit.Under key (.cause key) :=
  ⟨key, rfl, below_refl key⟩

/-- The texts of the rules in a table. -/
def RuleOf (value : Value) (source : Text) : Prop :=
  ∃ table name, value = .table table ∧ name ∈ ruleNames ∧ table.lookup name = some (.text source)

/-- The texts of the rules in the table of a language. -/
def PatternOf (value : Value) (source : Text) : Prop :=
  ∃ table rules, value = .table table ∧ table.lookup "indentation" = some rules ∧
    RuleOf rules source

section Values

open Shape

variable {value : Value} {text : Text} {table : Table} {name : String} {known : String → Prop}

theorem nonEmptyText?_eq_some_iff :
    nonEmptyText? value = some text ↔ value = .text text ∧ text ≠ [] := by
  cases value with
  | text content => cases content <;> grind [nonEmptyText?]
  | _ => simp [nonEmptyText?]

theorem nonEmptyText_iff : NonEmptyText value ↔ ∃ text, nonEmptyText? value = some text := by
  simp only [NonEmptyText, nonEmptyText?_eq_some_iff]

theorem textEntry?_eq_some_iff : textEntry? table name = some text ↔
    table.lookup name = some (.text text) ∧ text ≠ [] := by
  simp only [Option.bind_eq_some_iff, textEntry?, nonEmptyText?_eq_some_iff]
  grind

theorem exists_mapM_eq_some_iff {α β : Type} {f : α → Option β} {items : List α} :
    (∃ results, items.mapM f = some results) ↔ ∀ item ∈ items, ∃ result, f item = some result := by
  induction items with
  | nil => simp
  | cons item items ih =>
    rw [List.forall_mem_cons, ← ih, List.mapM_cons]
    cases f item <;> cases items.mapM f <;> simp

theorem eq_map_text_of_mapM {items : List Value} {texts : List Text}
    (h : items.mapM nonEmptyText? = some texts) : items = texts.map .text := by
  induction items generalizing texts with
  | nil =>
    obtain rfl := Option.some.inj h
    rfl
  | cons item items ih =>
    rw [List.mapM_cons] at h
    obtain ⟨text, htext, h⟩ := Option.bind_eq_some_iff.mp h
    obtain ⟨others, hothers, h⟩ := Option.bind_eq_some_iff.mp h
    obtain rfl := Option.some.inj h
    rw [List.map_cons, ← ih hothers, (nonEmptyText?_eq_some_iff.mp htext).1]

theorem bracketSide_iff : BracketSide value ↔ ∃ texts, bracketSide? value = some texts := by
  cases value with
  | array items =>
    cases items with
    | nil => simp [BracketSide, NonEmptyText, bracketSide?]
    | cons item items =>
      simp only [bracketSide?, exists_mapM_eq_some_iff, ← nonEmptyText_iff]
      simp [BracketSide, NonEmptyText]
  | _ => simp [BracketSide, bracketSide?, nonEmptyText_iff]

theorem embeddedRegion_iff : EmbeddedRegion known value ↔
    ∃ table opening closing language, value = .table table ∧
      textEntry? table "open" = some opening ∧ textEntry? table "close" = some closing ∧
      textEntry? table "language" = some language ∧ known (String.ofList language) := by
  simp only [EmbeddedRegion, textEntry?_eq_some_iff, and_assoc]

end Values

section Decoders

open Shape

variable {compiler : Pattern.Compiler} (key : String) (value : Value)

/-- A decoder of the items of an array. -/
theorem checks_decodeArray {β : Type} {blame : Culprit → Prop} {shapes : List Value → Prop}
    {next : List Value → Decode β} (hkey : blame (.cause key))
    (h : ∀ items, Checks blame (next items) (shapes items)) :
    Checks blame (decodeArray key value >>= next)
      (∃ items, value = .array items ∧ shapes items) := by
  cases value with
  | array items => exact (h items).congr (by simp)
  | _ => exact .problem _ hkey (by simp)

theorem checks_items {β : Type} {decode : Value → Decode β} {item : Shape}
    (h : ∀ value, Checks (Culprit.Under key) (decode value) (item value)) (items : List Value) :
    Checks (Culprit.Under key) (items.mapM decode) (∀ value ∈ items, item value) := by
  apply (Checks.mapM fun value _ => h value).mono
  rintro culprit - ⟨_, _, -, hculprit⟩
  exact hculprit

theorem checks_decodeTexts : Checks (Culprit.Under key) (decodeTexts key value)
    (ArrayOf NonEmptyText value) := by
  apply checks_decodeArray key value (under_refl key)
  intro items
  simp only [nonEmptyText_iff, ← exists_mapM_eq_some_iff]
  cases hitems : items.mapM nonEmptyText? with
  | none => exact .problem _ (under_refl key) (by simp)
  | some texts => exact .ok texts ⟨texts, rfl⟩

variable {key value} in
theorem eq_array_of_decodeTexts {texts : List Text} (h : decodeTexts key value = .ok texts) :
    value = .array (texts.map .text) := by
  obtain ⟨items, hitems, h⟩ := bind_eq_ok.mp h
  cases value with
  | array values =>
    obtain rfl := Except.ok.inj hitems
    cases htexts : values.mapM nonEmptyText? with
    | none =>
      rw [htexts] at h
      cases h
    | some others =>
      rw [htexts] at h
      obtain rfl := Except.ok.inj h
      rw [eq_map_text_of_mapM htexts]
  | _ => cases hitems

theorem checks_decodeQuotes : Checks (Culprit.Under key) (decodeQuotes key value)
    (ArrayOf Character value) := by
  refine ((checks_decodeTexts key value).bind fun texts htexts => ?_).congr
    (and_iff_right_of_imp (b := ArrayOf Character value) ?_)
  · -- the texts are the items, so their lengths decide
    have hshape : ArrayOf Character value ↔ texts.all (·.length = 1) = true := by
      rw [eq_array_of_decodeTexts htexts]
      simp [ArrayOf, Character, List.length_eq_one_iff]
    split
    · rename_i hall
      exact .ok texts (hshape.mpr hall)
    · rename_i hall
      exact .problem _ (under_refl key) (hshape.not.mpr hall)
  · rintro ⟨items, rfl, hitems⟩
    refine ⟨items, rfl, ?_⟩
    intro item hitem
    obtain ⟨c, rfl⟩ := hitems item hitem
    exact ⟨[c], rfl, List.cons_ne_nil c []⟩

theorem checks_decodeExtensions : Checks (Culprit.Under key) (decodeExtensions key value)
    (ArrayOf NonEmptyText value) :=
  (checks_decodeTexts key value).map _

theorem checks_decodeBoolean :
    Checks (Culprit.Under key) (decodeBoolean key value) (Boolean value) := by
  cases value with
  | boolean holds => exact .ok holds ⟨holds, rfl⟩
  | _ => exact .problem _ (under_refl key) (by simp [Boolean])

theorem pairOf_iff {item : Shape} {first second : Value} :
    PairOf item (.array [first, second]) ↔ item first ∧ item second := by
  simp [PairOf]

theorem checks_decodeBracketPair : Checks (Culprit.Under key) (decodeBracketPair key value)
    (PairOf BracketSide value) := by
  unfold decodeBracketPair
  split
  · simp only [pairOf_iff, bracketSide_iff]
    split
    · exact .ok _ ⟨⟨_, by assumption⟩, _, by assumption⟩
    · rename_i hsides
      refine .problem _ (under_refl key) ?_
      rintro ⟨⟨_, hopens⟩, _, hcloses⟩
      exact hsides _ _ hopens hcloses
  · rename_i hpair
    refine .problem _ (under_refl key) ?_
    rintro ⟨_, _, hvalue, -⟩
    exact hpair _ _ hvalue

theorem checks_decodeBrackets : Checks (Culprit.Under key) (decodeBrackets key value)
    (ArrayOf (PairOf BracketSide) value) :=
  checks_decodeArray key value (under_refl key) fun items =>
    (checks_items key (checks_decodeBracketPair key) items).map _

theorem checks_decodeBlockComment : Checks (Culprit.Under key) (decodeBlockComment key value)
    (PairOf NonEmptyText value) := by
  unfold decodeBlockComment
  split
  · simp only [pairOf_iff, nonEmptyText_iff]
    split
    · exact .ok _ ⟨⟨_, by assumption⟩, _, by assumption⟩
    · rename_i hsides
      refine .problem _ (under_refl key) ?_
      rintro ⟨⟨_, hopens⟩, _, hcloses⟩
      exact hsides _ _ hopens hcloses
  · rename_i hpair
    refine .problem _ (under_refl key) ?_
    rintro ⟨_, _, hvalue, -⟩
    exact hpair _ _ hvalue

theorem checks_decodeBlockComments : Checks (Culprit.Under key) (decodeBlockComments key value)
    (ArrayOf (PairOf NonEmptyText) value) :=
  checks_decodeArray key value (under_refl key) (checks_items key (checks_decodeBlockComment key))

theorem checks_decodeEmbedding : Checks (Culprit.Under key) (decodeEmbedding key value)
    (EmbeddedRegion (fun _ => True) value) := by
  rw [embeddedRegion_iff]
  unfold decodeEmbedding
  split
  · split
    · rename_i hopening hclosing hlanguage
      exact .ok _ ⟨_, _, _, _, rfl, hopening, hclosing, hlanguage, trivial⟩
    · rename_i hentries
      refine .problem _ (under_refl key) ?_
      rintro ⟨_, _, _, _, htable, hopening, hclosing, hlanguage, -⟩
      obtain rfl := Value.table.inj htable
      exact hentries _ _ _ hopening hclosing hlanguage
  · rename_i htable
    refine .problem _ (under_refl key) ?_
    rintro ⟨_, _, _, _, hvalue, -⟩
    exact htable _ hvalue

theorem checks_decodeEmbedded : Checks (Culprit.Under key) (decodeEmbedded key value)
    (ArrayOf (EmbeddedRegion fun _ => True) value) :=
  checks_decodeArray key value (under_refl key) (checks_items key (checks_decodeEmbedding key))

theorem unknownName?_eq_none_iff {known : List String} {table : Table} :
    unknownName? known table = none ↔ ∀ entry ∈ table, entry.1 ∈ known := by
  have hleast : ∀ names, leastName? names = none ↔ names = [] := by
    intro names
    cases names <;> simp [leastName?]
  simp [unknownName?, hleast]

/-- A rule that is a text may still be no pattern. -/
theorem checks_decodeRule (table : Table) (name : String) :
    Checks (Culprit.Under key) (decodeRule key table name)
      (∀ value, table.lookup name = some value → ∃ source, value = .text source) := by
  unfold decodeRule
  split
  · rename_i hlookup
    exact .ok none (by simp [hlookup])
  · rename_i source hlookup
    exact .ok (some source) (by simp [hlookup])
  · rename_i value hnot hlookup
    refine .problem _ ⟨_, rfl, below_entry key name⟩ ?_
    intro hshape
    obtain ⟨source, rfl⟩ := hshape value hlookup
    exact hnot source rfl

variable {key} in
/-- Whether the pattern of a rule can be read does not depend on how the rule was found. -/
theorem compile_iff_of_decodeRule {table : Table} {name : String} {rule : Option Text}
    (h : decodeRule key table name = .ok rule) :
    (∃ pattern, rule.mapM compiler = .ok pattern) ↔
      ∀ value, table.lookup name = some value → PatternText compiler value := by
  unfold decodeRule at h
  split at h
  · rename_i hlookup
    obtain rfl := Except.ok.inj h
    exact ⟨fun _ => by simp [hlookup], fun _ => ⟨none, rfl⟩⟩
  · rename_i source hlookup
    obtain rfl := Except.ok.inj h
    have hcompile : (∃ pattern, (some source).mapM compiler = .ok pattern) ↔
        ∃ pattern, compiler source = .ok pattern := by
      cases hsource : compiler source <;> simp [hsource]
    rw [hcompile]
    simp [hlookup, PatternText]
  · cases h

/-- The rules can be read if and only if each of them can. -/
theorem exists_compile_iff (texts : RuleTexts) :
    (∃ rules, IndentRules.compile compiler texts = .ok rules) ↔
      (∃ pattern, texts.increase.mapM compiler = .ok pattern) ∧
      (∃ pattern, texts.decrease.mapM compiler = .ok pattern) ∧
      (∃ pattern, texts.indentNextLine.mapM compiler = .ok pattern) ∧
      ∃ pattern, texts.unindentedLine.mapM compiler = .ok pattern := by
  constructor
  · rintro ⟨rules, h⟩
    obtain ⟨increase, hincrease, h⟩ := bind_eq_ok.mp h
    obtain ⟨decrease, hdecrease, h⟩ := bind_eq_ok.mp h
    obtain ⟨indentNextLine, hindentNextLine, h⟩ := bind_eq_ok.mp h
    obtain ⟨unindentedLine, hunindentedLine, -⟩ := bind_eq_ok.mp h
    exact ⟨⟨_, hincrease⟩, ⟨_, hdecrease⟩, ⟨_, hindentNextLine⟩, _, hunindentedLine⟩
  · rintro ⟨⟨_, hincrease⟩, ⟨_, hdecrease⟩, ⟨_, hindentNextLine⟩, _, hunindentedLine⟩
    rw [IndentRules.compile, bind_of_ok hincrease, bind_of_ok hdecrease,
      bind_of_ok hindentNextLine, bind_of_ok hunindentedLine]
    exact ⟨_, rfl⟩

theorem mapM_eq_breakdown {rule : Option Text} {reason : Breakdown}
    (h : rule.mapM compiler = .error (.breakdown reason)) :
    ∃ source, rule = some source ∧ compiler source = .error (.breakdown reason) := by
  cases rule with
  | none => cases h
  | some source =>
    refine ⟨source, rfl, ?_⟩
    cases hsource : compiler source with
    | error failed => simpa [hsource] using h
    | ok pattern => simp [hsource] at h

/-- Reading the rules breaks down only if reading one of them does. -/
theorem exists_of_compile_eq_breakdown {texts : RuleTexts} {reason : Breakdown}
    (h : IndentRules.compile compiler texts = .error (.breakdown reason)) :
    ∃ source, some source ∈ [texts.increase, texts.decrease, texts.indentNextLine,
      texts.unindentedLine] ∧ compiler source = .error (.breakdown reason) := by
  have hone : ∃ rule ∈ [texts.increase, texts.decrease, texts.indentNextLine,
      texts.unindentedLine], rule.mapM compiler = .error (.breakdown reason) := by
    rcases bind_eq_error.mp h with h | ⟨_, -, h⟩
    · exact ⟨texts.increase, by simp, h⟩
    rcases bind_eq_error.mp h with h | ⟨_, -, h⟩
    · exact ⟨texts.decrease, by simp, h⟩
    rcases bind_eq_error.mp h with h | ⟨_, -, h⟩
    · exact ⟨texts.indentNextLine, by simp, h⟩
    rcases bind_eq_error.mp h with h | ⟨_, -, h⟩
    · exact ⟨texts.unindentedLine, by simp, h⟩
    · cases h
  obtain ⟨rule, hrule, hmap⟩ := hone
  obtain ⟨source, rfl, hsource⟩ := mapM_eq_breakdown hmap
  exact ⟨source, hrule, hsource⟩

variable {key value} in
theorem checks_compile {texts : RuleTexts} {decode : Decode IndentRules}
    (hok : ∀ rules, IndentRules.compile compiler texts = .ok rules → decode = .ok rules)
    (herror : ∀ failed, IndentRules.compile compiler texts = .error failed →
      decode = .error (failed.map fun error => ⟨.badPattern error, some key⟩))
    (htexts : ∀ source, some source ∈ [texts.increase, texts.decrease, texts.indentNextLine,
      texts.unindentedLine] → RuleOf value source) :
    Checks (Culprit.In compiler key (RuleOf value)) decode
      (∃ rules, IndentRules.compile compiler texts = .ok rules) := by
  cases hcompile : IndentRules.compile compiler texts with
  | ok rules =>
    rw [hok rules hcompile]
    exact .ok rules ⟨rules, rfl⟩
  | error failed =>
    rw [herror failed hcompile]
    cases failed with
    | cause error => exact .problem _ (.inl (under_refl key)) (by simp)
    | breakdown reason =>
      obtain ⟨source, hmem, hsource⟩ := exists_of_compile_eq_breakdown hcompile
      exact .breakdown (.inr ⟨reason, source, rfl, htexts source hmem, hsource⟩) (by simp)

variable {key} in
/-- Entries with other names than the known ones are reported. -/
theorem checks_names {α : Type} {blame : Culprit → Prop} {decode : Decode α} {shape : Prop}
    {known : List String} {table : Table} (hkey : blame (.cause key))
    (hnone : unknownName? known table = none → Checks blame decode shape)
    (hsome : ∀ name, unknownName? known table = some name → ∃ fault, decode = problem fault key) :
    Checks blame decode ((∀ entry ∈ table, entry.1 ∈ known) ∧ shape) := by
  rw [← unknownName?_eq_none_iff]
  cases hunknown : unknownName? known table with
  | none => exact (hnone hunknown).congr (by simp)
  | some name =>
    obtain ⟨fault, hfault⟩ := hsome name hunknown
    rw [hfault]
    exact .problem _ hkey (by simp)

variable {key} in
theorem lookup_of_decodeRule {table : Table} {name : String} {source : Text}
    (h : decodeRule key table name = .ok (some source)) :
    table.lookup name = some (.text source) := by
  unfold decodeRule at h
  split at h
  · cases h
  · rename_i hlookup
    obtain rfl := Option.some.inj (Except.ok.inj h)
    exact hlookup
  · cases h

theorem checks_decodeRules : Checks (Culprit.In compiler key (RuleOf value))
    (decodeRules compiler key value) (Rules compiler value) := by
  unfold decodeRules
  split
  · rename_i table
    have hrule : ∀ name, Checks (Culprit.In compiler key (RuleOf (.table table)))
        (decodeRule key table name) _ :=
      fun name => (checks_decodeRule key table name).mono fun _ _ => .inl
    have hmem : ∀ name ∈ ruleNames, ∀ {rule : Option Text}, decodeRule key table name = .ok rule →
        ∀ source, some source = rule → RuleOf (.table table) source := by
      rintro name hname _ hrule source rfl
      exact ⟨table, name, rfl, hname, lookup_of_decodeRule hrule⟩
    apply Checks.congr
    · apply checks_names (.inl (under_refl key))
      · intro hnone
        rw [hnone]
        -- all four rules are known to be texts before the first pattern is read
        exact (hrule "increase").bind fun increase hincrease =>
          (hrule "decrease").bind fun decrease hdecrease =>
          (hrule "indent_next_line").bind fun indentNextLine hindentNextLine =>
          (hrule "unindented_line").bind fun unindentedLine hunindentedLine =>
            (checks_compile (fun _ h => by rw [h]; rfl) (fun _ h => by rw [h]) <| by
              have hincrease' := hmem "increase" (by decide) hincrease
              have hdecrease' := hmem "decrease" (by decide) hdecrease
              have hindentNextLine' := hmem "indent_next_line" (by decide) hindentNextLine
              have hunindentedLine' := hmem "unindented_line" (by decide) hunindentedLine
              intro source hsource
              simp only [List.mem_cons, List.not_mem_nil, or_false] at hsource
              tauto).congr <| by
              rw [exists_compile_iff, compile_iff_of_decodeRule hincrease,
                compile_iff_of_decodeRule hdecrease, compile_iff_of_decodeRule hindentNextLine,
                compile_iff_of_decodeRule hunindentedLine]
      · intro name hname
        rw [hname]
        exact ⟨_, rfl⟩
    · -- a rule whose pattern can be read is a text
      have htext : ∀ name, (∀ value, table.lookup name = some value → PatternText compiler value) →
          ∀ value, table.lookup name = some value → ∃ source, value = .text source := by
        intro name hpattern value hlookup
        obtain ⟨source, _, hsource, -⟩ := hpattern value hlookup
        exact ⟨source, hsource⟩
      have hincrease := htext "increase"
      have hdecrease := htext "decrease"
      have hindentNextLine := htext "indent_next_line"
      have hunindentedLine := htext "unindented_line"
      simp only [Rules, TableOf, ruleNames, Value.table.injEq, exists_eq_left', List.map_cons,
        List.map_nil, List.forall_mem_cons, List.not_mem_nil, false_implies, implies_true, and_true]
      tauto
  · rename_i htable
    refine .problem _ (.inl (under_refl key)) ?_
    rintro ⟨_, hvalue, -⟩
    exact htable _ hvalue

variable {key} in
theorem Culprit.Under.entry {name : String} {culprit : Culprit}
    (h : culprit.Under s!"{key}.{name}") : culprit.Under key := by
  obtain ⟨other, rfl, hother⟩ := h
  exact ⟨other, rfl, (below_entry key name).trans hother⟩

/-- An entry may be missing. -/
theorem checks_decodeEntry {α : Type} {blame : Culprit → Prop}
    {decode : String → Value → Decode α} {shape : Shape} {table : Table} {name : String}
    (h : ∀ value, table.lookup name = some value →
      Checks blame (decode s!"{key}.{name}" value) (shape value)) :
    Checks blame (decodeEntry key table name decode)
      (∀ value, table.lookup name = some value → shape value) := by
  unfold decodeEntry
  split
  · rename_i hlookup
    exact .ok none (by simp [hlookup])
  · rename_i value hlookup
    exact ((h value hlookup).map some).congr (by simp [hlookup])

/-- The table of a language, whichever languages its regions embed. -/
theorem checks_decodeChanges (table : Table) :
    Checks (Culprit.In compiler key (PatternOf (.table table))) (decodeChanges compiler key table)
      (LanguageTable compiler (fun _ => True) (.table table)) := by
  -- most entries hold no patterns
  have hentry : ∀ {α : Type} {decode : String → Value → Decode α} {shape : Shape},
      (∀ key value, Checks (Culprit.Under key) (decode key value) (shape value)) → ∀ name,
      Checks (Culprit.In compiler key (PatternOf (.table table)))
        (decodeEntry key table name decode)
        (∀ value, table.lookup name = some value → shape value) :=
    fun h name => checks_decodeEntry key fun value _ =>
      (h s!"{key}.{name}" value).mono fun _ _ hculprit => .inl hculprit.entry
  have hrules : Checks (Culprit.In compiler key (PatternOf (.table table)))
      (decodeEntry key table "indentation" (decodeRules compiler))
      (∀ value, table.lookup "indentation" = some value → Rules compiler value) := by
    apply checks_decodeEntry key
    intro value hlookup
    apply (checks_decodeRules _ value).mono
    rintro culprit - (hunder | ⟨reason, source, rfl, hsource, hbreaks⟩)
    · exact .inl hunder.entry
    · exact .inr ⟨reason, source, rfl, ⟨table, value, rfl, hlookup, hsource⟩, hbreaks⟩
  apply Checks.congr
  · -- the fields are decoded in this order, and other names are looked for at the end
    exact (hentry checks_decodeBrackets "brackets").bind fun _ _ =>
      (hentry checks_decodeExtensions "extensions").bind fun _ _ =>
      (hentry checks_decodeTexts "line_comments").bind fun _ _ =>
      (hentry checks_decodeBlockComments "block_comments").bind fun _ _ =>
      (hentry checks_decodeQuotes "quotes").bind fun _ _ =>
      (hentry checks_decodeBoolean "regex_literals").bind fun _ _ =>
      (hentry checks_decodeEmbedded "embedded").bind fun _ _ =>
      hrules.bind fun _ _ =>
        @checks_names key _ _ _ True languageKeys table (.inl (under_refl key))
          (fun hnone => by rw [hnone]; exact .ok _ trivial)
          fun name hname => ⟨_, by rw [hname]⟩
  · simp [LanguageTable, TableOf, languageKeys]
    tauto

end Decoders

end Indentation.Config
