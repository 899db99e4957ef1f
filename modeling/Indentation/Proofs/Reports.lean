import Mathlib.Algebra.Group.Nat.Defs
import Indentation.Report
import Indentation.Proofs.Json
import Indentation.Proofs.LineEnds

/-!
# Reports lose nothing

A written report is read back with a JSON reader that knows nothing of the writer. The JSON form is
one object with the ten fields. The text form has ten lines of printable ASCII characters, each with
a name, a colon and a JSON value. Hence different reports are written differently. Only a report on
a line whose number has too many digits is not written at all.

The heart is that the escapes of a character are read as that character wherever they stand. No
escape runs into the next one: a unit that stands for a character is no half of a pair, and a pair
is complete.

## Main definitions

* `Text.IsShort` — a number has not too many digits
* `Json.Escapes` — a written form of a character inside a string
* `Report.Value.json` — the value of a field
* `Report.Value.written` — the written form of a value, if there is one
* `Report.entries` — the ten names and values of a report
* `Report.readRow` — a line of the text form

## Main results

* `Json.escapes_escapedChar` — the escapes of a character
* `Json.readString_flatMap` — strings are read back
* `Text.ofInt?_of_isShort` — numbers that are not too long are written
* `Report.Value.reads_written` — values are read back
* `Report.toJson_eq_ok`, `Report.toText_eq_ok` — what is written
* `Report.reports_read_back` — both forms of a report are read back
-/

namespace Indentation

/-- The text holds printable ASCII characters only. -/
def Text.IsPrintableAscii (text : Text) : Prop :=
  ∀ c ∈ text, 0x20 ≤ c.toNat ∧ c.toNat < 0x7F

instance (text : Text) : Decidable text.IsPrintableAscii :=
  List.decidableBAll (fun c : Char => 0x20 ≤ c.toNat ∧ c.toNat < 0x7F) text

theorem Text.isPrintableAscii_append {first second : Text} :
    Text.IsPrintableAscii (first ++ second) ↔ first.IsPrintableAscii ∧ second.IsPrintableAscii :=
  List.forall_mem_append

/-! ### Digits -/

/-- The last hexadecimal digits of a number are read as its remainder. -/
theorem Json.hexNumber?_hexDigits (count n : Nat) :
    Json.hexNumber? (Text.hexDigits count n) = some (n % 16 ^ count) := by
  have hdigit : ∀ n < 16, Character.hexValue? (Nat.digitChar n) = some n := by decide
  induction count generalizing n with
  | zero => simp [Json.hexNumber?, Text.hexDigits, Character.ofHexValues, Nat.mod_one]
  | succ count ih =>
    obtain ⟨values, hvalues, hnumber⟩ := Option.map_eq_some_iff.mp (ih (n / 16))
    have hlast : n % 16 ^ (count + 1) = 16 * (n / 16 % 16 ^ count) + n % 16 := by
      rw [Nat.pow_succ', Nat.mod_mul, Nat.add_comm]
    rw [Character.ofHexValues] at hnumber
    simp [Json.hexNumber?, Text.hexDigits, List.mapM_append, hvalues, hdigit (n % 16) (by omega),
      Character.ofHexValues, hnumber, hlast]

theorem Text.isPrintableAscii_hexDigits (count n : Nat) :
    (Text.hexDigits count n).IsPrintableAscii := by
  have hdigit : ∀ n < 16, Text.IsPrintableAscii [Nat.digitChar n] := by decide
  induction count generalizing n with
  | zero => exact fun _ hmem => nomatch hmem
  | succ count ih =>
    exact Text.isPrintableAscii_append.mpr ⟨ih (n / 16), hdigit (n % 16) (by omega)⟩

theorem Text.isPrintableAscii_unitEscape (unit : Nat) : (Text.unitEscape unit).IsPrintableAscii :=
  Text.isPrintableAscii_append.mpr
    ⟨(by decide : Text.IsPrintableAscii ['\\', 'u']), Text.isPrintableAscii_hexDigits 4 unit⟩

theorem Text.isPrintableAscii_ofInt (n : Int) : (Text.ofInt n).IsPrintableAscii := by
  have hdigits (n : Nat) : Text.IsPrintableAscii (Nat.toDigits 10 n) := by
    intro c hmem
    have hdigit := Nat.isDigit_of_mem_toDigits (by decide) (by decide) hmem
    simp only [Char.isDigit, Bool.and_eq_true, decide_eq_true_eq] at hdigit
    have hfrom : 48 ≤ c.toNat := hdigit.1
    have hto : c.toNat ≤ 57 := hdigit.2
    omega
  cases n with
  | ofNat n => exact hdigits n
  | negSucc n =>
    exact Text.isPrintableAscii_append.mpr
      ⟨(by decide : Text.IsPrintableAscii ['-']), hdigits (n + 1)⟩

/-- A number has not more digits than can be written. -/
def Text.IsShort (number : Int) : Prop :=
  number.natAbs < 10 ^ Text.maxIntegerDigits

theorem Text.isShort_of_lt_ten {number : Int} (h : number.natAbs < 10) : Text.IsShort number :=
  Nat.lt_of_lt_of_le h (Nat.le_self_pow (by decide) 10)

theorem Text.ofInt?_of_isShort {number : Int} (h : Text.IsShort number) :
    Text.ofInt? number = some (Text.ofInt number) :=
  if_pos ((Nat.length_toDigits_le_iff (by decide) (by decide)).mpr h)

theorem Text.ofInt?_of_not_isShort {number : Int} (h : ¬ Text.IsShort number) :
    Text.ofInt? number = none :=
  if_neg (mt (Nat.length_toDigits_le_iff (by decide) (by decide)).mp h)

namespace Json

/-! ### Strings -/

/-- A written form of a character inside a string: printable, and read as the character wherever it
stands. -/
structure Escapes (c : Char) (written : Text) : Prop where
  isPrintableAscii : written.IsPrintableAscii
  exists_pieces : ∃ pieces,
    (∀ rest, readPieces (written ++ rest) =
      (readPieces rest).map fun result => (pieces ++ result.1, result.2)) ∧
    ∀ others, joinPieces (pieces ++ others) = (joinPieces others).map (c :: ·)

section Characters

variable {c : Char}

theorem escapes_self (hquote : c ≠ '"') (hbackslash : c ≠ '\\') (hfrom : 0x20 ≤ c.toNat)
    (hto : c.toNat < 0x7F) : Escapes c [c] where
  isPrintableAscii := by simp [Text.IsPrintableAscii, hfrom, hto]
  exists_pieces := by
    refine ⟨[.plain c], fun rest => ?_, fun others => rfl⟩
    rw [List.singleton_append, readPieces, if_neg hquote, if_neg (by omega)]
    · rfl
    all_goals simp [hbackslash]

theorem escapes_of_escape? {e : Char} (h : escape? e = some c)
    (hprintable : Text.IsPrintableAscii [e]) : Escapes c ['\\', e] where
  isPrintableAscii := Text.isPrintableAscii_append.mpr
    ⟨(by decide : Text.IsPrintableAscii ['\\']), hprintable⟩
  exists_pieces := by
    -- The letter of the escapes by number is no escape of its own.
    have hunit : e ≠ 'u' := by
      rintro rfl
      have hnone : escape? 'u' = none := by decide
      rw [hnone] at h
      exact nomatch h
    refine ⟨[.plain c], fun rest => ?_, fun others => rfl⟩
    rw [List.cons_append, List.singleton_append, readPieces, h]
    · rfl
    · simp [hunit]

theorem readPieces_unitEscape {unit : Nat} (h : unit < 0x10000) (rest : Text) :
    readPieces (Text.unitEscape unit ++ rest) =
      (readPieces rest).map fun result => (.unit unit :: result.1, result.2) := by
  have hnumber : hexNumber? (Text.hexDigits 4 unit) = some unit := by
    rw [hexNumber?_hexDigits]
    exact congrArg some (Nat.mod_eq_of_lt h)
  obtain ⟨a, b, c, d, hdigits⟩ : ∃ a b c d, Text.hexDigits 4 unit = [a, b, c, d] :=
    ⟨_, _, _, _, rfl⟩
  rw [hdigits] at hnumber
  rw [Text.unitEscape, hdigits]
  simp only [List.cons_append, List.nil_append]
  rw [readPieces, hnumber, Option.bind_some]

theorem joinPieces_unit {code : Nat} (h : ¬(IsHighUnit code ∨ IsLowUnit code))
    (others : List Piece) :
    joinPieces (.unit code :: others) = (joinPieces others).map (Char.ofNat code :: ·) := by
  cases others with
  | nil => exact if_neg h
  | cons piece others =>
    cases piece with
    | plain c => exact if_neg h
    | unit low => rw [joinPieces, if_neg fun hpair => h (.inl hpair.1), if_neg h]

/-- A character of one unit, which is no half of a pair. -/
theorem escapes_unitEscape (h : c.toNat < 0x10000) : Escapes c (Text.unitEscape c.toNat) where
  isPrintableAscii := Text.isPrintableAscii_unitEscape _
  exists_pieces := by
    refine ⟨[.unit c.toNat], fun rest => readPieces_unitEscape h rest, fun others => ?_⟩
    -- The halves of pairs are no characters, so that the unit is not taken for one of them.
    have hvalid : c.toNat < 0xD800 ∨ 0xDFFF < c.toNat := c.valid.imp id And.left
    have halone : ¬(IsHighUnit c.toNat ∨ IsLowUnit c.toNat) := by
      simp only [IsHighUnit, IsLowUnit]
      omega
    rw [List.singleton_append, joinPieces_unit halone, Char.ofNat_toNat]

/-- A character of two units. -/
theorem escapes_pair (h : 0x10000 ≤ c.toNat) :
    Escapes c (Text.unitEscape (0xD7C0 + c.toNat / 0x400) ++
      Text.unitEscape (0xDC00 + c.toNat % 0x400)) where
  isPrintableAscii := Text.isPrintableAscii_append.mpr
    ⟨Text.isPrintableAscii_unitEscape _, Text.isPrintableAscii_unitEscape _⟩
  exists_pieces := by
    have hbound : c.toNat < 0x110000 := by
      rcases c.valid with hlow | hhigh
      · exact Nat.lt_trans hlow (by decide)
      · exact hhigh.2
    have hhigh : IsHighUnit (0xD7C0 + c.toNat / 0x400) := by
      simp only [IsHighUnit]
      omega
    have hlow : IsLowUnit (0xDC00 + c.toNat % 0x400) := by
      simp only [IsLowUnit]
      omega
    have hchar : ofUnits (0xD7C0 + c.toNat / 0x400) (0xDC00 + c.toNat % 0x400) = c := by
      have hcode : 0x10000 + (0xD7C0 + c.toNat / 0x400 - 0xD800) * 0x400 +
          (0xDC00 + c.toNat % 0x400 - 0xDC00) = c.toNat := by
        omega
      rw [ofUnits, hcode, Char.ofNat_toNat]
    refine ⟨[.unit (0xD7C0 + c.toNat / 0x400), .unit (0xDC00 + c.toNat % 0x400)],
      fun rest => ?_, fun others => ?_⟩
    · rw [List.append_assoc, readPieces_unitEscape (by omega), readPieces_unitEscape (by omega),
        Option.map_map]
      rfl
    · rw [List.cons_append, List.singleton_append, joinPieces, if_pos ⟨hhigh, hlow⟩, hchar]

/-- The escapes of a character are read as the character. -/
theorem escapes_escapedChar (c : Char) : Escapes c (Text.escapedChar c) := by
  simp only [Text.escapedChar, beq_iff_eq, Bool.or_eq_true, Bool.and_eq_true, decide_eq_true_eq]
  by_cases hself : c = '"' ∨ c = '\\'
  · rw [if_pos hself]
    rcases hself with rfl | rfl
    · exact escapes_of_escape? (by decide) (by decide)
    · exact escapes_of_escape? (by decide) (by decide)
  rw [if_neg hself]
  -- What is left are the control characters with a letter of their own, the characters that are
  -- written as they are, and those that are written by number.
  split
  case isTrue h => exact escapes_of_escape? (h ▸ by decide) (by decide)
  split
  case isTrue h => exact escapes_of_escape? (h ▸ by decide) (by decide)
  split
  case isTrue h => exact escapes_of_escape? (h ▸ by decide) (by decide)
  split
  case isTrue h =>
    obtain rfl : c = '\x08' := Char.toNat_inj.mp h
    exact escapes_of_escape? (by decide) (by decide)
  split
  case isTrue h =>
    obtain rfl : c = '\x0C' := Char.toNat_inj.mp h
    exact escapes_of_escape? (by decide) (by decide)
  split
  case isTrue h =>
    exact escapes_self (fun hc => hself (.inl hc)) (fun hc => hself (.inr hc)) h.1 h.2
  split
  case isTrue h => exact escapes_unitEscape h
  case isFalse h => exact escapes_pair (by omega)

end Characters

/-- The escapes of a text, up to the closing quote, are read as the text. -/
theorem readString_flatMap (text rest : Text) :
    readString (text.flatMap Text.escapedChar ++ '"' :: rest) = some (text, rest) := by
  induction text with
  | nil => simp [readString, readPieces, joinPieces]
  | cons c text ih =>
    obtain ⟨pieces, hread, hjoin⟩ := (escapes_escapedChar c).exists_pieces
    -- The pieces of the remaining text, and what they are put together to.
    rw [readString, Option.bind_eq_some_iff] at ih
    obtain ⟨⟨others, _⟩, hothers, htext⟩ := ih
    rw [List.flatMap_cons, List.append_assoc, readString, hread, hothers]
    obtain ⟨content, hcontent, heq⟩ := Option.map_eq_some_iff.mp htext
    cases heq
    simp [hjoin, hcontent]

theorem isPrintableAscii_escaped (text : Text) : text.escaped.IsPrintableAscii := by
  intro c hmem
  rw [Text.escaped, List.cons_append, List.mem_cons, List.mem_append, List.mem_flatMap,
    List.mem_singleton] at hmem
  rcases hmem with rfl | ⟨d, -, hmem⟩ | rfl
  · decide
  · exact (escapes_escapedChar d).isPrintableAscii c hmem
  · decide

theorem escaped_append (text rest : Text) :
    text.escaped ++ rest = '"' :: (text.flatMap Text.escapedChar ++ '"' :: rest) := by
  simp [Text.escaped]

/-- A text between double quotes is a value. -/
theorem reads_escaped (text : Text) (depth : Nat) :
    Reads (readValue (depth + 1)) text.escaped (.string text) := by
  intro rest _
  rw [escaped_append, readValue, skipBlanks_cons (by decide)]
  simp [readString_flatMap]

/-- A name between double quotes, a colon and a value are an entry. -/
theorem reads_entry {name written : Text} {value : Json} {depth : Nat}
    (h : Reads (readValue depth) written value) :
    Reads (readEntry (readValue depth))
      ("  ".toList ++ name.escaped ++ ": ".toList ++ written) (name, value) := by
  intro rest hrest
  have hvalue : readValue depth (' ' :: (written ++ rest)) = some (value, rest) := by
    rw [readValue_cons_of_blank (by decide), h rest hrest]
  have htext : "  ".toList ++ name.escaped ++ ": ".toList ++ written ++ rest =
      ' ' :: ' ' :: (name.escaped ++ ':' :: ' ' :: (written ++ rest)) := by
    simp
  rw [htext, readEntry_cons_of_blank (by decide), readEntry_cons_of_blank (by decide),
    escaped_append]
  simp [readEntry, skipMark_cons, isBlank, readString_flatMap, hvalue]

end Json

namespace Report

/-! ### Fields -/

/-- The value of a field. -/
def Value.json : Value → Json
  | integer number => .number number 0
  | text content => .string content
  | condition holds => .boolean holds

/-- The names and values of a report. -/
def entries (report : Report) : List (Text × Json) :=
  [("line".toList, .number report.line 0),
    ("text".toList, .string report.text),
    ("sanitized".toList, .string report.sanitized),
    ("increase".toList, .boolean report.increase),
    ("decrease".toList, .boolean report.decrease),
    ("ignore".toList, .boolean report.ignore),
    ("indent_next_line".toList, .boolean report.indentNextLine),
    ("before".toList, .string report.before),
    ("after".toList, .string report.after),
    ("previous_line".toList, .string report.previousLine)]

theorem entries_injective : Function.Injective entries := by
  intro first second h
  cases first
  cases second
  simpa only [entries, List.cons.injEq, Prod.mk.injEq, Json.number.injEq, Json.string.injEq,
    Json.boolean.injEq, true_and, and_true, Report.mk.injEq] using h

theorem map_fields (report : Report) :
    report.fields.map (fun field => (field.1.toList, field.2.json)) = report.entries :=
  rfl

/-- The written form of a value, whether or not it has too many digits. -/
def Value.written : Value → Text
  | integer number => Text.ofInt number
  | text content => content.escaped
  | condition holds => if holds then "true".toList else "false".toList

theorem render_of_mem_fields {report : Report} (h : Text.IsShort report.line)
    {field : String × Value} (hfield : field ∈ report.fields) :
    field.2.render = .ok field.2.written := by
  -- the line is the only field with a number
  rcases List.mem_cons.mp hfield with rfl | hfield
  · simp only [Value.render, Text.ofInt?_of_isShort h, Value.written]
  · have hothers : ∀ field ∈ report.fields.tail, field.2.render = .ok field.2.written := by
      simp only [fields, List.tail_cons, List.forall_mem_cons, List.not_mem_nil, false_implies,
        implies_true, and_true, Value.render, Value.written]
    exact hothers field hfield

theorem render_line_of_not {report : Report} (h : ¬ Text.IsShort report.line) :
    (Value.integer report.line).render = .error (.tooManyDigits none) := by
  simp only [Value.render, Text.ofInt?_of_not_isShort h]

/-- A written value is read back. -/
theorem Value.reads_written (value : Value) (depth : Nat) :
    Json.Reads (Json.readValue (depth + 1)) value.written value.json := by
  cases value with
  | integer number => exact Json.reads_value_ofInt number depth
  | text content => exact Json.reads_escaped content depth
  | condition holds =>
    intro rest _
    cases holds with
    | true => exact Json.readWord_append "rue".toList _ rest
    | false => exact Json.readWord_append "alse".toList _ rest

theorem Value.isPrintableAscii_written (value : Value) : value.written.IsPrintableAscii := by
  cases value with
  | integer number => exact Text.isPrintableAscii_ofInt number
  | text content => exact Json.isPrintableAscii_escaped content
  | condition holds => cases holds <;> decide

/-- The names are printable and hold no colon. -/
theorem of_mem_fields {report : Report} {field : String × Value} (h : field ∈ report.fields) :
    Text.IsPrintableAscii field.1.toList ∧ ':' ∉ field.1.toList := by
  have hnames : ∀ name ∈ report.fields.map Prod.fst,
      Text.IsPrintableAscii name.toList ∧ ':' ∉ name.toList := by
    simp only [fields, List.map_cons, List.map_nil]
    decide
  exact hnames field.1 (List.mem_map_of_mem h)

/-! ### The JSON form -/

/-- The row of a field in the JSON form, and what it says. -/
def jsonRow (field : String × Value) : Text × Text × Json :=
  ("  ".toList ++ Text.escaped field.1.toList ++ ": ".toList ++ field.2.written,
    field.1.toList, field.2.json)

/-- The JSON form of a report. -/
def jsonForm (report : Report) : Text :=
  "\x7b\n".toList ++ Json.writeRows ((report.fields.map jsonRow).map Prod.fst) '\x7d' ['\n']

theorem mapM_eq_ok {α β ε : Type} {f : α → Except ε β} {g : α → β} {items : List α}
    (h : ∀ item ∈ items, f item = .ok (g item)) : items.mapM f = .ok (items.map g) := by
  induction items with
  | nil => rfl
  | cons item items ih =>
    obtain ⟨hitem, hitems⟩ := List.forall_mem_cons.mp h
    rw [List.mapM_cons, hitem, ih hitems]
    rfl

theorem toJson_eq_ok {report : Report} (h : Text.IsShort report.line) :
    report.toJson = .ok report.jsonForm := by
  have hrows : report.fields.mapM (fun field => do
      return "  ".toList ++ Text.escaped field.1.toList ++ ": ".toList ++ (← field.2.render)) =
      Except.ok (report.fields.map fun field => (jsonRow field).1) := by
    apply mapM_eq_ok
    intro field hfield
    rw [render_of_mem_fields h hfield]
    rfl
  change (report.fields.mapM _ >>= _) = _
  rw [hrows, jsonForm, List.map_map, Json.writeRows, ← List.append_assoc]
  rfl

theorem toJson_eq_error {report : Report} (h : ¬ Text.IsShort report.line) :
    report.toJson = .error (.tooManyDigits none) := by
  rw [toJson, fields, List.mapM_cons]
  dsimp only
  rw [render_line_of_not h]
  rfl

theorem read_jsonForm (report : Report) :
    Json.read report.jsonForm = some (.object report.entries) := by
  have hrows (depth : Nat) : ∀ row ∈ report.fields.map jsonRow,
      Json.Reads (Json.readEntry (Json.readValue (depth + 1))) row.1 row.2 := by
    intro row hmem
    obtain ⟨field, -, rfl⟩ := List.mem_map.mp hmem
    exact Json.reads_entry (field.2.reads_written depth)
  -- One bracket is around the values, so two steps into the depth are enough.
  have hobject (depth : Nat) :
      Json.readValue (depth + 2) report.jsonForm = some (.object report.entries, ['\n']) := by
    rw [jsonForm, Json.readValue_object (by simp [fields]) (hrows depth) rfl, List.map_map]
    rfl
  obtain ⟨depth, hdepth⟩ : ∃ depth, report.jsonForm.length = depth + 2 :=
    ⟨_, by rw [jsonForm]; rfl⟩
  rw [Json.read, hdepth, hobject]
  rfl

/-! ### The text form -/

/-- A name up to the first colon, and the JSON value behind it. -/
def readRow (line : Text) : Option (Text × Json) :=
  let name := line.takeWhile (· ≠ ':')
  (Json.read (line.drop (name.length + 1))).map fun value => (name, value)

/-- The line of a field, whose name is padded to a width. -/
def row (width : Nat) (field : String × Value) : Text :=
  Text.alignLeft width (field.1.toList ++ [':']) ++ field.2.written

/-- The lines of the text form of a report. -/
def rows (report : Report) : List Text :=
  report.fields.map (row (nameWidth report.fields))

theorem toText_eq_ok {report : Report} (h : Text.IsShort report.line) :
    report.toText = .ok (report.rows.flatMap (· ++ ['\n'])) := by
  have hrows : report.fields.mapM (fun field => do
      return Text.alignLeft (nameWidth report.fields) (field.1.toList ++ [':'])
        ++ (← field.2.render) ++ ['\n']) =
      Except.ok (report.fields.map fun field => row (nameWidth report.fields) field ++ ['\n']) := by
    apply mapM_eq_ok
    intro field hfield
    rw [render_of_mem_fields h hfield]
    rfl
  change (report.fields.mapM _ >>= _) = _
  rw [hrows, rows, List.flatMap_map, List.flatMap]
  rfl

theorem toText_eq_error {report : Report} (h : ¬ Text.IsShort report.line) :
    report.toText = .error (.tooManyDigits none) := by
  rw [toText, fields, List.mapM_cons]
  dsimp only
  rw [render_line_of_not h]
  rfl

theorem exists_row_eq (width : Nat) (field : String × Value) :
    ∃ spaces, row width field =
      field.1.toList ++ ':' :: (List.replicate spaces ' ' ++ field.2.written) := by
  simp [row, Text.alignLeft]

/-- The line of a field is read back, as its name ends at the first colon. -/
theorem readRow_row (width : Nat) {field : String × Value} (h : ':' ∉ field.1.toList) :
    readRow (row width field) = some (field.1.toList, field.2.json) := by
  obtain ⟨spaces, hrow⟩ := exists_row_eq width field
  have hname : (row width field).takeWhile (· ≠ ':') = field.1.toList := by
    rw [hrow, List.takeWhile_append_of_pos, List.takeWhile_cons_of_neg (by decide), List.append_nil]
    intro c hmem
    exact decide_eq_true fun hc => h (hc ▸ hmem)
  have hvalue : (row width field).drop (field.1.toList.length + 1) =
      List.replicate spaces ' ' ++ field.2.written := by
    rw [hrow, List.drop_append]
    simp
  rw [readRow, hname, hvalue, Json.read_of_reads field.2.reads_written]
  rfl

theorem isPrintableAscii_row (width : Nat) {field : String × Value}
    (h : Text.IsPrintableAscii field.1.toList) : (row width field).IsPrintableAscii := by
  obtain ⟨spaces, hrow⟩ := exists_row_eq width field
  have hspaces : Text.IsPrintableAscii (List.replicate spaces ' ') := by
    intro c hmem
    rw [(List.mem_replicate.mp hmem).2]
    decide
  have hcolon : Text.IsPrintableAscii [':'] := by
    decide
  rw [hrow]
  refine Text.isPrintableAscii_append.mpr ⟨h, Text.isPrintableAscii_append.mpr ⟨hcolon, ?_⟩⟩
  exact Text.isPrintableAscii_append.mpr ⟨hspaces, field.2.isPrintableAscii_written⟩

/-- Printable texts that are ended by line feeds are the lines of the whole, in front of an empty
one. -/
theorem splitLines_flatMap {lines : List Text} (h : ∀ line ∈ lines, line.IsPrintableAscii) :
    Text.splitLines (lines.flatMap (· ++ ['\n'])) = lines ++ [[]] := by
  induction lines with
  | nil => rfl
  | cons line lines ih =>
    have hline := h line List.mem_cons_self
    have hends : '\r' ∉ line ∧ '\n' ∉ line :=
      ⟨fun hmem => absurd (hline _ hmem) (by decide), fun hmem => absurd (hline _ hmem) (by decide)⟩
    have hothers := ih fun line hmem => h line (List.mem_cons_of_mem _ hmem)
    rw [List.flatMap_cons, List.append_assoc, List.singleton_append,
      Text.splitLines_append_of_not_mem hends (Text.splitLines_lineFeed_cons _), List.append_nil,
      hothers, List.cons_append]

theorem isPrintableAscii_of_mem_rows {report : Report} {line : Text}
    (h : line ∈ report.rows) : line.IsPrintableAscii := by
  obtain ⟨field, hfield, rfl⟩ := List.mem_map.mp h
  exact isPrintableAscii_row _ (of_mem_fields hfield).1

theorem mapM_readRow (width : Nat) {fields : List (String × Value)}
    (h : ∀ field ∈ fields, ':' ∉ field.1.toList) :
    (fields.map (row width)).mapM readRow =
      some (fields.map fun field => (field.1.toList, field.2.json)) := by
  induction fields with
  | nil => rfl
  | cons field fields ih =>
    rw [List.map_cons, List.mapM_cons, readRow_row width (h field List.mem_cons_self),
      ih fun field hmem => h field (List.mem_cons_of_mem _ hmem)]
    rfl

theorem mapM_readRow_rows (report : Report) :
    report.rows.mapM readRow = some report.entries := by
  rw [rows, mapM_readRow _ fun field hmem => (of_mem_fields hmem).2, map_fields]

/-! ### Both forms -/

theorem jsonForm_injective : Function.Injective jsonForm := by
  intro first second h
  have hread := read_jsonForm first
  rw [h, read_jsonForm second] at hread
  exact entries_injective (Json.object.inj (Option.some.inj hread)).symm

theorem eq_of_rows_eq {first second : Report}
    (h : first.rows.flatMap (· ++ ['\n']) = second.rows.flatMap (· ++ ['\n'])) :
    first = second := by
  -- The lines of the text are the rows, as no row holds a line end.
  have hlines := congrArg Text.splitLines h
  rw [splitLines_flatMap fun _ => isPrintableAscii_of_mem_rows,
    splitLines_flatMap fun _ => isPrintableAscii_of_mem_rows] at hlines
  have hread := mapM_readRow_rows first
  rw [List.append_cancel_right hlines, mapM_readRow_rows second] at hread
  exact entries_injective (Option.some.inj hread).symm

/-- What is written in one form by two reports tells that they are equal. -/
theorem eq_of_forms {form : Report → Except Breakdown Text} {pure : Report → Text}
    (hok : ∀ report, Text.IsShort report.line → form report = .ok (pure report))
    (herror : ∀ report, ¬ Text.IsShort report.line → form report = .error (.tooManyDigits none))
    (heq : ∀ first second, pure first = pure second → first = second) {first second : Report}
    {written : Text} (hfirst : form first = .ok written) (hsecond : form second = .ok written) :
    first = second := by
  have hpure : ∀ report, form report = .ok written → pure report = written := by
    intro report hreport
    by_cases hshort : Text.IsShort report.line
    · exact Except.ok.inj ((hok report hshort).symm.trans hreport)
    · cases (herror report hshort).symm.trans hreport
  exact heq first second ((hpure first hfirst).trans (hpure second hsecond).symm)

/-- Both forms of a report, the number of whose line has not too many digits, are read back as its
ten names and values: the JSON form as one object, the text form line by line. A report with more
digits has neither form. Either form tells different reports apart. -/
theorem reports_read_back (report : Report) :
    (report.line.natAbs < 10 ^ Text.maxIntegerDigits →
      (∃ json, report.toJson = .ok json ∧ Json.read json = some (.object report.entries)) ∧
      ∃ lines : List Text,
        report.toText = .ok (lines.flatMap (· ++ ['\n'])) ∧
        lines.length = 10 ∧
        (∀ line ∈ lines, line.IsPrintableAscii) ∧
        lines.mapM readRow = some report.entries) ∧
    (¬ report.line.natAbs < 10 ^ Text.maxIntegerDigits →
      report.toJson = .error (.tooManyDigits none) ∧
      report.toText = .error (.tooManyDigits none)) ∧
    (∀ other written, report.toJson = .ok written → other.toJson = .ok written →
      report = other) ∧
    ∀ other written, report.toText = .ok written → other.toText = .ok written →
      report = other := by
  refine ⟨fun hshort => ⟨⟨_, toJson_eq_ok hshort, read_jsonForm report⟩, report.rows,
    toText_eq_ok hshort, rfl, ?_, ?_⟩, fun hlong => ⟨toJson_eq_error hlong, toText_eq_error hlong⟩,
    ?_, ?_⟩
  · exact fun _ => isPrintableAscii_of_mem_rows
  · exact mapM_readRow_rows report
  · exact fun _ _ => eq_of_forms (fun _ => toJson_eq_ok) (fun _ => toJson_eq_error)
      fun _ _ h => jsonForm_injective h
  · exact fun _ _ => eq_of_forms (fun _ => toText_eq_ok) (fun _ => toText_eq_error)
      fun _ _ => eq_of_rows_eq

/-- A report with a negative line number and texts that need every kind of escape. -/
def crowdedReport : Report where
  line := -7
  text := ['"', '\\', '\n', Char.ofNat 0x7F, 'é', Char.ofNat 0x1F600]
  sanitized := ['\r', '\t', Char.ofNat 0]
  increase := true
  decrease := false
  ignore := false
  indentNextLine := true
  before := "line: 1".toList
  after := ['\\', 'n']
  previousLine := ['\n']

theorem reports_read_back_crowded :
    crowdedReport.line.natAbs < 10 ^ Text.maxIntegerDigits ∧
    crowdedReport.text.escaped = "\"\\\"\\\\\\n\\u007f\\u00e9\\ud83d\\ude00\"".toList ∧
    (∃ json, crowdedReport.toJson = .ok json ∧
      Json.read json = some (.object crowdedReport.entries)) ∧
    crowdedReport.toJson ≠ { crowdedReport with after := ['\n'] }.toJson ∧
    crowdedReport.toText ≠ { crowdedReport with after := ['\n'] }.toText := by
  have hshort : Text.IsShort crowdedReport.line := Text.isShort_of_lt_ten (by decide)
  obtain ⟨hforms, -, hjson, htext⟩ := reports_read_back crowdedReport
  obtain ⟨⟨json, hwritten, hread⟩, lines, hlines, -⟩ := hforms hshort
  have hne : crowdedReport ≠ { crowdedReport with after := ['\n'] } := by
    decide
  refine ⟨hshort, by decide, ⟨json, hwritten, hread⟩, ?_, ?_⟩
  · intro heq
    exact hne (hjson _ json hwritten (heq ▸ hwritten))
  · intro heq
    exact hne (htext _ _ hlines (heq ▸ hlines))

/-- The number of a line with one digit too many is not written in either form. -/
theorem long_line_is_not_written :
    let report := { crowdedReport with line := (10 ^ Text.maxIntegerDigits : Nat) }
    (∀ json, report.toJson ≠ .ok json) ∧ ∀ text, report.toText ≠ .ok text := by
  -- the number is kept apart from its value, which would be computed
  generalize hnumber : 10 ^ Text.maxIntegerDigits = number
  intro report
  have hlong : ¬ Text.IsShort report.line := by
    rw [Text.IsShort, hnumber, Int.natAbs_natCast]
    exact Nat.lt_irrefl number
  rw [toJson_eq_error hlong, toText_eq_error hlong]
  exact ⟨nofun, nofun⟩

end Report

end Indentation
