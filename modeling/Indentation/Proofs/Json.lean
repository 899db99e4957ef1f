import Indentation.Character.Hex
import Indentation.Text.Basic

/-!
# Reading JSON

A reader for JSON texts: values with blanks around them, objects, arrays, strings with escapes, numbers
with fractions and exponents, and the three words. It knows nothing of how a text was written, so what
it makes of a text is what the text says.

Strings are read in two steps. First the escapes are resolved, where an escape by number stands for a
UTF-16 unit. Then pairs of units are put together; a unit of a pair that stands alone is refused.

## Main definitions

* `Json` — a value
* `Json.readPieces`, `Json.joinPieces` — the two steps of reading a string
* `Json.readNumber` — a number, without zeros in front
* `Json.readSequence` — items with commas between them
* `Json.readValue` — a value at the front of a text
* `Json.read` — the value that a whole text spells

## Main results

* `Json.reads_value_ofInt` — integers are read back
* `Json.readSequence_writeRows` — rows with commas between them are read one by one
* `Json.readValue_object` — an object with one entry per line
-/

namespace Indentation

/-- A JSON value. A number is `digits` times the power of ten with the exponent `exponent`. -/
inductive Json where
  | null
  | boolean (holds : Bool)
  | number (digits exponent : Int)
  | string (content : Text)
  | array (items : List Json)
  | object (entries : List (Text × Json))

namespace Json

/-! ### Blanks -/

/-- A blank between values. -/
def isBlank (c : Char) : Bool :=
  c == ' ' || c == '\t' || c == '\n' || c == '\r'

/-- The text from the first character on that is no blank. -/
def skipBlanks (text : Text) : Text :=
  text.dropWhile isBlank

/-- The text behind a mark, which may have blanks in front of it. -/
def skipMark (mark : Char) (text : Text) : Option Text :=
  match skipBlanks text with
  | [] => none
  | c :: rest => if c = mark then some rest else none

/-! ### Strings -/

/-- A part of a string: a character, or a UTF-16 unit that is given by its number. -/
inductive Piece where
  | plain (c : Char)
  | unit (code : Nat)
  deriving DecidableEq, Repr

/-- The character that an escape by one character stands for. -/
def escape? (c : Char) : Option Char :=
  if c = '"' ∨ c = '\\' ∨ c = '/' then some c
  else if c = 'b' then some '\x08'
  else if c = 'f' then some '\x0C'
  else if c = 'n' then some '\n'
  else if c = 'r' then some '\r'
  else if c = 't' then some '\t'
  else none

/-- The number with the given hexadecimal digits. -/
def hexNumber? (digits : Text) : Option Nat :=
  (digits.mapM Character.hexValue?).map Character.ofHexValues

/-- The parts of a string up to the closing quote, and the text behind it. -/
def readPieces : Text → Option (List Piece × Text)
  | [] => none
  | '\\' :: 'u' :: a :: b :: c :: d :: rest =>
    (hexNumber? [a, b, c, d]).bind fun code =>
      (readPieces rest).map fun result => (.unit code :: result.1, result.2)
  | '\\' :: c :: rest =>
    (escape? c).bind fun c =>
      (readPieces rest).map fun result => (.plain c :: result.1, result.2)
  | c :: rest =>
    if c = '"' then some ([], rest)
    else if c.toNat < 0x20 then none
    else (readPieces rest).map fun result => (.plain c :: result.1, result.2)

/-- The first unit of a pair. -/
def IsHighUnit (code : Nat) : Prop :=
  0xD800 ≤ code ∧ code < 0xDC00

/-- The second unit of a pair. -/
def IsLowUnit (code : Nat) : Prop :=
  0xDC00 ≤ code ∧ code < 0xE000

instance (code : Nat) : Decidable (IsHighUnit code) :=
  inferInstanceAs (Decidable (_ ∧ _))

instance (code : Nat) : Decidable (IsLowUnit code) :=
  inferInstanceAs (Decidable (_ ∧ _))

/-- The character that a pair of units stands for. -/
def ofUnits (high low : Nat) : Char :=
  Char.ofNat (0x10000 + (high - 0xD800) * 0x400 + (low - 0xDC00))

/-- The text of some pieces, in which pairs of units stand for one character. -/
def joinPieces : List Piece → Option Text
  | [] => some []
  | .plain c :: pieces => (joinPieces pieces).map (c :: ·)
  | .unit high :: .unit low :: pieces =>
    if IsHighUnit high ∧ IsLowUnit low then (joinPieces pieces).map (ofUnits high low :: ·)
    else if IsHighUnit high ∨ IsLowUnit high then none
    else (joinPieces (.unit low :: pieces)).map (Char.ofNat high :: ·)
  | .unit code :: pieces =>
    if IsHighUnit code ∨ IsLowUnit code then none
    else (joinPieces pieces).map (Char.ofNat code :: ·)

/-- A string behind its opening quote, and the text behind it. -/
def readString (text : Text) : Option (Text × Text) :=
  (readPieces text).bind fun result => (joinPieces result.1).map fun content => (content, result.2)

/-! ### Numbers -/

/-- A run of at least one digit, and the text behind it. -/
def readDigits (text : Text) : Option (Text × Text) :=
  let digits := text.takeWhile Char.isDigit
  if digits.isEmpty then none else some (digits, text.dropWhile Char.isDigit)

/-- The digits of a number in front of its fraction: no zero is followed by a digit. -/
def readWhole (text : Text) : Option (Text × Text) :=
  (readDigits text).filter fun result => result.1.head? ≠ some '0' ∨ result.1.length = 1

/-- The digits behind a decimal point, if there is one. -/
def readFraction : Text → Option (Text × Text)
  | '.' :: rest => readDigits rest
  | text => some ([], text)

/-- A sign, if there is one. -/
def readSign : Text → Int × Text
  | '-' :: rest => (-1, rest)
  | '+' :: rest => (1, rest)
  | text => (1, text)

/-- An exponent, if there is one. -/
def readExponent (text : Text) : Option (Int × Text) :=
  if text.head? = some 'e' ∨ text.head? = some 'E' then
    let signed := readSign text.tail
    (readDigits signed.2).map fun result => (signed.1 * Nat.ofDigitChars 10 result.1 0, result.2)
  else
    some (0, text)

/-- A number without sign: its digits in front of and behind the decimal point, its exponent and the
text behind it. -/
def readDecimal (sign : Int) (text : Text) : Option (Json × Text) := do
  let whole ← readWhole text
  let fraction ← readFraction whole.2
  let exponent ← readExponent fraction.2
  return (number (sign * Nat.ofDigitChars 10 (whole.1 ++ fraction.1) 0)
    (exponent.1 - fraction.1.length), exponent.2)

/-- A number, which may have a minus sign. -/
def readNumber : Text → Option (Json × Text)
  | '-' :: rest => readDecimal (-1) rest
  | text => readDecimal 1 text

/-! ### Values -/

/-- The value of a word, if it stands at the front. -/
def readWord (word : Text) (value : Json) (text : Text) : Option (Json × Text) :=
  if word.isPrefixOf text then some (value, text.drop word.length) else none

section Sequences

variable {α : Type} (item : Text → Option (α × Text)) (close : Char)

/-- At least one item and at most `count` of them, with commas between them, up to the closing
bracket. -/
def readSequence : Nat → Text → Option (List α × Text)
  | 0, _ => none
  | count + 1, text =>
    (item text).bind fun first =>
      match skipBlanks first.2 with
      | [] => none
      | c :: rest =>
        if c = close then some ([first.1], rest)
        else if c = ',' then
          (readSequence count rest).map fun others => (first.1 :: others.1, others.2)
        else none

/-- Items in brackets, behind the opening one. -/
def readItems (text : Text) : Option (List α × Text) :=
  match skipBlanks text with
  | [] => none
  | c :: rest =>
    if c = close then some ([], rest) else readSequence item close text.length text

end Sequences

/-- A name in quotes, a colon and a value. -/
def readEntry (value : Text → Option (Json × Text)) (text : Text) :
    Option ((Text × Json) × Text) := do
  let quoted ← skipMark '"' text
  let name ← readString quoted
  let marked ← skipMark ':' name.2
  let value ← value marked
  return ((name.1, value.1), value.2)

/-- A value at the front of a text, with at most `depth` brackets around its parts, and the text
behind it. -/
def readValue : Nat → Text → Option (Json × Text)
  | 0, _ => none
  | depth + 1, text =>
    match skipBlanks text with
    | [] => none
    | c :: rest =>
      if c = '"' then (readString rest).map fun result => (string result.1, result.2)
      else if c = '[' then
        (readItems (readValue depth) ']' rest).map fun result => (array result.1, result.2)
      else if c = '\x7b' then
        (readItems (readEntry (readValue depth)) '\x7d' rest).map fun result =>
          (object result.1, result.2)
      else if c = 't' then readWord "rue".toList (boolean true) rest
      else if c = 'f' then readWord "alse".toList (boolean false) rest
      else if c = 'n' then readWord "ull".toList null rest
      else readNumber (c :: rest)

/-- The value that a text spells. No value has more brackets around its parts than characters. -/
def read (text : Text) : Option Json :=
  (readValue text.length text).bind fun result =>
    if (skipBlanks result.2).isEmpty then some result.1 else none

/-! ### Blanks between values -/

section Blanks

variable {c : Char} {text : Text}

theorem skipBlanks_cons_of_blank (h : isBlank c = true) : skipBlanks (c :: text) = skipBlanks text :=
  List.dropWhile_cons_of_pos h

theorem skipBlanks_cons (h : isBlank c = false) : skipBlanks (c :: text) = c :: text :=
  List.dropWhile_cons_of_neg (by simp [h])

theorem skipMark_cons_of_blank (h : isBlank c = true) (mark : Char) :
    skipMark mark (c :: text) = skipMark mark text := by
  rw [skipMark, skipMark, skipBlanks_cons_of_blank h]

theorem skipMark_cons (h : isBlank c = false) : skipMark c (c :: text) = some text := by
  rw [skipMark, skipBlanks_cons h]
  exact if_pos rfl

theorem readValue_cons_of_blank (h : isBlank c = true) (depth : Nat) :
    readValue depth (c :: text) = readValue depth text := by
  cases depth with
  | zero => rfl
  | succ depth => rw [readValue, readValue, skipBlanks_cons_of_blank h]

theorem readEntry_cons_of_blank (h : isBlank c = true) (value : Text → Option (Json × Text)) :
    readEntry value (c :: text) = readEntry value text := by
  rw [readEntry, readEntry, skipMark_cons_of_blank h]

end Blanks

/-! ### Numbers in a text -/

/-- A number that stands in front of the text ends there. -/
def EndsNumber (text : Text) : Prop :=
  ∀ c, text.head? = some c → c.isDigit = false ∧ c ≠ '.' ∧ c ≠ 'e' ∧ c ≠ 'E'

/-- In front of a text that ends numbers, `written` is read as `value`. -/
def Reads {α : Type} (item : Text → Option (α × Text)) (written : Text) (value : α) : Prop :=
  ∀ rest, EndsNumber rest → item (written ++ rest) = some (value, rest)

theorem endsNumber_nil : EndsNumber [] :=
  fun _ heq => nomatch heq

theorem endsNumber_cons {c : Char} {text : Text} :
    EndsNumber (c :: text) ↔ c.isDigit = false ∧ c ≠ '.' ∧ c ≠ 'e' ∧ c ≠ 'E' := by
  simp [EndsNumber]

section Numbers

variable {digits rest : Text}

theorem readDigits_append (hne : digits ≠ []) (hdigits : ∀ c ∈ digits, c.isDigit = true)
    (hrest : EndsNumber rest) : readDigits (digits ++ rest) = some (digits, rest) := by
  have htake : rest.takeWhile Char.isDigit = [] := by
    cases rest with
    | nil => rfl
    | cons c rest => exact List.takeWhile_cons_of_neg (by simp [(hrest c rfl).1])
  have hdrop : rest.dropWhile Char.isDigit = rest := by
    cases rest with
    | nil => rfl
    | cons c rest => exact List.dropWhile_cons_of_neg (by simp [(hrest c rfl).1])
  rw [readDigits, List.takeWhile_append_of_pos hdigits, List.dropWhile_append_of_pos hdigits, htake,
    hdrop, List.append_nil]
  exact if_neg (by simpa using hne)

theorem readFraction_of_endsNumber (h : EndsNumber rest) : readFraction rest = some ([], rest) := by
  cases rest with
  | nil => rfl
  | cons c rest =>
    have hc : c ≠ '.' := (h c rfl).2.1
    rw [readFraction]
    exact fun _ heq => hc (List.cons.inj heq).1

theorem readExponent_of_endsNumber (h : EndsNumber rest) : readExponent rest = some (0, rest) := by
  rw [readExponent, if_neg]
  rintro (he | he)
  · exact (h 'e' he).2.2.1 rfl
  · exact (h 'E' he).2.2.2 rfl

/-- The digits of a number begin with a digit, and with zero for zero alone. -/
theorem head?_toDigits_append (n : Nat) (rest : Text) :
    ∃ c, (Nat.toDigits 10 n ++ rest).head? = some c ∧ c.isDigit = true ∧ (c = '0' → n = 0) := by
  induction n using Nat.strongRecOn generalizing rest with
  | ind n ih =>
    rcases Nat.lt_or_ge n 10 with hlt | hge
    · have hdigit : ∀ n < 10, (Nat.digitChar n).isDigit = true ∧ (Nat.digitChar n = '0' → n = 0) := by
        decide
      rw [Nat.toDigits_of_lt_base hlt]
      exact ⟨Nat.digitChar n, rfl, hdigit n hlt⟩
    · -- The first digit is that of the number without its last digit, which is not zero.
      obtain ⟨c, hhead, hdigit, hzero⟩ := ih (n / 10) (by omega) ([Nat.digitChar (n % 10)] ++ rest)
      rw [Nat.toDigits_of_base_le (by decide) hge, List.append_assoc]
      exact ⟨c, hhead, hdigit, fun hc => absurd (hzero hc) (by omega)⟩

theorem readWhole_toDigits (n : Nat) (h : EndsNumber rest) :
    readWhole (Nat.toDigits 10 n ++ rest) = some (Nat.toDigits 10 n, rest) := by
  have hdigits : readDigits (Nat.toDigits 10 n ++ rest) = some (Nat.toDigits 10 n, rest) :=
    readDigits_append Nat.toDigits_ne_nil
      (fun c hmem => Nat.isDigit_of_mem_toDigits (by decide) (by decide) hmem) h
  have hzero : (Nat.toDigits 10 n).head? ≠ some '0' ∨ (Nat.toDigits 10 n).length = 1 := by
    obtain ⟨c, hhead, -, hzero⟩ := head?_toDigits_append n []
    rw [List.append_nil] at hhead
    rcases Nat.eq_zero_or_pos n with rfl | hpos
    · exact .inr rfl
    · rw [hhead]
      exact .inl fun hc => absurd (hzero (Option.some.inj hc)) (by omega)
  rw [readWhole, hdigits, Option.filter_some, if_pos (by simpa using hzero)]

theorem readDecimal_toDigits (sign : Int) (n : Nat) (h : EndsNumber rest) :
    readDecimal sign (Nat.toDigits 10 n ++ rest) = some (.number (sign * n) 0, rest) := by
  simp [readDecimal, readWhole_toDigits n h, readFraction_of_endsNumber h,
    readExponent_of_endsNumber h, Nat.ofDigitChars_toDigits]

theorem readNumber_of_head? {text : Text} (h : text.head? ≠ some '-') :
    readNumber text = readDecimal 1 text := by
  cases text with
  | nil => rfl
  | cons c text =>
    rw [readNumber]
    rintro rest heq
    rw [heq] at h
    exact h rfl

/-- A written integer is read as itself. -/
theorem reads_number_ofInt (n : Int) : Reads readNumber (Text.ofInt n) (.number n 0) := by
  intro rest h
  cases n with
  | ofNat n =>
    have hhead : (Nat.toDigits 10 n ++ rest).head? ≠ some '-' := by
      obtain ⟨c, hhead, hdigit, -⟩ := head?_toDigits_append n rest
      rw [hhead]
      rintro ⟨⟩
      exact absurd hdigit (by decide)
    rw [Text.ofInt, readNumber_of_head? hhead, readDecimal_toDigits 1 n h, Int.one_mul]
    rfl
  | negSucc n =>
    have hnumber : (-1 : Int) * (n + 1 : Nat) = Int.negSucc n := by
      rw [Int.negSucc_eq]
      omega
    rw [Text.ofInt, List.cons_append, readNumber, readDecimal_toDigits (-1) (n + 1) h, hnumber]

/-- What begins like a number is read as a number. -/
theorem readValue_of_numeral {c : Char} {text : Text} (h : c.isDigit = true ∨ c = '-') (depth : Nat) :
    readValue (depth + 1) (c :: text) = readNumber (c :: text) := by
  -- None of the marks and letters that another value begins with is a digit or a minus sign.
  have hne {d : Char} (hdigit : d.isDigit = false) (hminus : d ≠ '-') : c ≠ d := by
    rintro rfl
    rcases h with h | h
    · exact absurd (h.symm.trans hdigit) (by decide)
    · exact hminus h
  have hblank : isBlank c = false := by
    simp [isBlank, hne]
  rw [readValue, skipBlanks_cons hblank]
  simp [hne]

/-- A written integer is a value. -/
theorem reads_value_ofInt (n : Int) (depth : Nat) :
    Reads (readValue (depth + 1)) (Text.ofInt n) (.number n 0) := by
  intro rest h
  obtain ⟨c, text, htext, hc⟩ :
      ∃ c text, Text.ofInt n ++ rest = c :: text ∧ (c.isDigit = true ∨ c = '-') := by
    cases n with
    | ofNat n =>
      obtain ⟨c, hhead, hdigit, -⟩ := head?_toDigits_append n rest
      obtain ⟨text, htext⟩ := List.head?_eq_some_iff.mp hhead
      exact ⟨c, text, htext, .inl hdigit⟩
    | negSucc n => exact ⟨'-', _, rfl, .inr rfl⟩
  rw [htext, readValue_of_numeral hc, ← htext]
  exact reads_number_ofInt n rest h

end Numbers

/-! ### Sequences in a text -/

theorem readWord_append (word : Text) (value : Json) (rest : Text) :
    readWord word value (word ++ rest) = some (value, rest) := by
  simp [readWord]

section Sequences

variable {α : Type} {item : Text → Option (α × Text)} {close : Char} {rows : List (Text × α)}

/-- The written rows, one per line, and the closing bracket on a line of its own. -/
def writeRows (rows : List Text) (close : Char) (rest : Text) : Text :=
  List.intercalate ",\n".toList rows ++ '\n' :: close :: rest

theorem writeRows_cons_cons (row next : Text) (rows : List Text) (close : Char) (rest : Text) :
    writeRows (row :: next :: rows) close rest =
      row ++ ',' :: '\n' :: writeRows (next :: rows) close rest := by
  simp [writeRows, List.intercalate_cons_cons]

theorem length_lt_writeRows (rows : List Text) (close : Char) (rest : Text) :
    rows.length < (writeRows rows close rest).length := by
  induction rows with
  | nil => simp [writeRows]
  | cons row rows ih =>
    cases rows with
    | nil => simp +arith [writeRows]
    | cons next rows =>
      rw [writeRows_cons_cons, List.length_append, List.length_cons, List.length_cons]
      simp only [List.length_cons] at ih ⊢
      omega

section Rows

-- The items skip the line breaks in front of them, and the closing bracket cannot be taken for a
-- blank or a comma.
variable (hitem : ∀ text, item ('\n' :: text) = item text) (hblank : isBlank close = false)
  (hcomma : ',' ≠ close) (hrows : ∀ row ∈ rows, Reads item row.1 row.2) (hne : rows ≠ [])

include hitem in
theorem readSequence_newline (count : Nat) (text : Text) :
    readSequence item close count ('\n' :: text) = readSequence item close count text := by
  cases count with
  | zero => rfl
  | succ count => rw [readSequence, readSequence, hitem]

include hitem hblank hcomma hrows hne

/-- Rows that are read one by one are read as a sequence. -/
theorem readSequence_writeRows {count : Nat} (hcount : rows.length ≤ count) (rest : Text) :
    readSequence item close count (writeRows (rows.map Prod.fst) close rest) =
      some (rows.map Prod.snd, rest) := by
  induction rows generalizing count with
  | nil => exact absurd rfl hne
  | cons row rows ih =>
    obtain ⟨count, rfl⟩ :=
      Nat.exists_eq_add_one.mpr (Nat.lt_of_lt_of_le (Nat.succ_pos rows.length) hcount)
    have hrow := hrows row List.mem_cons_self
    cases rows with
    | nil =>
      have hread := hrow ('\n' :: close :: rest) (endsNumber_cons.mpr (by decide))
      simp [writeRows, readSequence, hread, skipBlanks_cons_of_blank, skipBlanks_cons hblank, isBlank]
    | cons next rows =>
      have hread := hrow (',' :: '\n' :: writeRows ((next :: rows).map Prod.fst) close rest)
        (endsNumber_cons.mpr (by decide))
      have hothers := ih (fun row hmem => hrows row (List.mem_cons_of_mem _ hmem))
        (List.cons_ne_nil _ _) (Nat.le_of_succ_le_succ hcount)
      rw [List.map_cons, List.map_cons, writeRows_cons_cons, ← List.map_cons, readSequence, hread,
        Option.bind_some, skipBlanks_cons (by decide)]
      simp only [if_neg hcomma, if_true]
      rw [readSequence_newline hitem, hothers]
      rfl

/-- Rows in brackets are read, if what they begin with is not the closing bracket. -/
theorem readItems_writeRows {c : Char} {rest : Text}
    (hhead : (skipBlanks (writeRows (rows.map Prod.fst) close rest)).head? = some c)
    (hopen : c ≠ close) :
    readItems item close ('\n' :: writeRows (rows.map Prod.fst) close rest) =
      some (rows.map Prod.snd, rest) := by
  obtain ⟨text, htext⟩ := List.head?_eq_some_iff.mp hhead
  have hlt := length_lt_writeRows (rows.map Prod.fst) close rest
  rw [List.length_map] at hlt
  rw [readItems, skipBlanks_cons_of_blank (by decide), htext]
  simp only [if_neg hopen]
  rw [readSequence_newline hitem, List.length_cons]
  exact readSequence_writeRows hitem hblank hcomma hrows hne (by omega) rest

end Rows

end Sequences

/-- Entries in braces, one per line, are read as an object. -/
theorem readValue_object {entries : List (Text × Text × Json)} {depth : Nat} (hne : entries ≠ [])
    (hentries : ∀ entry ∈ entries, Reads (readEntry (readValue depth)) entry.1 entry.2) {rest : Text}
    (hhead : (skipBlanks (writeRows (entries.map Prod.fst) '\x7d' rest)).head? = some '"') :
    readValue (depth + 1) ("\x7b\n".toList ++ writeRows (entries.map Prod.fst) '\x7d' rest) =
      some (.object (entries.map Prod.snd), rest) := by
  have hitems := readItems_writeRows (fun text => readEntry_cons_of_blank (by decide) _) (by decide)
    (by decide) hentries hne hhead (by decide)
  change readValue (depth + 1) ('\x7b' :: '\n' :: writeRows (entries.map Prod.fst) '\x7d' rest) = _
  rw [readValue, skipBlanks_cons (by decide)]
  simp [hitems]

/-- A value behind some spaces is what the text spells. -/
theorem read_of_reads {written : Text} {value : Json}
    (h : ∀ depth, Reads (readValue (depth + 1)) written value) (spaces : Nat) :
    read (List.replicate spaces ' ' ++ written) = some value := by
  have hspaces (depth : Nat) :
      readValue depth (List.replicate spaces ' ' ++ written) = readValue depth written := by
    induction spaces with
    | zero => rfl
    | succ spaces ih =>
      rw [List.replicate_succ, List.cons_append, readValue_cons_of_blank (by decide), ih]
  have hvalue (depth : Nat) : readValue (depth + 1) written = some (value, []) := by
    simpa using h depth [] endsNumber_nil
  obtain ⟨depth, hdepth⟩ :
      ∃ depth, (List.replicate spaces ' ' ++ written).length = depth + 1 := by
    -- An empty text is no value.
    cases written with
    | nil => exact absurd (hvalue 0) (by simp [readValue, skipBlanks])
    | cons c written => exact ⟨spaces + written.length, by simp +arith⟩
  rw [read, hdepth, hspaces, hvalue]
  rfl

end Json

end Indentation
