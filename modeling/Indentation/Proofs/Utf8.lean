import Indentation.Text.Utf8
import Mathlib.Tactic.SplitIfs

/-!
# Texts and their bytes

A text has one form in bytes, and the decoder accepts exactly the forms of texts: what it makes of
them is the text again, and bytes that it refuses are the form of no text.

## Main definitions

* `Text.toUtf8` — the bytes of a text
* `Text.Utf8.Form` — the forms of more than one byte that a character can have

## Main results

* `Text.Utf8.Form.longForm_eq`, `Text.Utf8.form_of_longForm` — the decoder reads these forms
* `Text.Utf8.form_encode`, `Text.Utf8.Form.encode_eq` — the characters have these forms
* `Text.ofUtf8_eq_ok_iff` — the decoder accepts the forms of texts
-/

namespace Indentation.Text

/-- The bytes of a text. -/
def toUtf8 (text : Text) : List UInt8 :=
  text.flatMap String.utf8EncodeChar

theorem toUtf8_cons (c : Char) (text : Text) :
    toUtf8 (c :: text) = String.utf8EncodeChar c ++ toUtf8 text :=
  List.flatMap_cons

namespace Utf8

variable {byte : UInt8} {bytes : List UInt8} {code : Nat} {lead : Lead}

theorem isContinuation_iff : isContinuation byte ↔ 0x80 ≤ byte.toNat ∧ byte.toNat ≤ 0xBF := by
  rw [isContinuation, Bool.and_eq_true, decide_eq_true_iff, decide_eq_true_iff,
    UInt8.le_iff_toNat_le, UInt8.le_iff_toNat_le]
  rfl

/-- The forms of two, three and four bytes, with the code point of each. The conditions on second
bytes rule out forms that are longer than needed, surrogates and numbers beyond the last code
point. -/
inductive Form : List UInt8 → Nat → Prop where
  | two {a b : UInt8} (ha : 0xC2 ≤ a.toNat ∧ a.toNat < 0xE0)
      (hb : 0x80 ≤ b.toNat ∧ b.toNat ≤ 0xBF) :
      Form [a, b] ((a.toNat - 0xC0) * 64 + (b.toNat - 0x80))
  | three {a b c : UInt8} (ha : 0xE0 ≤ a.toNat ∧ a.toNat < 0xF0)
      (hb : 0x80 ≤ b.toNat ∧ b.toNat ≤ 0xBF) (hlow : a.toNat = 0xE0 → 0xA0 ≤ b.toNat)
      (hhigh : a.toNat = 0xED → b.toNat ≤ 0x9F) (hc : 0x80 ≤ c.toNat ∧ c.toNat ≤ 0xBF) :
      Form [a, b, c] (((a.toNat - 0xE0) * 64 + (b.toNat - 0x80)) * 64 + (c.toNat - 0x80))
  | four {a b c d : UInt8} (ha : 0xF0 ≤ a.toNat ∧ a.toNat < 0xF5)
      (hb : 0x80 ≤ b.toNat ∧ b.toNat ≤ 0xBF) (hlow : a.toNat = 0xF0 → 0x90 ≤ b.toNat)
      (hhigh : a.toNat = 0xF4 → b.toNat ≤ 0x8F) (hc : 0x80 ≤ c.toNat ∧ c.toNat ≤ 0xBF)
      (hd : 0x80 ≤ d.toNat ∧ d.toNat ≤ 0xBF) :
      Form [a, b, c, d]
        ((((a.toNat - 0xF0) * 64 + (b.toNat - 0x80)) * 64 + (c.toNat - 0x80)) * 64 +
          (d.toNat - 0x80))

/-! ### Characters and their forms -/

theorem Form.isValidChar (h : Form bytes code) : code.isValidChar := by
  change code < 0xD800 ∨ 0xDFFF < code ∧ code < 0x110000
  cases h <;> omega

theorem Form.toNat_ofNat (h : Form bytes code) : (Char.ofNat code).toNat = code := by
  rw [Char.ofNat, dif_pos h.isValidChar]
  rfl

/-- The character with the code point of a form has this form. -/
theorem Form.encode_eq (h : Form bytes code) :
    String.utf8EncodeChar (Char.ofNat code) = bytes := by
  have hbyte {n : Nat} {byte : UInt8} (h : n = byte.toNat) : UInt8.ofNat n = byte := by
    rw [h, UInt8.ofNat_toNat]
  have hcode : (Char.ofNat code).val.toNat = code := h.toNat_ofNat
  rw [String.utf8EncodeChar, hcode]
  -- the encoder picks the length by the code point, and divides it into the bits of the bytes
  cases h with
  | two ha hb =>
    rw [if_neg (by omega), if_pos (by omega)]
    simp only [List.cons.injEq, and_true]
    exact ⟨hbyte (by omega), hbyte (by omega)⟩
  | three ha hb hlow hhigh hc =>
    rw [if_neg (by omega), if_neg (by omega), if_pos (by omega)]
    simp only [List.cons.injEq, and_true]
    exact ⟨hbyte (by omega), hbyte (by omega), hbyte (by omega)⟩
  | four ha hb hlow hhigh hc hd =>
    rw [if_neg (by omega), if_neg (by omega), if_neg (by omega)]
    simp only [List.cons.injEq, and_true]
    exact ⟨hbyte (by omega), hbyte (by omega), hbyte (by omega), hbyte (by omega)⟩

theorem Form.of_eq {number : Nat} (h : Form bytes number) (hcode : number = code) :
    Form bytes code :=
  hcode ▸ h

/-- A character that is not ASCII has a form. -/
theorem form_encode {c : Char} (h : 0x80 ≤ c.toNat) : Form (String.utf8EncodeChar c) c.toNat := by
  have hvalid : c.val.toNat < 0xD800 ∨ 0xDFFF < c.val.toNat ∧ c.val.toNat < 0x110000 := c.valid
  have hbyte (n : Nat) (h : n < 256) : (UInt8.ofNat n).toNat = n := UInt8.toNat_ofNat_of_lt h
  rw [String.utf8EncodeChar]
  rw [Char.toNat] at h ⊢
  generalize c.val.toNat = v at h hvalid ⊢
  rw [if_neg (by omega)]
  have hlast := hbyte (v % 64 + 128) (by omega)
  split_ifs with htwo hthree
  · have hfirst := hbyte (v / 64 % 32 + 192) (by omega)
    refine Form.of_eq (.two ?_ ?_) ?_ <;> omega
  · have hfirst := hbyte (v / 4096 % 16 + 224) (by omega)
    have hsecond := hbyte (v / 64 % 64 + 128) (by omega)
    refine Form.of_eq (.three ?_ ?_ ?_ ?_ ?_) ?_ <;> omega
  · have hfirst := hbyte (v / 262144 % 8 + 240) (by omega)
    have hsecond := hbyte (v / 4096 % 64 + 128) (by omega)
    have hthird := hbyte (v / 64 % 64 + 128) (by omega)
    refine Form.of_eq (.four ?_ ?_ ?_ ?_ ?_ ?_) ?_ <;> omega

/-! ### The decoder and the forms -/

/-- The first bytes of forms, and what they say. -/
theorem lead?_eq_some_iff :
    lead? byte = some lead ↔
      ((0xC2 ≤ byte.toNat ∧ byte.toNat < 0xE0) ∧ lead = ⟨byte.toNat - 0xC0, 0x80, 0xBF, 0⟩) ∨
      ((0xE0 ≤ byte.toNat ∧ byte.toNat < 0xF0) ∧
        lead = ⟨byte.toNat - 0xE0, if byte.toNat = 0xE0 then 0xA0 else 0x80,
          if byte.toNat = 0xED then 0x9F else 0xBF, 1⟩) ∨
      ((0xF0 ≤ byte.toNat ∧ byte.toNat < 0xF5) ∧
        lead = ⟨byte.toNat - 0xF0, if byte.toNat = 0xF0 then 0x90 else 0x80,
          if byte.toNat = 0xF4 then 0x8F else 0xBF, 2⟩) := by
  unfold lead?
  dsimp only
  grind

theorem longForm_cons_eq_ok_iff :
    longForm lead (byte :: bytes) = .ok code ↔
      (lead.low.toNat ≤ byte.toNat ∧ byte.toNat ≤ lead.high.toNat) ∧
        tail (lead.bits * 64 + (byte.toNat - 0x80)) 2 lead.more bytes = .ok code := by
  rw [longForm, ← UInt8.le_iff_toNat_le, ← UInt8.le_iff_toNat_le]
  split_ifs with h
  · simpa using fun _ => by simpa using h
  · simpa using fun h' h'' => absurd (by simpa using ⟨h', h''⟩) h

theorem tail_cons_eq_ok_iff {bits size more : Nat} :
    tail bits size (more + 1) (byte :: bytes) = .ok code ↔
      (0x80 ≤ byte.toNat ∧ byte.toNat ≤ 0xBF) ∧
        tail (bits * 64 + (byte.toNat - 0x80)) (size + 1) more bytes = .ok code := by
  rw [tail, ← isContinuation_iff]
  split_ifs with h <;> simp [h]

/-- A form is read as its code point, whatever stands behind it. -/
theorem Form.longForm_eq {front : List UInt8} (h : Form (byte :: front) code) :
    ∃ lead, lead? byte = some lead ∧ front.length = lead.more + 1 ∧
      ∀ rest, longForm lead (front ++ rest) = .ok code := by
  cases h with
  | two ha hb =>
    refine ⟨_, lead?_eq_some_iff.mpr (.inl ⟨ha, rfl⟩), rfl, ?_⟩
    intro rest
    exact longForm_cons_eq_ok_iff.mpr ⟨hb, rfl⟩
  | three ha hb hlow hhigh hc =>
    refine ⟨_, lead?_eq_some_iff.mpr (.inr (.inl ⟨ha, rfl⟩)), rfl, ?_⟩
    intro rest
    refine longForm_cons_eq_ok_iff.mpr ⟨?_, tail_cons_eq_ok_iff.mpr ⟨hc, rfl⟩⟩
    simp only [apply_ite UInt8.toNat, UInt8.reduceToNat]
    grind
  | four ha hb hlow hhigh hc hd =>
    refine ⟨_, lead?_eq_some_iff.mpr (.inr (.inr ⟨ha, rfl⟩)), rfl, ?_⟩
    intro rest
    refine longForm_cons_eq_ok_iff.mpr ⟨?_, tail_cons_eq_ok_iff.mpr ⟨hc,
      tail_cons_eq_ok_iff.mpr ⟨hd, rfl⟩⟩⟩
    simp only [apply_ite UInt8.toNat, UInt8.reduceToNat]
    grind

/-- Only forms are read as code points. -/
theorem form_of_longForm (hlead : lead? byte = some lead) (h : longForm lead bytes = .ok code) :
    ∃ front rest, bytes = front ++ rest ∧ front.length = lead.more + 1 ∧
      Form (byte :: front) code := by
  cases bytes with
  | nil => cases h
  | cons second bytes =>
    obtain ⟨hsecond, h⟩ := longForm_cons_eq_ok_iff.mp h
    rcases lead?_eq_some_iff.mp hlead with ⟨ha, rfl⟩ | ⟨ha, rfl⟩ | ⟨ha, rfl⟩
    · obtain rfl := Except.ok.inj h
      exact ⟨[second], bytes, rfl, rfl, .two ha hsecond⟩
    · cases bytes with
      | nil => cases h
      | cons third bytes =>
        obtain ⟨hthird, h⟩ := tail_cons_eq_ok_iff.mp h
        obtain rfl := Except.ok.inj h
        simp only [apply_ite UInt8.toNat, UInt8.reduceToNat] at hsecond
        refine ⟨[second, third], bytes, rfl, rfl, .three ha ?_ ?_ ?_ hthird⟩ <;> grind
    · cases bytes with
      | nil => cases h
      | cons third bytes =>
        obtain ⟨hthird, h⟩ := tail_cons_eq_ok_iff.mp h
        cases bytes with
        | nil => cases h
        | cons fourth bytes =>
          obtain ⟨hfourth, h⟩ := tail_cons_eq_ok_iff.mp h
          obtain rfl := Except.ok.inj h
          simp only [apply_ite UInt8.toNat, UInt8.reduceToNat] at hsecond
          refine ⟨[second, third, fourth], bytes, rfl, rfl, .four ha ?_ ?_ ?_ hthird hfourth⟩ <;>
            grind

theorem decodeFrom_skip (position : Nat) (front bytes : List UInt8) :
    decodeFrom position front.length (front ++ bytes) =
      decodeFrom (position + front.length) 0 bytes := by
  induction front generalizing position with
  | nil => rfl
  | cons byte front ih =>
    rw [List.length_cons, List.cons_append, decodeFrom, ih]
    congr 1
    omega

theorem Form.not_ascii {front : List UInt8} (h : Form (byte :: front) code) : ¬ byte < 0x80 := by
  rw [UInt8.lt_iff_toNat_lt, Nat.not_lt]
  change 0x80 ≤ byte.toNat
  cases h <;> omega

/-- A form in front of other bytes is decoded as its character. -/
theorem Form.decodeFrom_eq (h : Form bytes code) (position : Nat) (rest : List UInt8) :
    decodeFrom position 0 (bytes ++ rest) =
      (decodeFrom (position + bytes.length) 0 rest).map (Char.ofNat code :: ·) := by
  cases bytes with
  | nil => cases h
  | cons byte front =>
    obtain ⟨lead, hlead, hlength, hlong⟩ := h.longForm_eq
    have hskip := decodeFrom_skip (position + 1) front rest
    rw [List.cons_append, decodeFrom, if_neg h.not_ascii, hlead]
    dsimp only
    rw [hlong, ← hlength, hskip, List.length_cons, Nat.add_assoc, Nat.add_comm 1]
    rfl

theorem encode_of_ascii {c : Char} (h : c.toNat < 0x80) :
    String.utf8EncodeChar c = [UInt8.ofNat c.toNat] :=
  if_pos (Nat.le_of_lt_succ h)

/-- A character in front of other bytes is decoded. -/
theorem decodeFrom_encode (position : Nat) (c : Char) (rest : List UInt8) :
    decodeFrom position 0 (String.utf8EncodeChar c ++ rest) =
      (decodeFrom (position + (String.utf8EncodeChar c).length) 0 rest).map (c :: ·) := by
  by_cases hascii : c.toNat < 0x80
  · have hbyte : (UInt8.ofNat c.toNat).toNat = c.toNat :=
      UInt8.toNat_ofNat_of_lt (Nat.lt_trans hascii (by decide))
    have hlt : UInt8.ofNat c.toNat < 0x80 := by
      rw [UInt8.lt_iff_toNat_lt, hbyte]
      exact hascii
    rw [encode_of_ascii hascii, List.singleton_append, decodeFrom, if_pos hlt, hbyte,
      Char.ofNat_toNat]
    rfl
  · have hform := form_encode (Nat.le_of_not_lt hascii)
    rw [hform.decodeFrom_eq, Char.ofNat_toNat]

theorem decodeFrom_toUtf8 (position : Nat) (text : Text) :
    decodeFrom position 0 text.toUtf8 = .ok text := by
  induction text generalizing position with
  | nil => rfl
  | cons c text ih =>
    rw [toUtf8_cons, decodeFrom_encode, ih]
    rfl

theorem exists_of_cons_eq_ok {rest : Except Fault Text} {c : Char} {text : Text}
    (h : (do return c :: (← rest)) = Except.ok text) :
    ∃ text', rest = .ok text' ∧ text = c :: text' := by
  cases rest with
  | error fault => cases h
  | ok text' => exact ⟨text', rfl, (Except.ok.inj h).symm⟩

/-- Bytes that are decoded begin with the form of the first character. -/
theorem exists_of_decodeFrom_cons {position : Nat} {text : Text}
    (h : decodeFrom position 0 (byte :: bytes) = .ok text) :
    ∃ c rest position' text', byte :: bytes = String.utf8EncodeChar c ++ rest ∧
      decodeFrom position' 0 rest = .ok text' ∧ text = c :: text' ∧
      rest.length ≤ bytes.length := by
  by_cases hascii : byte < 0x80
  · rw [decodeFrom, if_pos hascii] at h
    obtain ⟨text', hrest, rfl⟩ := exists_of_cons_eq_ok h
    have hlt : byte.toNat < 0x80 := UInt8.lt_iff_toNat_lt.mp hascii
    have hcode : (Char.ofNat byte.toNat).toNat = byte.toNat := by
      rw [Char.ofNat, dif_pos (.inl (by omega))]
      rfl
    have hencode := encode_of_ascii (hcode ▸ hlt)
    rw [hcode, UInt8.ofNat_toNat] at hencode
    exact ⟨_, bytes, _, text', by rw [hencode]; rfl, hrest, rfl, Nat.le_refl _⟩
  · rw [decodeFrom, if_neg hascii] at h
    cases hlead : lead? byte with
    | none =>
      rw [hlead] at h
      cases h
    | some lead =>
      rw [hlead] at h
      dsimp only at h
      cases hlong : longForm lead bytes with
      | error fault =>
        rw [hlong] at h
        cases h
      | ok code =>
        rw [hlong] at h
        -- the bytes of the form are passed over one by one, and the others are decoded
        obtain ⟨front, rest, rfl, hlength, hform⟩ := form_of_longForm hlead hlong
        dsimp only at h
        rw [← hlength, decodeFrom_skip] at h
        obtain ⟨text', hrest, rfl⟩ := exists_of_cons_eq_ok h
        refine ⟨_, rest, _, text', by rw [hform.encode_eq]; rfl, hrest, rfl, ?_⟩
        rw [List.length_append]
        omega

/-- Bytes that are decoded are those of the text. -/
theorem eq_toUtf8_of_decodeFrom {position : Nat} {text : Text}
    (h : decodeFrom position 0 bytes = .ok text) : bytes = text.toUtf8 := by
  -- a character takes several bytes, so the induction is on their number
  induction hlength : bytes.length using Nat.strongRecOn generalizing position bytes text with
  | ind length ih =>
    cases bytes with
    | nil =>
      obtain rfl := Except.ok.inj h
      rfl
    | cons byte bytes =>
      obtain ⟨c, rest, position', text', hbytes, hrest, rfl, hle⟩ := exists_of_decodeFrom_cons h
      rw [List.length_cons] at hlength
      rw [hbytes, toUtf8_cons, ← ih rest.length (by omega) hrest rfl]

end Utf8

variable {bytes : List UInt8}

/-- The decoder accepts the bytes of texts, and what it makes of them is the text. -/
theorem ofUtf8_eq_ok_iff {text : Text} : ofUtf8 bytes = .ok text ↔ bytes = text.toUtf8 := by
  constructor
  · exact Utf8.eq_toUtf8_of_decodeFrom
  · rintro rfl
    exact Utf8.decodeFrom_toUtf8 0 text

theorem ofUtf8_toUtf8 (text : Text) : ofUtf8 text.toUtf8 = .ok text :=
  ofUtf8_eq_ok_iff.mpr rfl

end Indentation.Text
