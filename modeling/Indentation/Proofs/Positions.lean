import Indentation.Proofs.Surfaces

/-!
# Positions in code units

An editor gives a place in a line by the code units in front of it. A codec that *counts* in the
units of an encoding leads from there back to the characters in front of the place, and never beyond
the line. The codec of an encoding does: each character takes at least one unit, so walking along
the line until as many units have been passed finds the characters.

The codec sees a terminated line, though. Terminated lines end at a few more characters than
the lines of a document, such as page breaks. If the lines above hold none of these characters, both
kinds of lines are counted alike, and the line itself is cut behind the first one that it holds. So
a position is found exactly if no such character stands in front of the last character before it;
otherwise the column falls short of it.

## Main definitions

* `Editor.Codec.Counts` — a codec counts in the units of an encoding

## Main results

* `Editor.Encoding.charactersAt_units` — units lead back to characters
* `Text.SplitsInto.drop_terminatedLines` — terminated lines below lines without further ends
* `Editor.Encoding.counts_codec` — the codec of an encoding counts in its units
* `Editor.Codec.Counts.min_eq_iff` — which positions are found
* `Document.Faithful.answer_extractContext_clamp` — columns behind the end of a line
* `Editor.findContext_units` — the context of a position in code units
-/

namespace Indentation

namespace Editor.Encoding

variable (encoding : Encoding)

theorem unitsOf_pos (c : Char) : 0 < encoding.unitsOf c := by
  cases encoding with
  | utf8 => exact c.utf8Size_pos
  | utf16 =>
    rw [unitsOf]
    split <;> omega
  | utf32 => exact Nat.one_pos

theorem units_append (text other : Text) :
    encoding.units (text ++ other) = encoding.units text + encoding.units other := by
  induction text with
  | nil => simp [units]
  | cons c text ih => simp [units, ih, Nat.add_assoc]

theorem units_pos {text : Text} (h : text ≠ []) : 0 < encoding.units text := by
  obtain ⟨c, cs, rfl⟩ := List.exists_cons_of_ne_nil h
  have := encoding.unitsOf_pos c
  rw [units]
  omega

theorem charactersAt_le (count : Nat) (text : Text) :
    encoding.charactersAt count text ≤ text.length := by
  fun_induction charactersAt encoding count text with
  | case1 => exact Nat.zero_le _
  | case2 => exact Nat.zero_le _
  | case3 count c cs ih => exact Nat.succ_le_succ ih

/-- The units of a prefix lead to its last character. -/
theorem charactersAt_units (front back : Text) :
    encoding.charactersAt (encoding.units front) (front ++ back) = front.length := by
  induction front with
  | nil => rw [units, charactersAt, List.length_nil]
  | cons c front ih =>
    have hpos := encoding.unitsOf_pos c
    obtain ⟨count, hcount⟩ : ∃ count, encoding.units (c :: front) = count + 1 :=
      Nat.exists_eq_add_one.mpr (encoding.units_pos (List.cons_ne_nil c front))
    have hrest : count + 1 - encoding.unitsOf c = encoding.units front := by
      rw [← hcount, units, Nat.add_sub_cancel_left]
    rw [hcount, List.cons_append, charactersAt, hrest, ih, List.length_cons]

theorem plainEnd_append {line : Text} (h : '\r' ∉ line) (text : Text) :
    plainEnd (line ++ text) = line ++ plainEnd text := by
  induction line with
  | nil => rfl
  | cons c line ih =>
    have hc : c ≠ '\r' := by
      rintro rfl
      exact h List.mem_cons_self
    rw [List.cons_append, plainEnd, ih fun hmem => h (List.mem_cons_of_mem c hmem),
      List.cons_append]
    rintro cs rfl
    exact absurd rfl hc

end Editor.Encoding

/-! ### Terminated lines -/

namespace Text

/-- No character of a text ends a terminated line. -/
def Unbroken (text : Text) : Prop :=
  ∀ c ∈ text, isLineEnd c = false

theorem unbroken_cons {c : Char} {text : Text} :
    Unbroken (c :: text) ↔ isLineEnd c = false ∧ Unbroken text := by
  simp [Unbroken]

theorem terminatedLines_cons_of_not_lineEnd {c : Char} (hc : isLineEnd c = false) (cs : Text) :
    terminatedLines (c :: cs) = pushFirst c (terminatedLines cs) := by
  rw [terminatedLines]
  · simp [hc]
  · rintro es rfl
    exact absurd hc (by decide)

theorem terminatedLines_cons_of_lineEnd {c : Char} {cs : Text} (hc : isLineEnd c = true)
    (hpair : c = '\r' → cs.head? ≠ some '\n') :
    terminatedLines (c :: cs) = [c] :: terminatedLines cs := by
  rw [terminatedLines]
  · simp [hc]
  · rintro es rfl rfl
    exact hpair rfl rfl

/-- A text that begins with a character has a terminated line that begins with it. -/
theorem exists_terminatedLines_cons (c : Char) (cs : Text) :
    ∃ line others, terminatedLines (c :: cs) = (c :: line) :: others := by
  by_cases hpair : c = '\r' ∧ cs.head? = some '\n'
  · obtain ⟨rfl, hfeed⟩ := hpair
    obtain ⟨es, rfl⟩ := List.head?_eq_some_iff.mp hfeed
    exact ⟨['\n'], _, terminatedLines.eq_2 es⟩
  · cases hc : isLineEnd c with
    | true => exact ⟨[], _, terminatedLines_cons_of_lineEnd hc fun h h' => hpair ⟨h, h'⟩⟩
    | false =>
      rw [terminatedLines_cons_of_not_lineEnd hc]
      cases terminatedLines cs <;> exact ⟨_, _, rfl⟩

/-- Characters that end no terminated line stand in front of the first one. -/
theorem terminatedLines_append {line text first : Text} {others : List Text}
    (hline : line.Unbroken) (htext : terminatedLines text = first :: others) :
    terminatedLines (line ++ text) = (line ++ first) :: others := by
  induction line with
  | nil => exact htext
  | cons c line ih =>
    obtain ⟨hc, hline⟩ := unbroken_cons.mp hline
    rw [List.cons_append, terminatedLines_cons_of_not_lineEnd hc, ih hline]
    rfl

theorem terminatedLines_lineEnd_append {lineEnd : LineEnd} {text : Text}
    (h : lineEnd = .carriageReturn → text.head? ≠ some '\n') :
    terminatedLines (lineEnd.text ++ text) = lineEnd.text :: terminatedLines text := by
  cases lineEnd with
  | lineFeed => exact terminatedLines_cons_of_lineEnd (by decide) fun hreturn => by simp at hreturn
  | carriageReturn => exact terminatedLines_cons_of_lineEnd (by decide) fun _ => h rfl
  | pair => exact terminatedLines.eq_2 text

/-- As long as no line is broken, terminated lines are the lines with their ends. -/
theorem SplitsInto.drop_terminatedLines {text first line : Text} {rest : List (LineEnd × Text)}
    {index : Nat} (h : SplitsInto text first rest)
    (hline : (first :: rest.map (·.2))[index]? = some line)
    (habove : ∀ other ∈ (first :: rest.map (·.2)).take index, other.Unbroken) :
    ∃ below others, SplitsInto below line others ∧
      (terminatedLines text).drop index = terminatedLines below := by
  -- each of the lines above is one terminated line, so both countings go on below it
  induction index generalizing text first rest with
  | zero =>
    obtain rfl := Option.some.inj hline
    exact ⟨text, rest, h, rfl⟩
  | succ index ih =>
    cases rest with
    | nil => exact absurd hline (by simp)
    | cons next rest =>
      obtain ⟨hrest, hpair⟩ := h.tail
      have hfirst : first.Unbroken := habove first (by simp)
      have hlines : terminatedLines text =
          (first ++ next.1.text) :: terminatedLines (joinLines next.2 rest) := by
        rw [← h.joined, joinLines_cons]
        exact terminatedLines_append hfirst (terminatedLines_lineEnd_append hpair)
      rw [hlines, List.drop_succ_cons]
      exact ih hrest hline fun other hmem => habove other (List.mem_cons_of_mem first hmem)

theorem exists_of_not_unbroken {text : Text} (h : ¬ text.Unbroken) :
    ∃ front c back, text = front ++ c :: back ∧ Unbroken front ∧ isLineEnd c = true := by
  induction text with
  | nil => exact absurd (by simp [Unbroken]) h
  | cons c text ih =>
    cases hc : isLineEnd c with
    | true => exact ⟨[], c, text, rfl, by simp [Unbroken], hc⟩
    | false =>
      obtain ⟨front, d, back, rfl, hfront, hd⟩ := ih fun htext => h (unbroken_cons.mpr ⟨hc, htext⟩)
      exact ⟨c :: front, d, back, rfl, unbroken_cons.mpr ⟨hc, hfront⟩, hd⟩

/-- Where no line ends before the last character of `front`, it begins a terminated line. -/
theorem exists_terminatedLines_append {front text : Text} (h : Unbroken front.dropLast)
    (hne : front ++ text ≠ []) :
    ∃ back others, terminatedLines (front ++ text) = (front ++ back) :: others := by
  by_cases hfront : front = []
  · subst hfront
    obtain ⟨c, cs, htext⟩ := List.exists_cons_of_ne_nil hne
    obtain ⟨line, others, hline⟩ := exists_terminatedLines_cons c cs
    exact ⟨c :: line, others, htext ▸ hline⟩
  · obtain ⟨back, others, hlast⟩ := exists_terminatedLines_cons (front.getLast hfront) text
    refine ⟨back, others, ?_⟩
    rw [← List.dropLast_append_getLast hfront, List.append_assoc, List.append_assoc]
    exact terminatedLines_append h hlast

/-- Where a line ends before the last character of `front`, the terminated line is shorter. -/
theorem exists_terminatedLines_append_lt {front : Text} (h : ¬ Unbroken front.dropLast)
    (hreturn : '\r' ∉ front) (text : Text) :
    ∃ line others, terminatedLines (front ++ text) = line :: others ∧ line.length < front.length ∧
      '\r' ∉ line := by
  obtain ⟨start, c, back, hlast, hstart, hc⟩ := exists_of_not_unbroken h
  have hfront : front ≠ [] := by
    rintro rfl
    exact absurd hlast (by simp)
  have hsplit : front = start ++ c :: (back ++ [front.getLast hfront]) := by
    rw [← List.cons_append, ← List.append_assoc, ← hlast, List.dropLast_append_getLast hfront]
  rw [hsplit] at hreturn ⊢
  simp only [List.mem_append, List.mem_cons, not_or] at hreturn
  have hline : terminatedLines (c :: (back ++ [front.getLast hfront] ++ text)) =
      [c] :: terminatedLines (back ++ [front.getLast hfront] ++ text) :=
    terminatedLines_cons_of_lineEnd hc fun heq => absurd heq.symm hreturn.2.1
  refine ⟨start ++ [c], terminatedLines (back ++ [front.getLast hfront] ++ text), ?_, by simp,
    by simp [hreturn]⟩
  rw [List.append_assoc, List.cons_append, terminatedLines_append hstart hline]

end Text

/-! ### Counting codecs -/

namespace Editor

/-- A codec counts in the units of an encoding: it takes all counts in bounds, the units of a text
that begins a terminated line lead behind this text, and no count leads beyond a terminated line. -/
structure Codec.Counts (codec : Codec) (encoding : Encoding) : Prop where
  takes : ∀ text index count, 0 ≤ count → count ≤ Encoding.maxCount →
    ∃ characters, codec text index count = .ok characters
  begins : ∀ text index front back, '\r' ∉ front →
    text.terminatedLines[index]? = some (front ++ back) → ∀ characters,
      codec text index (encoding.units front) = .ok characters → characters = front.length
  within : ∀ text index line, '\r' ∉ line → text.terminatedLines[index]? = some line →
    ∀ count characters, codec text index count = .ok characters → characters ≤ line.length

namespace Encoding

variable {encoding : Encoding} {lines : List Text} {index : Nat} {front : Text}

/-- A position is found in a terminated line that begins with the text in front of it. -/
theorem characters_of_begins {back : Text} (hreturn : '\r' ∉ front)
    (hline : lines[index]? = some (front ++ back)) :
    encoding.characters lines index (encoding.units front) = front.length := by
  rw [characters, hline]
  dsimp only
  rw [plainEnd_append hreturn, if_neg (by rw [units_append]; omega), charactersAt_units]

theorem characters_le {line : Text} (hreturn : '\r' ∉ line) (hline : lines[index]? = some line)
    (count : Nat) : encoding.characters lines index count ≤ line.length := by
  have hplain : plainEnd (line ++ []) = line ++ [] := plainEnd_append hreturn []
  rw [List.append_nil] at hplain
  rw [characters, hline]
  dsimp only
  rw [hplain]
  exact encoding.charactersAt_le ..

/-- A count that the codec takes leads to the characters that are walked along. -/
theorem eq_characters_of_codec {text : Text} {count : Int} {characters : Nat}
    (h : encoding.codec text index count = .ok characters) :
    characters = encoding.characters text.terminatedLines index count.toNat := by
  rw [codec] at h
  split at h
  · exact (Except.ok.inj h).symm
  · cases h

theorem counts_codec (encoding : Encoding) : encoding.codec.Counts encoding where
  takes _ _ _ hfirst hlast := ⟨_, if_pos ⟨hfirst, hlast⟩⟩
  begins _ _ _ _ hreturn hline _ h := by
    rw [eq_characters_of_codec h, Int.toNat_natCast]
    exact characters_of_begins hreturn hline
  within _ _ _ hreturn hline _ _ h := by
    rw [eq_characters_of_codec h]
    exact characters_le hreturn hline _

end Encoding

namespace Codec.Counts

open Text

variable {codec : Codec} {encoding : Encoding} {text front back : Text} {index characters : Nat}

/-- A position in the first line of `front ++ rest`, of which `front ++ back` is all that the
document has on this line, leads to the end of `front`, unless a terminated line ends earlier. -/
theorem min_eq_iff_of_head? (h : codec.Counts encoding) {rest : Text} (hreturn : '\r' ∉ front)
    (hback : rest = [] → back = [])
    (hline : text.terminatedLines[index]? = (terminatedLines (front ++ rest)).head?)
    (hcodec : codec text index (encoding.units front) = .ok characters) :
    min characters (front ++ back).length = front.length ↔ Unbroken front.dropLast := by
  have hlength : (front ++ back).length = front.length + back.length := List.length_append
  constructor
  · -- no count leads beyond the terminated line, which ends too early
    intro hmin
    by_contra hbroken
    obtain ⟨line, _, hlines, hshort, hplain⟩ :=
      exists_terminatedLines_append_lt hbroken hreturn rest
    rw [hlines] at hline
    have hle := h.within _ _ _ hplain hline _ _ hcodec
    omega
  · intro hplain
    by_cases hempty : front ++ rest = []
    · -- below the last line end of a text there is a line, but no terminated one
      obtain ⟨rfl, hrest⟩ := List.append_eq_nil_iff.mp hempty
      rw [hback hrest]
      exact Nat.min_zero _
    · obtain ⟨more, others, hlines⟩ := exists_terminatedLines_append hplain hempty
      rw [hlines] at hline
      rw [h.begins _ _ _ _ hreturn hline _ hcodec]
      omega

/-- Below unbroken lines, a position leads behind the text in front of it, unless a terminated line
ends in this text before its last character. -/
theorem min_eq_iff (h : codec.Counts encoding)
    (hline : text.splitLines[index]? = some (front ++ back))
    (habove : ∀ line ∈ text.splitLines.take index, line.Unbroken)
    (hcodec : codec text index (encoding.units front) = .ok characters) :
    min characters (front ++ back).length = front.length ↔ Unbroken front.dropLast := by
  obtain ⟨first, rest, hsplit⟩ := exists_splitsInto text
  rw [hsplit.splitLines_eq] at hline habove
  obtain ⟨below, others, hbelow, hdrop⟩ := hsplit.drop_terminatedLines hline habove
  have hreturn : '\r' ∉ front := by
    intro hmem
    exact (hbelow.plain _ List.mem_cons_self).1 (List.mem_append_left back hmem)
  have hget : text.terminatedLines[index]? =
      (terminatedLines (front ++ joinLines back others)).head? := by
    have hjoined := hbelow.joined
    rw [joinLines, List.append_assoc] at hjoined
    rw [joinLines, hjoined, ← hdrop, List.head?_drop]
  have hback : joinLines back others = [] → back = [] := by
    intro hempty
    exact (List.append_eq_nil_iff.mp hempty).1
  exact h.min_eq_iff_of_head? hreturn hback hget hcodec

end Codec.Counts

end Editor

namespace Document

variable {document : Document} {line : Int} {index : Nat}

/-- A column behind the end of a line stands for the end. -/
theorem Faithful.answer_extractContext_clamp (h : document.Faithful)
    (hindex : document.index? line = .ok index) {text : Text}
    (htext : document.lines[index]? = some text) {column column' : Int}
    (hcolumn : min column (text.length + 1) = min column' (text.length + 1)) :
    ∃ context,
      (extractContext source document.registry (.caret line column)).answer document =
        .ok context ∧
      (extractContext source document.registry (.caret line column')).answer document =
        .ok context := by
  obtain ⟨tokens, state, hlexed⟩ := exists_lexed hindex
  obtain ⟨context, _, hcontext, hexec⟩ := h.exec_extractContext_caret hindex column
  obtain ⟨context', _, hcontext', hexec'⟩ := h.exec_extractContext_caret hindex column'
  obtain rfl : tokens.text = text :=
    Option.some.inj ((getElem?_lines_of_lexed hlexed).symm.trans htext)
  have hoffset : tokens.clampOffset (column - 1) = tokens.clampOffset (column' - 1) := by
    rw [TokenizedLine.clampOffset, TokenizedLine.clampOffset]
    omega
  rw [caretContext?_eq_some hindex hlexed] at hcontext hcontext'
  rw [hoffset, hcontext'] at hcontext
  obtain rfl := Option.some.inj hcontext
  rw [Fetch.answer_eq_exec, Fetch.answer_eq_exec]
  exact ⟨_, congrArg Prod.fst hexec, congrArg Prod.fst hexec'⟩

end Document

/-! ### Contexts of positions -/

namespace Editor

open Document
open Config (bind_of_ok)

variable {tools : Config.Tools} {files : FileSystem} {workspace : Workspace} {encoding : Encoding}
  {uri text : Text} {registry : Registry}

/-- The context that the editor shows for a caret is that of the document of its text. -/
theorem findContext_caret (hregistry : loadRegistry tools files workspace = .ok registry)
    (htext : readText files workspace uri = .ok text) {line character column : Int}
    (hline : (ofText text (chooseLanguage workspace registry uri) registry).Holds line)
    (hcolumn : findColumn workspace.codec text (line - 1).toNat character = .ok column) :
    findContext tools files workspace uri (line - 1) character none none =
      askDocument (ofText text (chooseLanguage workspace registry uri) registry)
        (extractContext source registry (.caret line column)) := by
  have hcheck := checkLine_of_holds hline
  rw [findContext, bind_of_ok hregistry, bind_of_ok htext]
  dsimp only
  rw [bind_of_ok hcheck, bind_of_ok hcolumn, Int.sub_add_cancel]
  rfl

/-- An editor whose codec counts in the units of an encoding, and that asks for the position behind
`front` in a line, gets a context, and it is that of a caret in this line. If no line above holds a
character that ends a terminated line only, the column leads behind `front` exactly if `front` holds
none before its last character; the context is then that of the caret behind `front`. -/
theorem findContext_units (index : Nat) (front back : Text)
    (hcodec : workspace.codec.Counts encoding)
    (hregistry : loadRegistry tools files workspace = .ok registry)
    (htext : readText files workspace uri = .ok text)
    (hline : text.splitLines[index]? = some (front ++ back))
    (hunits : encoding.units front ≤ Encoding.maxCount) :
    let document := ofText text (chooseLanguage workspace registry uri) registry
    ∃ column context,
      findColumn workspace.codec text index (encoding.units front) = .ok column ∧
      findContext tools files workspace uri index (encoding.units front) none none =
        .ok context ∧
      (extractContext source registry (.caret (index + 1) column)).answer document = .ok context ∧
      ((∀ line ∈ text.splitLines.take index, line.Unbroken) →
        (min column ((front ++ back).length + 1) = front.length + 1 ↔
          Text.Unbroken front.dropLast) ∧
        (Text.Unbroken front.dropLast →
          (extractContext source registry (.caret (index + 1) (front.length + 1))).answer document =
            .ok context)) := by
  intro document
  have hlt : index < text.splitLines.length := (List.getElem?_eq_some_iff.mp hline).1
  have hholds : document.Holds (index + 1) := by
    have hcount : document.lineCount = text.splitLines.length := rfl
    exact ⟨by omega, by omega⟩
  have hindex : document.index? (index + 1) = .ok index := by
    rw [hholds.index?, Int.add_sub_cancel, Int.toNat_natCast]
  have hfaithful : document.Faithful := faithful_ofText ..
  obtain ⟨characters, hcharacters⟩ := hcodec.takes text index (encoding.units front) (by omega)
    hunits
  have hcolumn : findColumn workspace.codec text index (encoding.units front) =
      .ok ((characters : Int) + 1) := by
    rw [findColumn, hcharacters]
  have hsame : ((index : Int) + 1 - 1).toNat = index := by omega
  have hfind := findContext_caret hregistry htext hholds (hsame.symm ▸ hcolumn)
  obtain ⟨context, hcontext, -⟩ := hfaithful.answer_extractContext_clamp hindex hline
    (Eq.refl (min ((characters : Int) + 1) _))
  rw [Int.add_sub_cancel] at hfind
  refine ⟨_, context, hcolumn, hfind.trans (askDocument_of_answer hcontext), hcontext, ?_⟩
  intro habove
  have hfound : min ((characters : Int) + 1) ((front ++ back).length + 1) = front.length + 1 ↔
      Text.Unbroken front.dropLast := by
    rw [← hcodec.min_eq_iff hline habove hcharacters]
    omega
  refine ⟨hfound, ?_⟩
  intro hplain
  -- behind the end of the line both columns stand for the end
  have hmin : min ((characters : Int) + 1) ((front ++ back).length + 1) =
      min ((front.length : Int) + 1) ((front ++ back).length + 1) := by
    rw [hfound.mpr hplain, List.length_append]
    omega
  obtain ⟨_, hanswer, hanswer'⟩ := hfaithful.answer_extractContext_clamp hindex hline hmin
  rw [hcontext] at hanswer
  exact hanswer'.trans hanswer.symm

/-- The place between the two characters of the second line, the first of which takes two units. -/
theorem findContext_units_pair :
    let text : Text := ['(', '\n', '😀', 'b']
    let files := FileTree.toFileSystem ⟨[]⟩
    let workspace := Workspace.put ['a'] ⟨"python", text⟩ {}
    workspace.codec.Counts .utf16 ∧ loadRegistry .standard files workspace = .ok .builtin ∧
      readText files workspace ['a'] = .ok text ∧
      text.splitLines[1]? = some ['😀', 'b'] ∧ Encoding.utf16.units ['😀'] = 2 ∧
      (∀ line ∈ text.splitLines.take 1, line.Unbroken) ∧ Text.Unbroken ['😀'].dropLast ∧
      ∃ context, findContext .standard files workspace ['a'] 1 2 none none = .ok context ∧
        (extractContext source .builtin (.caret 2 2)).answer (ofText text "python" .builtin) =
          .ok context := by
  intro text files workspace
  have hcodec : workspace.codec.Counts .utf16 := Encoding.utf16.counts_codec
  have hregistry : loadRegistry .standard files workspace = .ok .builtin := rfl
  have htext : readText files workspace ['a'] = .ok text := rfl
  have hlanguage : chooseLanguage workspace .builtin ['a'] = "python" := by decide +kernel
  have habove : ∀ line ∈ text.splitLines.take 1, line.Unbroken := by
    intro line hmem
    obtain rfl : line = ['('] := List.mem_singleton.mp hmem
    simp [Text.Unbroken]
    decide
  have hplain : Text.Unbroken ['😀'].dropLast := by simp [Text.Unbroken]
  obtain ⟨_, context, -, hfind, -, hfound⟩ :=
    findContext_units 1 ['😀'] ['b'] hcodec hregistry htext rfl (by decide)
  rw [hlanguage] at hfound
  exact ⟨hcodec, hregistry, htext, rfl, rfl, habove, hplain, context, hfind,
    (hfound habove).2 hplain⟩

-- a vertical tab ends the terminated line, so the position behind three characters has column 2
example : findColumn Encoding.utf16.codec "a\x0bbc".toList 0 3 = .ok 2 := rfl

end Editor

end Indentation
