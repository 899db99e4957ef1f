import Indentation.Proofs.LiteralBodies
import Indentation.Proofs.Lookup
import Indentation.Proofs.Tiling

/-!
# Where an embedded region ends

Comments look for the close of the region, and strings do so before each of their items. Regular
expressions do not look for it at all, and a backslash in a string passes over the character behind
it. So a region ends at the first occurrence of its close, unless a regular expression runs over it
or its first character is escaped in a string. Until then everything has the language of the region.

## Main definitions

* `Lexer.Skips` — a literal runs over the close of the region
* `Lexer.Stops` — a step that ends in front of the close
* `Lexer.Within` — the lexer stands in a region whose close lies ahead

## Main results

* `Lexer.PlainCase.stops_or_skips` — a step in front of the close ends there at the latest, or it
  skips the close
* `Lexer.Within.closes` — if nothing skips the close, the region ends there
* `Lexer.builtin_region_closes_iff` — the built-in regions end at their close exactly if nothing
  skips it
-/

namespace Indentation.Lexer

/-- A step runs over the close of the region, which stands at an offset of the rest of the line: it
is a regular expression, or a string in which a backslash escapes the first character of the close.
-/
def Skips (rest : Text) (step : Step) (offset : Nat) : Prop :=
  offset < step.size ∧
    (step.label.kind = .regex ∨
      step.label.kind = .string ∧ ∃ quote cs before, rest = quote :: cs ∧
        StringBoundary quote cs before ∧ cs[before]? = some '\\' ∧ offset = before + 2)

/-- A step from a state ends at an offset at the latest, in the same region. If it leaves a comment
open, the delimiter of the comment does not hold `c`. -/
structure Stops (step : Step) (state : LineState) (c : Char) (offset : Nat) : Prop where
  size_le : step.size ≤ offset
  document_eq : step.state.document = state.document
  regions_eq : step.state.regions = state.regions
  not_mem_commentClose : ∀ close, step.state.commentClose = some close → c ∉ close

/-! ### Literals in front of the close -/

section Literals

variable {close cs : Text} {offset : Nat}

theorem pos_of_find? (hclose : close ≠ []) (hnot : ¬ cs.beginsWith close = true)
    (h : Text.find? close cs = some offset) : 0 < offset := by
  refine Nat.pos_of_ne_zero ?_
  rintro rfl
  exact hnot (Text.beginsWith_iff.mpr ⟨hclose, Text.prefix_drop_of_find? h⟩)

/-- A string ends in front of the close at the latest, unless the first character of the close is
escaped. -/
theorem stringSize_le_or_escaped (hclose : close ≠ []) (quote : Char)
    (h : Text.find? close cs = some offset) :
    Text.stringSize close quote cs ≤ offset ∨
      ∃ before, StringBoundary quote cs before ∧ cs[before]? = some '\\' ∧ offset = before + 1 := by
  -- the cases are the items of the string, in front of each of which it looks for the close
  fun_induction Text.stringSize close quote cs generalizing offset with
  | case1 | case2 | case4 => exact .inl (Nat.zero_le _)
  | case3 d hnot => exact .inl (pos_of_find? hclose hnot h)
  | case5 d cs hnot ih =>
    have hpos := pos_of_find? hclose hnot h
    by_cases hone : offset = 1
    · exact .inr ⟨0, .front _, rfl, hone⟩
    · have htail := @Text.find?_drop _ _ 2 _ h (by omega)
      rcases ih htail with hle | ⟨before, hboundary, hescape, hoffset⟩
      · exact .inl (by omega)
      · exact .inr ⟨before + 2, .escape hboundary, hescape, by omega⟩
  | case6 d cs hnot hescape => exact .inl (pos_of_find? hclose hnot h)
  | case7 d e cs hnot hescape hquote ih =>
    have hpos := pos_of_find? hclose hnot h
    have htail := @Text.find?_drop _ _ 1 _ h hpos
    rcases ih htail with hle | ⟨before, hboundary, hescape', hoffset⟩
    · exact .inl (by omega)
    · exact .inr ⟨before + 1, .char hescape hquote hboundary, hescape', by omega⟩

variable {state : LineState} {operand : Option Char} {rest : Text} {step : Step} {c : Char}

/-- The rest of a comment ends in front of the close of the region at the latest. -/
theorem CommentCase.stops (h : CommentCase state operand rest close step)
    (hhead : state.close.head? = some c) (hc : c ∉ close)
    (hfind : Text.find? state.close rest = some offset) :
    step.label.language = state.language ∧ Stops step state c offset := by
  have hended : ∀ close, state.endComment.commentClose = some close → c ∉ close :=
    fun _ hsome => absurd hsome (by simp [LineState.endComment])
  have hoffset : Text.closeOffset? state.close rest = some offset := by
    rw [Text.closeOffset?_of_ne_nil (List.ne_nil_of_mem (List.mem_of_head? hhead)), hfind]
  cases h with
  | unclosed _ hregion => exact absurd (hregion.symm.trans hoffset) (by simp)
  | cut hregion =>
    obtain rfl := Option.some.inj (hregion.symm.trans hoffset)
    exact ⟨rfl, Nat.le_refl _, rfl, rfl, hended⟩
  | closed hclose hfirst =>
    have hapart := Text.add_length_le_of_not_mem hhead hc (Text.prefix_drop_of_find? hclose)
      (Text.prefix_drop_of_find? hfind) (hfirst offset hoffset)
    exact ⟨rfl, hapart, rfl, rfl, hended⟩

/-- A delimiter at the front of the line ends in front of the close. -/
theorem length_le_of_beginsWith_of_find? (hhead : close.head? = some c) {opening : Text}
    (hc : c ∉ opening) (hbegins : rest.beginsWith opening = true)
    (hfind : Text.find? close rest = some offset) : opening.length ≤ offset := by
  have hapart := @Text.add_length_le_of_not_mem rest 0 offset opening close c hhead hc
    (Text.beginsWith_iff.mp hbegins).2 (Text.prefix_drop_of_find? hfind) (Nat.zero_le _)
  omega

/-- A step in front of the close has the language of the region. It ends at the close at the latest,
or it skips it. -/
theorem PlainCase.stops_or_skips {grammar : Grammar}
    (h : PlainCase grammar state operand rest step) (hgrammar : grammar.Foreign c)
    (hembedded : grammar.embedded = []) (hhead : state.close.head? = some c)
    (hopen : state.commentClose = none) (hfind : Text.find? state.close rest = some offset)
    (hpos : 0 < offset) :
    step.label.language = state.language ∧
      (Stops step state c offset ∨ Skips rest step offset) := by
  have hclose : state.close ≠ [] := List.ne_nil_of_mem (List.mem_of_head? hhead)
  have hcomment : ∀ close, state.commentClose = some close → c ∉ close :=
    fun _ hsome => absurd (hopen.symm.trans hsome) (by simp)
  cases h with
  | @leave region regions hregions hbegins =>
    -- the close would stand at the front
    have hregion : state.close = region.close := by
      rw [LineState.close, LineState.close?, hregions]
      rfl
    rw [← hregion] at hbegins
    exact absurd (Text.beginsWith_iff.mp hbegins).2
      ((Text.find?_eq_some_iff.mp hfind).2.2 0 hpos)
  | enter _ hfind' => exact absurd hfind' (by rw [hembedded]; simp)
  | @lineComment opening _ _ hline size hsize =>
    have hc := hgrammar.not_mem_lineComment opening (List.mem_of_find?_eq_some hline)
    have hlength := length_le_of_beginsWith_of_find? hhead hc (List.find?_some hline) hfind
    -- the comment reaches up to the close
    have hrest : Text.closeOffset? state.close (rest.drop opening.length) =
        some (offset - opening.length) := by
      rw [Text.closeOffset?_of_ne_nil hclose]
      exact Text.find?_drop hfind hlength
    have hsum : size = opening.length + (offset - opening.length) := by rw [hsize, hrest]
    exact ⟨rfl, .inl ⟨by dsimp only; omega, rfl, rfl, hcomment⟩⟩
  | @blockComment comment body _ _ _ hblock hbody =>
    have hmem := List.mem_of_find?_eq_some hblock
    have hbegins := List.find?_some hblock
    have hlength := length_le_of_beginsWith_of_find? hhead (hgrammar.not_mem_opening comment hmem)
      hbegins hfind
    have hrest : Text.find? state.close (rest.drop comment.opening.length) =
        some (offset - comment.opening.length) := Text.find?_drop hfind hlength
    obtain ⟨hlanguage, hsize, hdocument, hregions, hended⟩ :=
      hbody.stops hhead (hgrammar.not_mem_closing comment hmem) hrest
    exact ⟨hlanguage, .inl ⟨by dsimp only; omega, hdocument, hregions, hended⟩⟩
  | @string quote cs _ _ _ _ hrest hquote =>
    have hcs : Text.find? state.close cs = some (offset - 1) := by
      have hdrop := @Text.find?_drop _ _ 1 _ hfind hpos
      rwa [hrest, List.drop_succ_cons] at hdrop
    refine ⟨rfl, ?_⟩
    rcases stringSize_le_or_escaped hclose quote hcs with
      hle | ⟨before, hboundary, hescape, hoffset⟩
    · exact .inl ⟨by dsimp only; omega, rfl, rfl, hcomment⟩
    · by_cases hlt : offset < Text.stringSize state.close quote cs + 1
      · exact .inr ⟨hlt, .inr ⟨rfl, quote, cs, before, hrest, hboundary, hescape, by omega⟩⟩
      · exact .inl ⟨Nat.not_lt.mp hlt, rfl, rfl, hcomment⟩
  | @regex cs size =>
    -- nothing keeps a regular expression from running on
    refine ⟨rfl, ?_⟩
    by_cases hlt : offset < size
    · exact .inr ⟨hlt, .inl rfl⟩
    · exact .inl ⟨Nat.not_lt.mp hlt, rfl, rfl, hcomment⟩
  | char => exact ⟨rfl, .inl ⟨hpos, rfl, rfl, hcomment⟩⟩

end Literals

/-! ### Runs in front of the close -/

/-- The lexer stands in `region`, which lies in `outer`. The close of the region is first found at
`offset`, and its first character `c` is not in the delimiter of an open comment. -/
structure Within (region : Region) (outer : LineState) (c : Char) (place : Place) (offset : Nat) :
    Prop where
  document_eq : place.state.document = outer.document
  regions_eq : place.state.regions = region :: outer.regions
  not_mem_commentClose : ∀ close, place.state.commentClose = some close → c ∉ close
  find?_eq : Text.find? region.close place.rest = some offset

namespace Within

variable {registry : Registry} {region : Region} {outer : LineState} {c : Char} {place : Place}
  {offset : Nat}

theorem language_eq (h : Within region outer c place offset) :
    place.state.language = region.language := by
  rw [LineState.language, h.regions_eq]
  rfl

theorem close_eq (h : Within region outer c place offset) : place.state.close = region.close := by
  rw [LineState.close, LineState.close?, h.regions_eq]
  rfl

theorem next (h : Within region outer c place offset)
    (hstops : Stops (place.step registry) place.state c offset) :
    Within region outer c (place.next registry) (offset - (place.step registry).size) :=
  ⟨hstops.document_eq.trans h.document_eq, hstops.regions_eq.trans h.regions_eq,
    hstops.not_mem_commentClose, Text.find?_drop h.find?_eq hstops.size_le⟩

/-- The close itself belongs to what is around the region. -/
theorem step_of_offset_eq_zero (h : Within region outer c place 0)
    (hclose : region.close ≠ []) (hopen : place.state.commentClose = none)
    (houter : outer.commentClose = none) :
    place.step registry = ⟨region.close.length, ⟨.other, outer.language⟩, outer, none⟩ := by
  have hbegins : place.rest.beginsWith region.close = true :=
    Text.beginsWith_iff.mpr ⟨hclose, Text.prefix_drop_of_find? h.find?_eq⟩
  have hstate : (⟨place.state.document, outer.regions, place.state.commentClose⟩ : LineState) =
      outer := by
    rw [h.document_eq, hopen, ← houter]
  rw [Place.step, step, hopen]
  dsimp only
  rw [plainStep, leaveRegion?, h.regions_eq]
  dsimp only
  rw [if_pos hbegins, hstate]
  rfl

variable (hgrammar : (registry.grammar region.language).Foreign c)
  (hembedded : (registry.grammar region.language).embedded = [])
  (hhead : region.close.head? = some c)

include hgrammar hembedded hhead

theorem stops_or_skips (h : Within region outer c place offset)
    (hfront : place.state.commentClose = none → 0 < offset) :
    (place.step registry).label.language = region.language ∧
      (Stops (place.step registry) place.state c offset ∨
        Skips place.rest (place.step registry) offset) := by
  have hhead' : place.state.close.head? = some c := by rw [h.close_eq, hhead]
  have hfind : Text.find? place.state.close place.rest = some offset := by
    rw [h.close_eq, h.find?_eq]
  rw [← h.language_eq]
  cases hopen : place.state.commentClose with
  | some close =>
    have hcase := commentCase place.state place.operand place.rest close
    rw [← step_of_commentClose hopen] at hcase
    obtain ⟨hlanguage, hstops⟩ := hcase.stops hhead' (h.not_mem_commentClose close hopen) hfind
    exact ⟨hlanguage, .inl hstops⟩
  | none =>
    have hcase := plainCase (registry.grammar region.language) place.state place.operand place.rest
    have hstep : place.step registry =
        plainStep (registry.grammar region.language) place.state place.operand place.rest := by
      rw [Place.step, step, hopen, ← h.language_eq]
    rw [← hstep] at hcase
    exact hcase.stops_or_skips hgrammar hembedded hhead' hopen hfind (hfront hopen)

/-- If nothing skips the close, all that is in front of it has the language of the region, the close
belongs to what is around it, and behind the close the lexer goes on there. -/
theorem closes (houter : outer.commentClose = none) (h : Within region outer c place offset)
    (hskip : ∀ n middle k, Reaches registry place n middle → n + k = offset →
      ¬ Skips middle.rest (middle.step registry) k) :
    (∀ label ∈ (place.labels registry).1.take offset, label.language = region.language) ∧
      ((place.labels registry).1.drop offset).take region.close.length =
        List.replicate region.close.length ⟨.other, outer.language⟩ ∧
      Reaches registry place (offset + region.close.length)
        ⟨outer, none, place.rest.drop (offset + region.close.length)⟩ := by
  have hclose : region.close ≠ [] := List.ne_nil_of_mem (List.mem_of_head? hhead)
  induction place using Place.induction registry generalizing offset with
  | stop place hrest =>
    -- the close is not empty, so it does not stand at the end of the line
    have hfind := Text.add_length_le_of_find? h.find?_eq
    have hpos := List.length_pos_iff.mpr hclose
    rw [hrest, List.length_nil] at hfind
    omega
  | step place hrest ih =>
    by_cases hfront : place.state.commentClose = none ∧ offset = 0
    · -- the lexer leaves the region
      obtain ⟨hopen, rfl⟩ := hfront
      have hstep := @step_of_offset_eq_zero registry region outer c place h hclose hopen houter
      have hreach := @Reaches.single registry place hrest
      rw [Place.next, hstep] at hreach
      rw [Place.labels_of_step_eq hrest hstep, Nat.zero_add]
      refine ⟨?_, ?_, hreach⟩
      · intro label hmem
        exact absurd hmem (by simp)
      · exact List.take_left' List.length_replicate
    · have hfront' : place.state.commentClose = none → 0 < offset := by
        intro hopen
        exact Nat.pos_of_ne_zero fun hzero => hfront ⟨hopen, hzero⟩
      obtain ⟨hlanguage, hstops | hskips⟩ := h.stops_or_skips hgrammar hembedded hhead hfront'
      · -- the step ends in front of the close, which is looked for again behind it
        have hsize := hstops.size_le
        have hlength : (List.replicate (place.step registry).size
            (place.step registry).label).length = (place.step registry).size :=
          List.length_replicate
        obtain ⟨hbefore, hat, hreach⟩ := ih (h.next hstops) fun n middle k hreach hsum =>
          hskip ((place.step registry).size + n) middle k (.step hrest hreach) (by omega)
        have hsum : (place.step registry).size +
            (offset - (place.step registry).size + region.close.length) =
            offset + region.close.length := by omega
        rw [Place.labels_of_rest_ne_nil hrest]
        refine ⟨?_, ?_, ?_⟩
        · intro label hmem
          rw [List.take_append, hlength] at hmem
          rcases List.mem_append.mp hmem with hmem | hmem
          · rw [List.eq_of_mem_replicate (List.mem_of_mem_take hmem), hlanguage]
          · exact hbefore label hmem
        · rw [List.drop_append, hlength, List.drop_eq_nil_of_le (by rw [hlength]; exact hsize),
            List.nil_append, hat]
        · have hreach' := Reaches.step hrest hreach
          rwa [Place.next, List.drop_drop, hsum] at hreach'
      · exact absurd hskips (hskip 0 place offset (.refl place) (Nat.zero_add offset))

end Within

/-! ### Labels at the close -/

/-- The region of a line ends at the first occurrence of its close: all that is in front of it has
the language of the region, the close belongs to what is around it, and behind the close the lexer
goes on there. -/
def ClosesAt (registry : Registry) (region : Region) (outer state : LineState) (text : Text)
    (offset : Nat) : Prop :=
  (∀ i < offset, ((tokenize registry state text).1.labelOf (i : Nat)).language = region.language) ∧
    (∀ i, offset ≤ i → i < offset + region.close.length →
      (tokenize registry state text).1.labelOf (i : Nat) = ⟨.other, outer.language⟩) ∧
    Reaches registry (Place.front state text) (offset + region.close.length)
      ⟨outer, none, text.drop (offset + region.close.length)⟩

/-- Some step of the lexer in a line skips an offset. -/
def SkippedAt (registry : Registry) (state : LineState) (text : Text) (offset : Nat) : Prop :=
  ∃ n place k, Reaches registry (Place.front state text) n place ∧ n + k = offset ∧
    Skips place.rest (place.step registry) k

section Lines

variable {registry : Registry} {region : Region} {outer state : LineState} {c : Char} {text : Text}
  {offset : Nat}

/-- A close that is skipped has the label of a literal. -/
theorem SkippedAt.not_closesAt (h : SkippedAt registry state text offset)
    (hclose : region.close ≠ []) (hfind : Text.find? region.close text = some offset) :
    ¬ ClosesAt registry region outer state text offset := by
  obtain ⟨n, place, k, hreach, rfl, hsize, hkind⟩ := h
  rintro ⟨-, hat, -⟩
  have hpos := List.length_pos_iff.mpr hclose
  have hlength := Text.add_length_le_of_find? hfind
  have hrest : place.rest ≠ [] := by
    rw [hreach.rest_eq, Ne, List.drop_eq_nil_iff, Nat.not_le]
    change n < text.length
    omega
  -- the step that skips the close gives it its own label
  have hlabel := hreach.getElem?_labels hrest hsize
  rw [getElem?_labels_eq_labelOf (by omega), hat (n + k) (Nat.le_refl _) (by omega)] at hlabel
  rw [← Option.some.inj hlabel] at hkind
  simp at hkind

/-- A region ends at its close exactly if nothing skips it. -/
theorem closesAt_iff (hgrammar : (registry.grammar region.language).Foreign c)
    (hembedded : (registry.grammar region.language).embedded = [])
    (hhead : region.close.head? = some c) (houter : outer.commentClose = none)
    (h : Within region outer c (Place.front state text) offset) :
    ClosesAt registry region outer state text offset ↔ ¬ SkippedAt registry state text offset := by
  have hclose : region.close ≠ [] := List.ne_nil_of_mem (List.mem_of_head? hhead)
  have hfind : Text.find? region.close text = some offset := h.find?_eq
  have hlength := Text.add_length_le_of_find? hfind
  constructor
  · intro hcloses hskipped
    exact hskipped.not_closesAt hclose hfind hcloses
  · intro hnot
    obtain ⟨hbefore, hat, hreach⟩ := h.closes hgrammar hembedded hhead houter
      fun n middle k hreach hsum hskips => hnot ⟨n, middle, k, hreach, hsum, hskips⟩
    refine ⟨fun i hi => ?_, fun i hstart hstop => ?_, hreach⟩
    · have hlabel := @getElem?_labels_eq_labelOf registry state text i (by omega)
      rw [← List.getElem?_take_of_lt hi] at hlabel
      exact hbefore _ (List.mem_of_getElem? hlabel)
    · have hlabel := @getElem?_labels_eq_labelOf registry state text i (by omega)
      have hindex : ((((Place.front state text).labels registry).1.drop offset).take
          region.close.length)[i - offset]? =
          some ((tokenize registry state text).1.labelOf (i : Nat)) := by
        rw [List.getElem?_take_of_lt (by omega), List.getElem?_drop, Nat.add_sub_cancel' hstart,
          hlabel]
      rw [hat] at hindex
      exact List.eq_of_mem_replicate (List.mem_of_getElem? hindex)

end Lines

/-- With the built-in languages, a region in HTML ends at the first occurrence of its close, whether
or not one of its comments is open in front of the line, exactly if no regular expression runs over
the close and no string escapes its first character. -/
theorem builtin_region_closes_iff {region : Region} {commentClose : Option Text} {text : Text}
    {offset : Nat}
    (hregion : region = ⟨"javascript", "</script>".toList⟩ ∨ region = ⟨"css", "</style>".toList⟩)
    (hcomment : commentClose = none ∨ commentClose = some "*/".toList)
    (hfind : Text.find? region.close text = some offset) :
    ClosesAt .builtin region ⟨"html", [], none⟩ ⟨"html", [region], commentClose⟩ text offset ↔
      ¬ SkippedAt .builtin ⟨"html", [region], commentClose⟩ text offset := by
  have hwithin : Within region ⟨"html", [], none⟩ '<'
      (Place.front ⟨"html", [region], commentClose⟩ text) offset := by
    refine ⟨rfl, rfl, fun close hclose => ?_, hfind⟩
    rcases hcomment with rfl | rfl
    · exact absurd hclose (by simp [Place.front])
    · obtain rfl := Option.some.inj hclose
      decide
  have hiff (language : Language)
      (hlanguage : Registry.builtin.get? region.language = some language)
      (hforeign : language.grammar.Foreign '<') (hembedded : language.grammar.embedded = [])
      (hhead : region.close.head? = some '<') :
      ClosesAt .builtin region ⟨"html", [], none⟩ ⟨"html", [region], commentClose⟩ text offset ↔
        ¬ SkippedAt .builtin ⟨"html", [region], commentClose⟩ text offset := by
    rw [← Registry.grammar_of_get? hlanguage] at hforeign hembedded
    exact closesAt_iff hforeign hembedded hhead rfl hwithin
  rcases hregion with rfl | rfl
  · exact hiff Builtin.javascript Registry.get?_builtin_javascript
      ⟨by decide, by decide, by decide, by decide⟩ rfl rfl
  · exact hiff Builtin.css Registry.get?_builtin_css
      ⟨by decide, by decide, by decide, by decide⟩ rfl rfl

/-- A backslash in a string hides the close behind it. -/
theorem builtin_region_closes_iff_escaped :
    Text.find? "</script>".toList "\"\\</script>".toList = some 2 ∧
      ¬ ClosesAt .builtin ⟨"javascript", "</script>".toList⟩ ⟨"html", [], none⟩
        ⟨"html", [⟨"javascript", "</script>".toList⟩], none⟩ "\"\\</script>".toList 2 := by
  have hfind : Text.find? "</script>".toList "\"\\</script>".toList = some 2 := by decide
  have hstep : (Place.front ⟨"html", [⟨"javascript", "</script>".toList⟩], none⟩
      "\"\\</script>".toList).step .builtin =
      ⟨11, ⟨.string, "javascript"⟩, ⟨"html", [⟨"javascript", "</script>".toList⟩], none⟩,
        some '"'⟩ := by
    change plainStep (Registry.builtin.grammar "javascript")
      ⟨"html", [⟨"javascript", "</script>".toList⟩], none⟩ none "\"\\</script>".toList = _
    rw [Registry.grammar_of_get? Registry.get?_builtin_javascript]
    decide
  have hskips : Skips "\"\\</script>".toList ((Place.front ⟨"html",
      [⟨"javascript", "</script>".toList⟩], none⟩ "\"\\</script>".toList).step .builtin) 2 := by
    rw [hstep]
    exact ⟨by decide, .inr ⟨rfl, '"', "\\</script>".toList, 0, rfl, .front _, rfl, rfl⟩⟩
  refine ⟨hfind, fun hcloses => ?_⟩
  exact (builtin_region_closes_iff (.inl rfl) (.inl rfl) hfind).mp hcloses
    ⟨0, _, 2, .refl _, rfl, hskips⟩

end Indentation.Lexer
