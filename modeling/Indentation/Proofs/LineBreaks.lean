import Indentation.Proofs.Items
import Indentation.Proofs.Lookup
import Indentation.Proofs.Tiling

/-!
# Breaking a line

What a line leaves open is carried to the next one. So a line can be broken in two where the lexer
carries something on: in the body of a block comment, behind the opening of a region that it enters,
and in front of the close of a region that it leaves. The lexer gives every character of the two
lines the label that it has in the one line, and it ends in the same state.

The steps in front of the break look at what is behind it, where they look for the ends of literals
and for delimiters. They find nothing there that they need: a step that ends in front of the break
is also taken if the line ends at the break. One step is taken differently. A comment that the close
of the region cuts off is still open at the end of the first line, and the second line cuts it off
at once.

## Main definitions

* `Lexer.InBody` — the offsets in the body of a block comment
* `Lexer.Break` — where a line can be broken at a place of the lexer
* `Lexer.BreakPoint` — where a line can be broken
* `Lexer.Splits` — what the lexer says about a line is what it says about two parts of it

## Main results

* `Lexer.CommentCase.take`, `Lexer.PlainCase.take` — steps in the front of a line
* `Lexer.InBody.splits`, `Lexer.Break.splits` — a line can be broken at a place
* `Lexer.Reaches.splits` — a line can be broken further on
* `Lexer.tokenize_break` — the tokens of the two lines
-/

namespace Indentation.Lexer

variable {registry : Registry} {grammar : Grammar} {state : LineState} {operand : Option Char}
  {rest close : Text} {k : Nat}

/-! ### Delimiters in the front of a line -/

theorem rest_ne_nil_of_beginsWith {spelling : Text} (h : rest.beginsWith spelling = true) :
    rest ≠ [] := by
  rintro rfl
  have hpos := length_pos_of_beginsWith h
  have hle := length_le_of_beginsWith h
  rw [List.length_nil] at hle
  omega

theorem leaveRegion?_eq_none_iff :
    leaveRegion? state rest = none ↔ ¬ rest.beginsWith state.close = true := by
  unfold leaveRegion? LineState.close LineState.close?
  cases state.regions with
  | nil => simp [Text.beginsWith]
  | cons region regions => simp

theorem exists_region_of_beginsWith (h : rest.beginsWith state.close = true) :
    ∃ region regions, state.regions = region :: regions ∧ region.close = state.close := by
  unfold LineState.close LineState.close? at h ⊢
  cases hregions : state.regions with
  | nil => simp [hregions, Text.beginsWith] at h
  | cons region regions => exact ⟨region, regions, rfl, by simp⟩

/-- The first delimiter that begins a line also begins its front, if it fits there. -/
theorem find?_delimiter_take {α : Type} {delimiters : List α} {spelling : α → Text}
    (hfits : ∀ delimiter,
      (delimiters.find? fun delimiter => rest.beginsWith (spelling delimiter)) = some delimiter →
        (spelling delimiter).length ≤ k) :
    (delimiters.find? fun delimiter => Text.beginsWith (rest.take k) (spelling delimiter)) =
      delimiters.find? fun delimiter => rest.beginsWith (spelling delimiter) := by
  induction delimiters with
  | nil => rfl
  | cons delimiter delimiters ih =>
    rw [List.find?_cons, List.find?_cons]
    cases hbegins : rest.beginsWith (spelling delimiter) with
    | true =>
      have hlength := hfits delimiter (by rw [List.find?_cons, hbegins])
      rw [Text.beginsWith_take.mpr ⟨hbegins, hlength⟩]
    | false =>
      have hnot : Text.beginsWith (rest.take k) (spelling delimiter) = false := by
        rw [← Bool.not_eq_true, Text.beginsWith_take, hbegins]
        simp
      rw [hnot]
      apply ih
      intro other hfind
      apply hfits
      rw [List.find?_cons, hbegins]
      exact hfind

theorem find?_delimiter_take_of_some {α : Type} {delimiters : List α} {spelling : α → Text}
    {delimiter : α}
    (hfind : (delimiters.find? fun delimiter => rest.beginsWith (spelling delimiter)) =
      some delimiter) (hfits : (spelling delimiter).length ≤ k) :
    (delimiters.find? fun delimiter => Text.beginsWith (rest.take k) (spelling delimiter)) =
      some delimiter := by
  rw [find?_delimiter_take, hfind]
  intro other hother
  obtain rfl := Option.some.inj (hfind.symm.trans hother)
  exact hfits

theorem leaveRegion?_take (h : leaveRegion? state rest = none) :
    leaveRegion? state (rest.take k) = none := by
  rw [leaveRegion?_eq_none_iff] at h ⊢
  exact fun hbegins => h (Text.beginsWith_take.mp hbegins).1

theorem enterRegion?_take (h : enterRegion? grammar state rest = none) :
    enterRegion? grammar state (rest.take k) = none := by
  rw [enterRegion?, Option.map_eq_none_iff] at h ⊢
  rw [find?_delimiter_take (by simp [h]), h]

theorem lineComment?_take (h : lineComment? grammar state operand rest = none) :
    lineComment? grammar state operand (rest.take k) = none := by
  rw [lineComment?, Option.map_eq_none_iff] at h ⊢
  exact (@find?_delimiter_take rest k Text grammar.lineComments (fun opening => opening)
    (by simp [h])).trans h

theorem blockComment?_take (h : blockComment? grammar state operand rest = none) :
    blockComment? grammar state operand (rest.take k) = none := by
  rw [blockComment?, Option.map_eq_none_iff] at h ⊢
  rw [find?_delimiter_take (by simp [h]), h]

theorem string?_take (h : string? grammar state rest = none) :
    string? grammar state (rest.take k) = none := by
  cases rest with
  | nil => simpa using h
  | cons quote cs =>
    cases k with
    | zero => rfl
    | succ k => simpa [string?] using h

theorem regex?_take (h : regex? grammar state operand rest = none) :
    regex? grammar state operand (rest.take k) = none := by
  rw [Option.eq_none_iff_forall_ne_some] at h ⊢
  intro step hstep
  obtain ⟨cs, size, hcons, hallowed, hsize, rfl⟩ := regex?_eq_some hstep
  -- the slash stands at the front of the whole line, too, and what follows it is cut off
  obtain ⟨j, ds, rfl, rfl⟩ : ∃ j ds, rest = '/' :: ds ∧ cs = ds.take j := by
    cases rest with
    | nil => simp at hcons
    | cons c ds =>
      cases k with
      | zero => simp at hcons
      | succ k =>
        obtain ⟨rfl, rfl⟩ := List.cons.inj hcons
        exact ⟨k, ds, rfl, rfl⟩
  cases hwhole : Text.regexSize? ds with
  | none => simp [Text.regexSize?_take_of_none hwhole] at hsize
  | some whole =>
    have hsome : regex? grammar state operand ('/' :: ds) =
        some ⟨whole, ⟨.regex, state.language⟩, state, some '/'⟩ := by
      simp [regex?, hallowed, hwhole]
    exact h _ hsome

/-! ### Steps in the front of a line -/

/-- An offset of the rest of a block comment that does not lie behind the start of the delimiter
that ends the comment, be it its own close or that of the region. -/
structure InBody (state : LineState) (close rest : Text) (offset : Nat) : Prop where
  le_length : offset ≤ rest.length
  le_close : ∀ stop, Text.find? close rest = some stop → offset ≤ stop
  le_region : ∀ region, Text.closeOffset? state.close rest = some region → offset ≤ region

/-- The lexer opens a block comment at the front of `rest`. -/
structure Opens (grammar : Grammar) (state : LineState) (operand : Option Char) (rest : Text)
    (comment : BlockComment) : Prop where
  leave : leaveRegion? state rest = none
  enter : enterRegion? grammar state rest = none
  line : lineComment? grammar state operand rest = none
  find : (grammar.blockComments.find? fun comment => rest.beginsWith comment.opening) = some comment

theorem Opens.take {comment : BlockComment} (h : Opens grammar state operand rest comment)
    (hk : comment.opening.length ≤ k) : Opens grammar state operand (rest.take k) comment :=
  ⟨leaveRegion?_take h.leave, enterRegion?_take h.enter, lineComment?_take h.line,
    find?_delimiter_take_of_some h.find hk⟩

section Steps

variable {step : Step}

/-- If the rest of a comment ends in the front of a line, the lexer sees the same there, unless the
comment is cut off by a close of the region right behind the front. -/
theorem CommentCase.take (h : CommentCase state operand rest close step) (hsize : step.size ≤ k)
    (hgap : Text.beginsWith (rest.drop step.size) state.close = true →
      k = step.size ∨ step.size + state.close.length ≤ k) :
    CommentCase state operand (rest.take k) close step ∨ InBody state close rest k := by
  cases h with
  | unclosed hclose hregion =>
    left
    rw [List.take_of_length_le hsize]
    exact .unclosed hclose hregion
  | @cut region hregion hfirst =>
    rcases hgap (Text.beginsWith_drop_of_closeOffset? hregion) with rfl | hlength
    · right
      refine ⟨?_, fun stop hstop => Nat.le_of_lt (hfirst stop hstop), fun other hother => ?_⟩
      · exact Nat.le_of_add_right_le (Text.add_length_le_of_closeOffset? hregion)
      · obtain rfl := Option.some.inj (hregion.symm.trans hother)
        exact Nat.le_refl _
    · left
      refine .cut (by rw [Text.closeOffset?_take, hregion]; simpa [Option.filter] using hlength) ?_
      intro stop hstop
      rw [Text.find?_take, Option.filter_eq_some_iff] at hstop
      exact hfirst stop hstop.1
  | @closed stop hclose hfirst =>
    left
    refine .closed (by rw [Text.find?_take, hclose]; simpa [Option.filter] using hsize) ?_
    intro region hregion
    rw [Text.closeOffset?_take, Option.filter_eq_some_iff] at hregion
    exact hfirst region hregion.1

/-- A line comment that ends in the front of a line is the same there. -/
theorem PlainCase.take_lineComment {opening : Text} {size : Nat}
    (hleave : leaveRegion? state rest = none) (henter : enterRegion? grammar state rest = none)
    (hfind : grammar.lineComments.find? rest.beginsWith = some opening)
    (hsum : size = match Text.closeOffset? state.close (rest.drop opening.length) with
      | some offset => opening.length + offset
      | none => rest.length)
    (hsize : size ≤ k)
    (hgap : Text.beginsWith (rest.drop size) state.close = true →
      k = size ∨ size + state.close.length ≤ k) :
    PlainCase grammar state operand (rest.take k)
      ⟨size, ⟨.comment, state.language⟩, state, operand⟩ := by
  cases hoffset : Text.closeOffset? state.close (rest.drop opening.length) with
  | none =>
    -- the comment takes the whole line, so nothing is cut off
    have hwhole : size = rest.length := by rw [hsum, hoffset]
    rw [List.take_of_length_le (hwhole ▸ hsize)]
    exact .lineComment hleave henter hfind hsum
  | some offset =>
    have hend : size = opening.length + offset := by rw [hsum, hoffset]
    have hbegins := Text.beginsWith_drop_of_closeOffset? hoffset
    have hpos := length_pos_of_beginsWith hbegins
    have hlength := Text.add_length_le_of_closeOffset? hoffset
    rw [List.length_drop] at hlength
    rw [List.drop_drop, ← hend] at hbegins
    have hfind' : grammar.lineComments.find? (Text.beginsWith (rest.take k)) = some opening :=
      @find?_delimiter_take_of_some rest k Text grammar.lineComments (fun opening => opening)
        opening hfind (by omega)
    refine .lineComment (leaveRegion?_take hleave) (enterRegion?_take henter) hfind' ?_
    rw [List.drop_take, Text.closeOffset?_take, hoffset]
    rcases hgap hbegins with hk | hk
    · -- without the close the comment takes the front up to its end
      have hcut : ¬ offset + state.close.length ≤ k - opening.length := by omega
      rw [Option.filter_some_neg (by simpa using hcut)]
      change size = (rest.take k).length
      rw [List.length_take]
      omega
    · have hkept : offset + state.close.length ≤ k - opening.length := by omega
      rw [Option.filter_some_pos (by simpa using hkept)]
      exact hend

/-- A block comment that ends in the front of a line is the same there, unless it is cut off by a
close of the region right behind the front. -/
theorem Opens.take_or_inBody {comment : BlockComment} {body : Step}
    (hopens : Opens grammar state operand rest comment)
    (hbody : CommentCase { state with commentClose := some comment.closing } operand
      (rest.drop comment.opening.length) comment.closing body)
    (hsize : comment.opening.length + body.size ≤ k)
    (hgap : Text.beginsWith (rest.drop (comment.opening.length + body.size)) state.close = true →
      k = comment.opening.length + body.size ∨
        comment.opening.length + body.size + state.close.length ≤ k) :
    PlainCase grammar state operand (rest.take k)
        { body with size := comment.opening.length + body.size } ∨
      InBody state comment.closing (rest.drop comment.opening.length)
        (k - comment.opening.length) := by
  -- the body ends in the front of what follows the opening
  have hgap' : Text.beginsWith ((rest.drop comment.opening.length).drop body.size) state.close =
      true → k - comment.opening.length = body.size ∨
        body.size + state.close.length ≤ k - comment.opening.length := by
    intro hbegins
    rw [List.drop_drop] at hbegins
    have := hgap hbegins
    omega
  rcases @CommentCase.take _ _ _ _ (k - comment.opening.length) _ hbody (by omega) hgap' with
    hcut | hcut
  · left
    obtain ⟨hleave, henter, hline, hfind⟩ := @Opens.take _ _ _ _ k _ hopens (by omega)
    rw [← List.drop_take] at hcut
    exact .blockComment hleave henter hline hfind hcut
  · right
    exact ⟨hcut.le_length, hcut.le_close, hcut.le_region⟩

/-- If a step outside a comment ends in the front of a line, the lexer takes the same step there,
unless it is a block comment that is cut off by a close of the region right behind the front. -/
theorem PlainCase.take (h : PlainCase grammar state operand rest step) (hsize : step.size ≤ k)
    (hgap : Text.beginsWith (rest.drop step.size) step.state.close = true →
      k = step.size ∨ step.size + step.state.close.length ≤ k) :
    PlainCase grammar state operand (rest.take k) step ∨
      ∃ comment offset, Opens grammar state operand rest comment ∧
        InBody state comment.closing (rest.drop comment.opening.length) offset ∧
        k = comment.opening.length + offset := by
  cases h with
  | leave hregions hclose =>
    exact .inl (.leave hregions (Text.beginsWith_take.mpr ⟨hclose, hsize⟩))
  | enter hleave hfind =>
    exact .inl (.enter (leaveRegion?_take hleave) (find?_delimiter_take_of_some hfind hsize))
  | lineComment hleave henter hfind hsum =>
    exact .inl (take_lineComment hleave henter hfind hsum hsize hgap)
  | @blockComment comment body hleave henter hline hfind hbody =>
    have hopens : Opens grammar state operand rest comment := ⟨hleave, henter, hline, hfind⟩
    have hclose : body.state.close = state.close := hbody.close_eq
    dsimp only at hsize hgap
    rw [hclose] at hgap
    refine (hopens.take_or_inBody hbody hsize hgap).imp_right fun hinBody => ?_
    exact ⟨comment, k - comment.opening.length, hopens, hinBody, by omega⟩
  | @string quote cs hleave henter hline hblock hrest hquote =>
    left
    subst hrest
    dsimp only at hsize hgap
    obtain ⟨k, rfl⟩ : ∃ m, k = m + 1 := ⟨k - 1, by omega⟩
    have hstring : Text.stringSize state.close quote (cs.take k) =
        Text.stringSize state.close quote cs := by
      apply Text.stringSize_take (by omega)
      intro hbegins
      have := hgap hbegins
      omega
    rw [← hstring]
    exact .string (leaveRegion?_take hleave) (enterRegion?_take henter) (lineComment?_take hline)
      (blockComment?_take hblock) rfl hquote
  | @regex cs size hleave henter hline hblock hstring hrest hallowed hregex =>
    left
    subst hrest
    dsimp only at hsize
    have hpos : 0 < size := by
      obtain ⟨body, -, -, rfl⟩ := Text.regexSize?_eq_some_iff.mp hregex
      omega
    obtain ⟨k, rfl⟩ : ∃ m, k = m + 1 := ⟨k - 1, by omega⟩
    exact .regex (leaveRegion?_take hleave) (enterRegion?_take henter) (lineComment?_take hline)
      (blockComment?_take hblock) (string?_take hstring) rfl hallowed
      (Text.regexSize?_take hregex hsize)
  | char hleave henter hline hblock hstring hregex =>
    left
    have hsame : charStep state operand rest = charStep state operand (rest.take k) := by
      obtain ⟨k, rfl⟩ : ∃ m, k = m + 1 := ⟨k - 1, Nat.eq_add_of_sub_eq hsize rfl⟩
      cases rest <;> rfl
    rw [hsame]
    exact .char (leaveRegion?_take hleave) (enterRegion?_take henter) (lineComment?_take hline)
      (blockComment?_take hblock) (string?_take hstring) (regex?_take hregex)

/-! ### The bodies of comments -/

theorem inBody_zero : InBody state close rest 0 :=
  ⟨Nat.zero_le _, fun _ _ => Nat.zero_le _, fun _ _ => Nat.zero_le _⟩

/-- From an offset in the body of a comment the lexer sees the same end of the comment. -/
theorem InBody.commentCase_drop (hbody : InBody state close rest k)
    (h : CommentCase state operand rest close step) :
    k ≤ step.size ∧
      CommentCase state operand (rest.drop k) close { step with size := step.size - k } := by
  cases h with
  | unclosed hclose hregion =>
    refine ⟨hbody.le_length, ?_⟩
    rw [← List.length_drop]
    exact .unclosed (Text.find?_drop_of_none hclose) (Text.closeOffset?_drop_of_none hregion)
  | @cut region hregion hfirst =>
    have hle := hbody.le_region region hregion
    refine ⟨hle, .cut (Text.closeOffset?_drop hregion hle) fun stop hstop => ?_⟩
    cases hclose : Text.find? close rest with
    | none => simp [Text.find?_drop_of_none hclose] at hstop
    | some stop' =>
      have hlt := hfirst stop' hclose
      rw [Text.find?_drop hclose (by omega)] at hstop
      obtain rfl := Option.some.inj hstop
      change region - k < stop' - k
      omega
  | @closed stop hclose hfirst =>
    have hle := hbody.le_close stop hclose
    refine ⟨Nat.le_add_right_of_le hle, ?_⟩
    dsimp only
    rw [Nat.sub_add_comm hle]
    refine .closed (Text.find?_drop hclose hle) fun region hregion => ?_
    cases hregion' : Text.closeOffset? state.close rest with
    | none => simp [Text.closeOffset?_drop_of_none hregion'] at hregion
    | some region' =>
      have hle' := hfirst region' hregion'
      rw [Text.closeOffset?_drop hregion' (by omega)] at hregion
      obtain rfl := Option.some.inj hregion
      omega

/-- The front of a line up to an offset in the body of a comment belongs to the body. -/
theorem InBody.take (hbody : InBody state close rest k) : InBody state close (rest.take k) k := by
  refine ⟨by simp [hbody.le_length], fun stop hstop => ?_, fun region hregion => ?_⟩
  · rw [Text.find?_take, Option.filter_eq_some_iff] at hstop
    exact hbody.le_close stop hstop.1
  · rw [Text.closeOffset?_take, Option.filter_eq_some_iff] at hregion
    exact hbody.le_region region hregion.1

/-- A comment whose body goes up to the end of the line stays open. -/
theorem InBody.state_eq (hbody : InBody state close rest rest.length) (hrest : rest ≠ [])
    (h : CommentCase state operand rest close step) : step.state = state := by
  have hpos := List.length_pos_iff.mpr hrest
  cases h with
  | unclosed => rfl
  | cut hregion =>
    have hle := hbody.le_region _ hregion
    have hend := Text.add_length_le_of_closeOffset? hregion
    have hclose := length_pos_of_beginsWith (Text.beginsWith_drop_of_closeOffset? hregion)
    omega
  | @closed stop hclose =>
    have hle := hbody.le_close stop hclose
    have hend := Text.add_length_le_of_find? hclose
    -- the close is empty, so it is found at once
    obtain rfl : close = [] := List.eq_nil_of_length_eq_zero (by omega)
    rw [Text.find?_nil_left] at hclose
    obtain rfl := Option.some.inj hclose
    omega

end Steps

/-! ### Labels that do not depend on the operand mark -/

/-- In front of the close of a region the operand mark does not matter. -/
theorem labels_operand_of_close (hopen : state.commentClose = none)
    (hclose : rest.beginsWith state.close = true) (operand other : Option Char) :
    Place.labels registry ⟨state, operand, rest⟩ = Place.labels registry ⟨state, other, rest⟩ := by
  have hrest := rest_ne_nil_of_beginsWith hclose
  obtain ⟨region, regions, hregions, hregion⟩ := exists_region_of_beginsWith hclose
  rw [← hregion] at hclose
  -- the step that leaves the region does not look at the mark
  have hlabels (operand : Option Char) :=
    @Place.labels_of_step_eq registry ⟨state, operand, rest⟩ _ hrest
      (PlainCase.step_eq hopen (.leave hregions hclose))
  exact (hlabels operand).trans (hlabels other).symm

/-- In a block comment the operand mark does not matter. -/
theorem labels_operand_of_comment (hopen : state.commentClose = some close)
    (operand other : Option Char) :
    Place.labels registry ⟨state, operand, rest⟩ = Place.labels registry ⟨state, other, rest⟩ := by
  by_cases hrest : rest = []
  · subst hrest
    rw [Place.labels_of_rest_eq_nil rfl, Place.labels_of_rest_eq_nil rfl]
  have hlabels {operand : Option Char} {step : Step}
      (h : CommentCase state operand rest close step) :=
    @Place.labels_of_step_eq registry ⟨state, operand, rest⟩ _ hrest
      (h.step_eq hopen)
  have hcase := commentCase state operand rest close
  generalize commentStep state operand rest close = step at hcase
  cases hcase with
  | unclosed hclose hregion =>
    -- the comment takes the rest of the line
    rw [hlabels (.unclosed hclose hregion), hlabels (.unclosed hclose hregion)]
    dsimp only
    rw [Place.labels_of_rest_eq_nil List.drop_length, Place.labels_of_rest_eq_nil List.drop_length]
  | cut hregion hfirst =>
    -- the close of the region follows
    have hclose := Text.beginsWith_drop_of_closeOffset? hregion
    rw [hlabels (.cut hregion hfirst), hlabels (.cut hregion hfirst)]
    dsimp only
    rw [@labels_operand_of_close registry state.endComment _ rfl hclose operand other]
  | closed hclose hfirst => rw [hlabels (.closed hclose hfirst), hlabels (.closed hclose hfirst)]

/-- The labels up to an offset in the body of an open comment, and those behind it. -/
theorem InBody.labels_eq (hopen : state.commentClose = some close)
    (hbody : InBody state close rest k) :
    Place.labels registry ⟨state, operand, rest⟩ =
      (List.replicate k ⟨.comment, state.language⟩ ++
        (Place.labels registry ⟨state, operand, rest.drop k⟩).1,
        (Place.labels registry ⟨state, operand, rest.drop k⟩).2) := by
  by_cases hrest : rest = []
  · subst hrest
    obtain rfl := Nat.le_zero.mp hbody.le_length
    simp
  have hcase := commentCase state operand rest close
  obtain ⟨hsize, hcase'⟩ := hbody.commentCase_drop hcase
  have hlabels := @Place.labels_of_step_eq registry ⟨state, operand, rest⟩ _ hrest
    (step_of_commentClose hopen)
  rw [hlabels, hcase.label_eq]
  dsimp only
  by_cases hend : rest.drop k = []
  · -- the offset is the end of the line
    obtain rfl : k = rest.length :=
      Nat.le_antisymm hbody.le_length (List.drop_eq_nil_iff.mp hend)
    have hall := Nat.le_antisymm hcase.size_le hsize
    rw [hall, hend, hbody.state_eq hrest hcase, Place.labels_of_rest_eq_nil rfl,
      Place.labels_of_rest_eq_nil rfl]
  · have hlabels' := @Place.labels_of_step_eq registry ⟨state, operand, rest.drop k⟩ _ hend
      (hcase'.step_eq hopen)
    rw [hlabels', hcase.label_eq]
    dsimp only
    rw [List.drop_drop, Nat.add_sub_cancel' hsize, ← List.append_assoc,
      List.replicate_append_replicate, Nat.add_sub_cancel' hsize]

/-- A block comment whose close is not empty is its opening and an open comment. -/
theorem Opens.labels_eq {comment : BlockComment} (hopen : state.commentClose = none)
    (h : Opens (registry.grammar state.language) state operand rest comment)
    (hclosing : comment.closing ≠ []) :
    let opened := { state with commentClose := some comment.closing }
    Place.labels registry ⟨state, operand, rest⟩ =
      (List.replicate comment.opening.length ⟨.comment, state.language⟩ ++
        (Place.labels registry ⟨opened, operand, rest.drop comment.opening.length⟩).1,
        (Place.labels registry ⟨opened, operand, rest.drop comment.opening.length⟩).2) := by
  intro opened
  have hbegins := List.find?_some h.find
  have hrest := rest_ne_nil_of_beginsWith hbegins
  have hcase := commentCase opened operand (rest.drop comment.opening.length) comment.closing
  have hlabels := @Place.labels_of_step_eq registry ⟨state, operand, rest⟩ _ hrest
    (PlainCase.step_eq hopen (.blockComment h.leave h.enter h.line h.find hcase))
  have hlabel : (commentStep opened operand (rest.drop comment.opening.length)
      comment.closing).label = ⟨.comment, state.language⟩ := hcase.label_eq
  rw [hlabels, hlabel]
  dsimp only
  by_cases hend : rest.drop comment.opening.length = []
  · -- nothing follows the opening, so the comment stays open
    have hunclosed : commentStep opened operand [] comment.closing =
        ⟨0, ⟨.comment, state.language⟩, opened, operand⟩ := by
      apply (CommentCase.unclosed ?_ ?_).eq
      · simp [Text.find?, hclosing]
      · simp [Text.closeOffset?, Text.find?]
    rw [← List.drop_drop, hend, hunclosed]
    simp
  · have hlabels' := @Place.labels_of_step_eq registry
      ⟨opened, operand, rest.drop comment.opening.length⟩ _ hend (step_of_commentClose rfl)
    rw [hlabels', hlabel]
    dsimp only
    rw [List.drop_drop, ← List.append_assoc, List.replicate_append_replicate]

/-! ### Where a line can be broken -/

/-- `Break registry place offset`: counted from `place`, `offset` lies in the body of a block
comment that is open or opens there, behind the opening of a region that the lexer enters there, or
in front of the close of the region that it leaves there. -/
inductive Break (registry : Registry) (place : Place) : Nat → Prop where
  | pending {close : Text} {offset : Nat} (hopen : place.state.commentClose = some close)
      (hbody : InBody place.state close place.rest offset) : Break registry place offset
  | opened {comment : BlockComment} {offset : Nat} (hopen : place.state.commentClose = none)
      (hopens : Opens (registry.grammar place.state.language) place.state place.operand place.rest
        comment)
      (hbody : InBody place.state comment.closing (place.rest.drop comment.opening.length) offset) :
      Break registry place (comment.opening.length + offset)
  | entered {embedding : Embedding} (hopen : place.state.commentClose = none)
      (hleave : leaveRegion? place.state place.rest = none)
      (hfind : ((registry.grammar place.state.language).embedded.find?
        fun embedding => place.rest.beginsWith embedding.opening) = some embedding) :
      Break registry place embedding.opening.length
  | left (hopen : place.state.commentClose = none)
      (hclose : place.rest.beginsWith place.state.close = true) : Break registry place 0

/-- `BreakPoint registry state text offset`: the lexer, which starts in `state` at the front of
`text`, gets to a place where the line can be broken at `offset`. -/
def BreakPoint (registry : Registry) (state : LineState) (text : Text) (offset : Nat) : Prop :=
  ∃ n k place, Reaches registry (Place.front state text) n place ∧ Break registry place k ∧
    offset = n + k

/-- The place with only the front of what is left of the line. -/
def Place.upTo (place : Place) (k : Nat) : Place :=
  { place with rest := place.rest.take k }

/-- The lexer labels what is left of the line as it labels the front of it and then, as another
line, what is behind the front. -/
def Splits (registry : Registry) (place : Place) (k : Nat) : Prop :=
  let first := (place.upTo k).labels registry
  let second := (Place.front first.2 (place.rest.drop k)).labels registry
  place.labels registry = (first.1 ++ second.1, second.2)

section Splits

variable {place : Place}

theorem splits_zero
    (h : (Place.front place.state place.rest).labels registry = place.labels registry) :
    Splits registry place 0 := by
  have hfirst : (place.upTo 0).labels registry = ([], place.state) :=
    Place.labels_of_rest_eq_nil rfl
  simp [Splits, hfirst, h]

/-- If a step is taken in the front of the line, too, only what is behind it has to split. -/
theorem Splits.advance (hrest : place.rest ≠ []) (hpos : 0 < (place.step registry).size + k)
    (hstep : (place.upTo ((place.step registry).size + k)).step registry = place.step registry)
    (h : Splits registry (place.next registry) k) :
    Splits registry place ((place.step registry).size + k) := by
  have hrest' : (place.upTo ((place.step registry).size + k)).rest ≠ [] := by
    simp [Place.upTo, hrest]
    omega
  have hnext : (place.upTo ((place.step registry).size + k)).next registry =
      (place.next registry).upTo k := by
    rw [Place.next, hstep, Place.upTo, Place.upTo, Place.next]
    simp [List.drop_take]
  have hbehind : place.rest.drop ((place.step registry).size + k) =
      (place.next registry).rest.drop k := by
    rw [Place.next, List.drop_drop]
  unfold Splits at h ⊢
  dsimp only at h ⊢
  rw [Place.labels_of_rest_ne_nil hrest, Place.labels_of_rest_ne_nil hrest', hnext, hstep, hbehind,
    h]
  simp

/-- A line can be broken in the body of an open comment. -/
theorem InBody.splits (hopen : place.state.commentClose = some close)
    (hbody : InBody place.state close place.rest k) : Splits registry place k := by
  have hfirst : (place.upTo k).labels registry =
      (List.replicate k ⟨.comment, place.state.language⟩, place.state) := by
    have hlabels := @InBody.labels_eq registry _ place.operand _ _ _ hopen hbody.take
    have hnil : (place.rest.take k).drop k = [] := by simp
    have hend := @Place.labels_of_rest_eq_nil registry ⟨place.state, place.operand, []⟩ rfl
    rw [hnil, hend, List.append_nil] at hlabels
    exact hlabels
  have hwhole : place.labels registry = _ := InBody.labels_eq hopen hbody
  rw [@labels_operand_of_comment registry _ (place.rest.drop k) _ hopen _ none] at hwhole
  unfold Splits
  rw [hfirst]
  exact hwhole

/-- A line can be broken in the body of a comment that it opens. -/
theorem Opens.splits {comment : BlockComment} (hopen : place.state.commentClose = none)
    (hopens : Opens (registry.grammar place.state.language) place.state place.operand place.rest
      comment)
    (hbody : InBody place.state comment.closing (place.rest.drop comment.opening.length) k)
    (hclosing : comment.closing ≠ []) : Splits registry place (comment.opening.length + k) := by
  -- both lines go on as if the comment had been open behind its opening
  let body : Place := ⟨{ place.state with commentClose := some comment.closing }, place.operand,
    place.rest.drop comment.opening.length⟩
  have hsplits : Splits registry body k :=
    InBody.splits rfl ⟨hbody.le_length, hbody.le_close, hbody.le_region⟩
  have hwhole : place.labels registry = _ := hopens.labels_eq hopen hclosing
  have hfirst : (place.upTo (comment.opening.length + k)).labels registry = _ :=
    Opens.labels_eq hopen (hopens.take (Nat.le_add_right _ k)) hclosing
  rw [List.drop_take, Nat.add_sub_cancel_left] at hfirst
  change _ = (_ ++ ((body.upTo k).labels registry).1, ((body.upTo k).labels registry).2) at hfirst
  change _ = (_ ++ (body.labels registry).1, (body.labels registry).2) at hwhole
  have hbehind : place.rest.drop (comment.opening.length + k) = body.rest.drop k := by
    rw [List.drop_drop]
  unfold Splits at hsplits ⊢
  dsimp only at hsplits ⊢
  rw [hwhole, hfirst, hbehind, hsplits]
  simp

/-- A line can be broken behind a step that is taken in front of the break, too, and leaves no
operand mark. -/
theorem splits_of_plainCase {step : Step} (hopen : place.state.commentClose = none)
    (hrest : place.rest ≠ [])
    (hwhole : PlainCase (registry.grammar place.state.language) place.state place.operand
      place.rest step)
    (hfront : PlainCase (registry.grammar place.state.language) place.state place.operand
      (place.rest.take step.size) step)
    (hoperand : step.operand = none) : Splits registry place step.size := by
  have hstep : place.step registry = step := hwhole.step_eq hopen
  have hpos := hwhole.size_pos hrest
  subst hstep
  have hsame := @PlainCase.step_eq registry (place.upTo (place.step registry).size) _ hopen hfront
  have hnext : Splits registry (place.next registry) 0 := by
    apply splits_zero
    rw [Place.next, hoperand]
    rfl
  exact hnext.advance hrest hpos hsame

theorem Break.splits (h : Break registry place k) : Splits registry place k := by
  cases h with
  | pending hopen hbody => exact hbody.splits hopen
  | @opened comment offset hopen hopens hbody =>
    by_cases hclosing : comment.closing = []
    · -- the comment is only its opening, in the front of the line, too
      obtain rfl : offset = 0 := by
        have hle := hbody.le_close 0 (by rw [hclosing, Text.find?_nil_left])
        omega
      have hcase (rest : Text) : CommentCase
          { place.state with commentClose := some comment.closing } place.operand rest
          comment.closing ⟨0, ⟨.comment, place.state.language⟩, place.state.endComment, none⟩ := by
        rw [hclosing]
        exact .closed Text.find?_nil_left fun _ _ => Nat.zero_le _
      have hfront := hopens.take (Nat.le_refl comment.opening.length)
      have hbegins := List.find?_some hopens.find
      exact splits_of_plainCase hopen (rest_ne_nil_of_beginsWith hbegins)
        (.blockComment hopens.leave hopens.enter hopens.line hopens.find (hcase _))
        (.blockComment hfront.leave hfront.enter hfront.line hfront.find (hcase _)) rfl
    · exact hopens.splits hopen hbody hclosing
  | entered hopen hleave hfind =>
    have hfront := find?_delimiter_take_of_some hfind (Nat.le_refl _)
    have hbegins := List.find?_some hfind
    exact splits_of_plainCase hopen (rest_ne_nil_of_beginsWith hbegins)
      (.enter hleave hfind) (.enter (leaveRegion?_take hleave) hfront) rfl
  | left hopen hclose =>
    exact splits_zero (labels_operand_of_close hopen hclose none place.operand)

/-- A break is at the front of a close of the region or behind it. -/
theorem Reaches.break_gap {target : Place} {n : Nat} (h : Reaches registry place n target)
    (hbreak : Break registry target k) (hopen : place.state.commentClose = none)
    (hclose : place.rest.beginsWith place.state.close = true) :
    n + k = 0 ∨ place.state.close.length ≤ n + k := by
  cases h with
  | refl =>
    cases hbreak with
    | pending hpending => simp [hopen] at hpending
    | opened _ hopens => exact absurd hclose (leaveRegion?_eq_none_iff.mp hopens.leave)
    | entered _ hleave => exact absurd hclose (leaveRegion?_eq_none_iff.mp hleave)
    | left => exact .inl rfl
  | step hrest hreaches =>
    right
    obtain ⟨region, regions, hregions, hregion⟩ := exists_region_of_beginsWith hclose
    rw [← hregion] at hclose ⊢
    rw [@PlainCase.step_eq registry place _ hopen (.leave hregions hclose)]
    dsimp only
    omega

/-- A close of the region behind a step is cut off whole or not at all. -/
theorem Reaches.step_gap {target : Place} {n : Nat}
    (h : Reaches registry (place.next registry) n target) (hbreak : Break registry target k)
    (hclose : Text.beginsWith (place.rest.drop (place.step registry).size)
      (place.step registry).state.close = true) :
    (place.step registry).size + (n + k) = (place.step registry).size ∨
      (place.step registry).size + (place.step registry).state.close.length ≤
        (place.step registry).size + (n + k) := by
  have hended := commentClose_next_eq_none (rest_ne_nil_of_beginsWith hclose)
  have hgap := h.break_gap hbreak hended hclose
  rw [Place.next] at hgap
  dsimp only at hgap
  omega

/-- A line can be broken at each place that the lexer gets to. -/
theorem Reaches.splits {target : Place} {n : Nat} (h : Reaches registry place n target)
    (hbreak : Break registry target k) : Splits registry place (n + k) := by
  -- on the steps in front of the break, each of which is taken in the first line, too
  induction h with
  | refl =>
    rw [Nat.zero_add]
    exact hbreak.splits
  | @step place target n hrest hreaches ih =>
    have hsplits := ih hbreak
    rw [Nat.add_assoc]
    have hle : (place.step registry).size ≤ (place.step registry).size + (n + k) :=
      Nat.le_add_right ..
    have hgap := hreaches.step_gap hbreak
    cases hopen : place.state.commentClose with
    | some close =>
      have hcase := @Place.commentCase registry place close hopen
      rw [hcase.close_eq] at hgap
      rcases hcase.take hle hgap with hfront | hbody
      · -- an open comment with an empty close takes no characters, so the first line may be empty
        rcases Nat.eq_zero_or_pos ((place.step registry).size + (n + k)) with hzero | hpos
        · rw [hzero]
          exact inBody_zero.splits hopen
        · exact hsplits.advance hrest hpos
            (@CommentCase.step_eq registry (place.upTo _) _ _ hopen hfront)
      · exact hbody.splits hopen
    | none =>
      have hcase := @Place.plainCase registry place hopen
      rcases hcase.take hle hgap with hfront | ⟨comment, offset, hopens, hbody, h⟩
      · exact hsplits.advance hrest (Nat.add_pos_left (hcase.size_pos hrest) _)
          (@PlainCase.step_eq registry (place.upTo _) _ hopen hfront)
      · rw [h]
        exact (Break.opened hopen hopens hbody).splits

end Splits

/-! ### Two lines in place of one -/

/-- A line that is broken where the lexer carries something on gets the same labels, and leaves the
same state. -/
theorem tokenize_break {registry : Registry} {state : LineState} {text : Text} {offset : Nat}
    (h : BreakPoint registry state text offset) :
    let first := tokenize registry state (text.take offset)
    let second := tokenize registry first.2 (text.drop offset)
    first.1.cells ++ second.1.cells = (tokenize registry state text).1.cells ∧
      second.2 = (tokenize registry state text).2 := by
  obtain ⟨n, k, place, hreaches, hbreak, rfl⟩ := h
  have hsplits := hreaches.splits hbreak
  have hlength := length_labels registry state (text.take (n + k)) none
  have hstate := congrArg Prod.snd hsplits
  dsimp only
  rw [cells_tokenize, cells_tokenize, cells_tokenize, ← List.zip_append hlength.symm,
    List.take_append_drop, tokenize_snd, tokenize_snd, tokenize_snd]
  refine ⟨?_, hstate.symm⟩
  exact congrArg (fun labels => text.zip labels.1) hsplits.symm

/-- A script can be broken in front of its end, where it cuts off a comment. -/
theorem tokenize_break_cut_comment :
    BreakPoint .builtin (.initial "html") "<script>/*a</script>b".toList 11 ∧
      (let first := tokenize .builtin (.initial "html") "<script>/*a".toList
       let second := tokenize .builtin first.2 "</script>b".toList
       first.1.cells ++ second.1.cells =
          (tokenize .builtin (.initial "html") "<script>/*a</script>b".toList).1.cells ∧
        second.2 = (tokenize .builtin (.initial "html") "<script>/*a</script>b".toList).2) := by
  have hstep : (Place.front (.initial "html") "<script>/*a</script>b".toList).step .builtin =
      ⟨8, ⟨.other, "html"⟩, ⟨"html", [⟨"javascript", "</script>".toList⟩], none⟩, none⟩ := by
    change plainStep (Registry.builtin.grammar "html") (.initial "html") none
      "<script>/*a</script>b".toList = _
    rw [Registry.grammar_of_get? Registry.get?_builtin_html]
    decide
  have hreaches : Reaches .builtin (Place.front (.initial "html") "<script>/*a</script>b".toList) 8
      ⟨⟨"html", [⟨"javascript", "</script>".toList⟩], none⟩, none, "/*a</script>b".toList⟩ := by
    have hsingle := @Reaches.single .builtin
      (Place.front (.initial "html") "<script>/*a</script>b".toList) (by decide)
    rw [Place.next, hstep] at hsingle
    exact hsingle
  have hopens : Opens (Registry.builtin.grammar "javascript")
      ⟨"html", [⟨"javascript", "</script>".toList⟩], none⟩ none "/*a</script>b".toList
      ⟨"/*".toList, "*/".toList⟩ := by
    rw [Registry.grammar_of_get? Registry.get?_builtin_javascript]
    exact ⟨by decide, by decide, by decide, by decide⟩
  have hbody : InBody ⟨"html", [⟨"javascript", "</script>".toList⟩], none⟩ "*/".toList
      "a</script>b".toList 1 := by
    refine ⟨by decide, fun stop hstop => ?_, fun region hregion => ?_⟩
    · have hnone : Text.find? "*/".toList "a</script>b".toList = none := by decide
      exact absurd (hnone.symm.trans hstop) (Option.some_ne_none stop).symm
    · have hone : Text.closeOffset? "</script>".toList "a</script>b".toList = some 1 := by decide
      exact Nat.le_of_eq (Option.some.inj (hone.symm.trans hregion))
  have hbreak : BreakPoint .builtin (.initial "html") "<script>/*a</script>b".toList 11 :=
    ⟨8, 2 + 1, _, hreaches, @Break.opened .builtin _ ⟨"/*".toList, "*/".toList⟩ 1 rfl hopens hbody,
      rfl⟩
  have htake : "<script>/*a</script>b".toList.take 11 = "<script>/*a".toList := by decide
  have hdrop : "<script>/*a</script>b".toList.drop 11 = "</script>b".toList := by decide
  have hresult := tokenize_break hbreak
  dsimp only at hresult
  rw [htake, hdrop] at hresult
  exact ⟨hbreak, hresult⟩

end Indentation.Lexer
