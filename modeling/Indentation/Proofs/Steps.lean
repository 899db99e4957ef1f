import Indentation.Lexer
import Indentation.Proofs.Search

/-!
# What a step of the lexer can be

Outside a block comment a step is one of seven kinds, and inside one it ends the comment, is cut
off by the close of the region, or takes the rest of the line. Each kind is given once, with the
conditions under which the lexer takes it, so that later arguments split into these cases and never
open the definition of a step again.

## Main definitions

* `Lexer.CommentCase` — the ways in which the rest of a block comment can end
* `Lexer.PlainCase` — the kinds of steps outside a block comment

## Main results

* `Lexer.commentCase`, `Lexer.plainCase` — every step is of one of these kinds
* `Lexer.CommentCase.eq`, `Lexer.PlainCase.eq` — the kind determines the step
* `Lexer.step_size_le` — a step stays in the line
-/

namespace Indentation.Lexer

variable (grammar : Grammar) (state : LineState) (operand : Option Char) (rest : Text)

/-- How the rest of a block comment ends. -/
inductive CommentCase (close : Text) : Step → Prop where
  /-- Neither the comment nor the region closes on this line. -/
  | unclosed (hclose : Text.find? close rest = none)
      (hregion : Text.closeOffset? state.close rest = none) :
      CommentCase close ⟨rest.length, ⟨.comment, state.language⟩, state, operand⟩
  /-- The region closes before the comment does. -/
  | cut {region : Nat} (hregion : Text.closeOffset? state.close rest = some region)
      (hfirst : ∀ stop, Text.find? close rest = some stop → region < stop) :
      CommentCase close ⟨region, ⟨.comment, state.language⟩, state.endComment, operand⟩
  /-- The comment closes, and the region does not close before it. -/
  | closed {stop : Nat} (hclose : Text.find? close rest = some stop)
      (hfirst : ∀ region, Text.closeOffset? state.close rest = some region → stop ≤ region) :
      CommentCase close ⟨stop + close.length, ⟨.comment, state.language⟩, state.endComment, none⟩

theorem commentCase (close : Text) :
    CommentCase state operand rest close (commentStep state operand rest close) := by
  unfold commentStep
  split
  · rename_i hclose hregion
    exact .unclosed hclose hregion
  · rename_i hclose hregion
    exact .cut hregion fun stop hstop => absurd (hclose.symm.trans hstop) (by simp)
  · rename_i hclose hregion
    exact .closed hclose fun region hsome => absurd (hregion.symm.trans hsome) (by simp)
  · -- both closes are found, and the one that comes first counts
    rename_i stop region hclose hregion
    split
    · rename_i hlt
      refine .cut hregion fun stop' hstop => ?_
      obtain rfl := Option.some.inj (hclose.symm.trans hstop)
      exact hlt
    · rename_i hge
      refine .closed hclose fun region' hsome => ?_
      obtain rfl := Option.some.inj (hregion.symm.trans hsome)
      exact Nat.le_of_not_lt hge

/-- The kinds of steps outside a block comment, in the order in which the lexer looks for them. -/
inductive PlainCase : Step → Prop where
  | leave {region : Region} {regions : List Region} (hregions : state.regions = region :: regions)
      (hclose : rest.beginsWith region.close) :
      PlainCase ⟨region.close.length, ⟨.other, LineState.language { state with regions }⟩,
        { state with regions }, none⟩
  | enter {embedding : Embedding} (hleave : leaveRegion? state rest = none)
      (hfind : (grammar.embedded.find? fun embedding => rest.beginsWith embedding.opening) =
        some embedding) :
      PlainCase ⟨embedding.opening.length, ⟨.other, state.language⟩,
        { state with regions := ⟨embedding.language, embedding.closing⟩ :: state.regions }, none⟩
  | lineComment {opening : Text} (hleave : leaveRegion? state rest = none)
      (henter : enterRegion? grammar state rest = none)
      (hfind : grammar.lineComments.find? rest.beginsWith = some opening) {size : Nat}
      (hsize : size = match Text.closeOffset? state.close (rest.drop opening.length) with
        | some offset => opening.length + offset
        | none => rest.length) :
      PlainCase ⟨size, ⟨.comment, state.language⟩, state, operand⟩
  | blockComment {comment : BlockComment} {body : Step} (hleave : leaveRegion? state rest = none)
      (henter : enterRegion? grammar state rest = none)
      (hline : lineComment? grammar state operand rest = none)
      (hfind : (grammar.blockComments.find? fun comment => rest.beginsWith comment.opening) =
        some comment)
      (hbody : CommentCase { state with commentClose := some comment.closing } operand
        (rest.drop comment.opening.length) comment.closing body) :
      PlainCase { body with size := comment.opening.length + body.size }
  | string {quote : Char} {cs : Text} (hleave : leaveRegion? state rest = none)
      (henter : enterRegion? grammar state rest = none)
      (hline : lineComment? grammar state operand rest = none)
      (hblock : blockComment? grammar state operand rest = none)
      (hrest : rest = quote :: cs) (hquote : [quote] ∈ grammar.quotes) :
      PlainCase ⟨Text.stringSize state.close quote cs + 1, ⟨.string, state.language⟩, state,
        some quote⟩
  | regex {cs : Text} {size : Nat} (hleave : leaveRegion? state rest = none)
      (henter : enterRegion? grammar state rest = none)
      (hline : lineComment? grammar state operand rest = none)
      (hblock : blockComment? grammar state operand rest = none)
      (hstring : string? grammar state rest = none)
      (hrest : rest = '/' :: cs) (hallowed : grammar.regexLiterals ∧ admitsOperand operand)
      (hsize : Text.regexSize? cs = some size) :
      PlainCase ⟨size, ⟨.regex, state.language⟩, state, some '/'⟩
  | char (hleave : leaveRegion? state rest = none)
      (henter : enterRegion? grammar state rest = none)
      (hline : lineComment? grammar state operand rest = none)
      (hblock : blockComment? grammar state operand rest = none)
      (hstring : string? grammar state rest = none)
      (hregex : regex? grammar state operand rest = none) :
      PlainCase (charStep state operand rest)

variable {grammar state operand rest}

theorem leaveRegion?_eq_some {step : Step} (h : leaveRegion? state rest = some step) :
    ∃ region regions, state.regions = region :: regions ∧ rest.beginsWith region.close ∧
      step = ⟨region.close.length, ⟨.other, LineState.language { state with regions }⟩,
        { state with regions }, none⟩ := by
  unfold leaveRegion? at h
  split at h
  · exact absurd h (by simp)
  · rename_i region regions hregions
    split at h
    · rename_i hclose
      exact ⟨region, regions, hregions, hclose, (Option.some.inj h).symm⟩
    · exact absurd h (by simp)

theorem string?_eq_some {step : Step} (h : string? grammar state rest = some step) :
    ∃ quote cs, rest = quote :: cs ∧ [quote] ∈ grammar.quotes ∧
      step = ⟨Text.stringSize state.close quote cs + 1, ⟨.string, state.language⟩, state,
        some quote⟩ := by
  unfold string? at h
  split at h
  · exact absurd h (by simp)
  · rename_i quote cs
    split at h
    · rename_i hquote
      exact ⟨quote, cs, rfl, by simpa using hquote, (Option.some.inj h).symm⟩
    · exact absurd h (by simp)

theorem regex?_eq_some {step : Step} (h : regex? grammar state operand rest = some step) :
    ∃ cs size, rest = '/' :: cs ∧ (grammar.regexLiterals ∧ admitsOperand operand) ∧
      Text.regexSize? cs = some size ∧
      step = ⟨size, ⟨.regex, state.language⟩, state, some '/'⟩ := by
  unfold regex? at h
  split at h
  · rename_i cs
    split at h
    · rename_i hallowed
      obtain ⟨size, hsize, rfl⟩ := Option.map_eq_some_iff.mp h
      exact ⟨cs, size, rfl, by simpa using hallowed, hsize, rfl⟩
    · exact absurd h (by simp)
  · exact absurd h (by simp)

variable (grammar state operand rest)

/-- Every step outside a block comment is of one of the seven kinds. -/
theorem plainCase :
    PlainCase grammar state operand rest (plainStep grammar state operand rest) := by
  unfold plainStep
  cases hleave : leaveRegion? state rest with
  | some step =>
    obtain ⟨region, regions, hregions, hclose, rfl⟩ := leaveRegion?_eq_some hleave
    exact .leave hregions hclose
  | none =>
    cases henter : enterRegion? grammar state rest with
    | some step =>
      obtain ⟨embedding, hfind, rfl⟩ := Option.map_eq_some_iff.mp henter
      exact .enter hleave hfind
    | none =>
      cases hline : lineComment? grammar state operand rest with
      | some step =>
        obtain ⟨opening, hfind, rfl⟩ := Option.map_eq_some_iff.mp hline
        exact .lineComment hleave henter hfind rfl
      | none =>
        cases hblock : blockComment? grammar state operand rest with
        | some step =>
          obtain ⟨comment, hfind, rfl⟩ := Option.map_eq_some_iff.mp hblock
          exact .blockComment hleave henter hline hfind (commentCase ..)
        | none =>
          cases hstring : string? grammar state rest with
          | some step =>
            obtain ⟨quote, cs, hrest, hquote, rfl⟩ := string?_eq_some hstring
            exact .string hleave henter hline hblock hrest hquote
          | none =>
            cases hregex : regex? grammar state operand rest with
            | some step =>
              obtain ⟨cs, size, hrest, hallowed, hsize, rfl⟩ := regex?_eq_some hregex
              exact .regex hleave henter hline hblock hstring hrest hallowed hsize
            | none => exact .char hleave henter hline hblock hstring hregex

/-! ### The kind determines the step -/

section Converse

variable {grammar state operand rest} {close : Text} {step : Step}

theorem CommentCase.eq (h : CommentCase state operand rest close step) :
    commentStep state operand rest close = step := by
  cases h with
  | unclosed hclose hregion => simp [commentStep, hclose, hregion]
  | @cut region hregion hfirst =>
    cases hclose : Text.find? close rest with
    | none => simp [commentStep, hclose, hregion]
    | some stop => simp [commentStep, hclose, hregion, hfirst stop hclose]
  | @closed stop hclose hfirst =>
    cases hregion : Text.closeOffset? state.close rest with
    | none => simp [commentStep, hclose, hregion]
    | some region =>
      have hle := hfirst region hregion
      simp [commentStep, hclose, hregion]
      omega

theorem PlainCase.eq (h : PlainCase grammar state operand rest step) :
    plainStep grammar state operand rest = step := by
  cases h with
  | leave hregions hclose => simp [plainStep, leaveRegion?, hregions, hclose]
  | enter hleave hfind => simp [plainStep, hleave, enterRegion?, hfind]
  | lineComment hleave henter hfind hsize =>
    rw [plainStep, hleave, henter, lineComment?, hfind, hsize]
    rfl
  | blockComment hleave henter hline hfind hbody =>
    simp [plainStep, hleave, henter, hline, blockComment?, hfind, hbody.eq]
  | string hleave henter hline hblock hrest hquote =>
    subst hrest
    simp [plainStep, hleave, henter, hline, hblock, string?, hquote]
  | regex hleave henter hline hblock hstring hrest hallowed hsize =>
    subst hrest
    simp [plainStep, hleave, henter, hline, hblock, hstring, regex?, hallowed, hsize]
  | char hleave henter hline hblock hstring hregex =>
    simp [plainStep, hleave, henter, hline, hblock, hstring, hregex]

theorem PlainCase.size_pos (h : PlainCase grammar state operand rest step) (hrest : rest ≠ []) :
    0 < step.size := by
  rw [← h.eq]
  exact plainStep_progress _ _ _ _ hrest

theorem CommentCase.label_eq (h : CommentCase state operand rest close step) :
    step.label = ⟨.comment, state.language⟩ := by
  cases h <;> rfl

/-- A comment takes the rest of the line and stays open, or it ends. -/
theorem CommentCase.state_eq_or (h : CommentCase state operand rest close step) :
    step.size = rest.length ∧ step.state = state ∨ step.state = state.endComment := by
  cases h with
  | unclosed => exact .inl ⟨rfl, rfl⟩
  | cut | closed => exact .inr rfl

theorem CommentCase.close_eq (h : CommentCase state operand rest close step) :
    step.state.close = state.close := by
  rcases h.state_eq_or with ⟨-, hstate⟩ | hstate
  · rw [hstate]
  · rw [hstate]
    rfl

/-- A comment in front of more text ends there. -/
theorem CommentCase.commentClose_eq_none (h : CommentCase state operand rest close step)
    (hmore : rest.drop step.size ≠ []) : step.state.commentClose = none := by
  rcases h.state_eq_or with ⟨hsize, -⟩ | hstate
  · rw [hsize, List.drop_length] at hmore
    exact absurd rfl hmore
  · rw [hstate]
    rfl

end Converse

/-! ### Steps stay in the line -/

theorem stringSize_le (close : Text) (quote : Char) (cs : Text) :
    Text.stringSize close quote cs ≤ cs.length := by
  fun_induction Text.stringSize close quote cs with
  | case1 | case2 | case4 => exact Nat.zero_le _
  | case3 => exact Nat.le_refl 1
  | case5 d cs _ ih =>
    rw [List.length_cons, List.length_cons]
    omega
  | case6 => exact Nat.succ_le_succ (Nat.zero_le _)
  | case7 c d cs _ _ _ ih => exact Nat.succ_le_succ ih

theorem regexBodySize?_lt {inClass : Bool} {cs : Text} {size : Nat}
    (h : Text.regexBodySize? inClass cs = some size) : size < cs.length := by
  fun_induction Text.regexBodySize? inClass cs generalizing size with
  | case1 => exact absurd h (by simp)
  | case2 | case5 =>
    obtain rfl := Option.some.inj h
    simp
  | case3 => exact absurd h (by simp)
  | case4 _ _ _ ih | case6 _ _ _ _ _ ih | case7 _ _ _ _ _ _ ih | case8 _ _ _ _ _ _ _ _ ih =>
    obtain ⟨body, hbody, rfl⟩ := Option.map_eq_some_iff.mp h
    have := ih hbody
    simp only [List.length_cons] at this ⊢
    omega

theorem regexSize?_le {cs : Text} {size : Nat} (h : Text.regexSize? cs = some size) :
    size ≤ cs.length + 1 := by
  unfold Text.regexSize? at h
  split at h
  · exact absurd h (by simp)
  · exact absurd h (by simp)
  · rename_i body _ hbody
    obtain rfl := Option.some.inj h
    have hslash := regexBodySize?_lt hbody
    have hflags := (List.takeWhile_sublist (l := cs.drop (body + 1)) Character.isLetter).length_le
    rw [List.length_drop] at hflags
    omega

theorem CommentCase.size_le {state : LineState} {operand : Option Char} {rest close : Text}
    {step : Step} (h : CommentCase state operand rest close step) : step.size ≤ rest.length := by
  cases h with
  | unclosed => exact Nat.le_refl _
  | cut hregion => exact Nat.le_of_add_right_le (Text.add_length_le_of_closeOffset? hregion)
  | closed hclose => exact Text.add_length_le_of_find? hclose

theorem length_le_of_beginsWith {text spelling : Text} (h : text.beginsWith spelling) :
    spelling.length ≤ text.length :=
  (Text.beginsWith_iff.mp h).2.length_le

theorem PlainCase.size_le {grammar : Grammar} {state : LineState} {operand : Option Char}
    {rest : Text} {step : Step} (h : PlainCase grammar state operand rest step)
    (hrest : rest ≠ []) : step.size ≤ rest.length := by
  cases h with
  | leave _ hclose => exact length_le_of_beginsWith hclose
  | enter _ hfind =>
    have hopening := List.find?_some hfind
    exact length_le_of_beginsWith hopening
  | @lineComment opening _ _ hfind size hsize =>
    have hopening := length_le_of_beginsWith (List.find?_some hfind)
    change size ≤ rest.length
    cases hoffset : Text.closeOffset? state.close (rest.drop opening.length) with
    | none => simp [hsize, hoffset]
    | some offset =>
      have hend := Text.add_length_le_of_closeOffset? hoffset
      rw [List.length_drop] at hend
      have hsum : size = opening.length + offset := by rw [hsize, hoffset]
      omega
  | @blockComment comment body _ _ _ hfind hbody =>
    have hopening := List.find?_some hfind
    have := length_le_of_beginsWith hopening
    have hsize := hbody.size_le
    rw [List.length_drop] at hsize
    dsimp only
    omega
  | @string quote cs _ _ _ _ hrest _ =>
    subst hrest
    exact Nat.succ_le_succ (stringSize_le _ _ _)
  | regex _ _ _ _ _ hrest _ hsize =>
    subst hrest
    exact regexSize?_le hsize
  | char => exact List.length_pos_iff.mpr hrest

/-- A step takes no more characters than the line has left. -/
theorem step_size_le (registry : Registry) (hrest : rest ≠ []) :
    (step state operand rest registry).size ≤ rest.length := by
  unfold step
  split
  · exact (commentCase ..).size_le
  · exact (plainCase ..).size_le hrest

end Indentation.Lexer
