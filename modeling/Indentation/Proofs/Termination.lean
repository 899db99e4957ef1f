import Indentation.Proofs.Emission
import Indentation.Proofs.Items

/-!
# Lexing by positions

The lexer told as a loop that moves a position through a line and reads single characters there.
Reading fails behind the end of the line. The position may run over the end while a literal is
scanned, since an escaped character is passed over without looking whether it is there; but no
character is read there, and behind the scan the position lies in the line.

Each turn of the loop moves the position forward, or ends the open comment where it stands. Behind
its first turn a comment is open at the end of the line only, so the loop takes at most one turn
more than the line has characters, and it ends at the end of the line.

## Main definitions

* `Text.stringStop?`, `Text.regexStop?`, `Text.lettersStop?` — the scans for the ends of literals
* `Lexer.Cursor` — a position with the state and the operand mark there
* `Lexer.Cursor.advance` — one turn of the loop
* `Lexer.Cursor.loop` — a number of turns

## Main results

* `Text.stringStop?_eq`, `Text.regexStop?_eq` — the scans do not fail, and stop where literals end
* `Lexer.Cursor.advance_eq` — a turn of the loop is a step of the lexer
* `Lexer.Cursor.loop_ends` — the loop ends at the end of the line
* `Lexer.Cursor.advances_until_end` — every turn stays in the line and the loop ends
-/

namespace Indentation

namespace Text

variable (text : Text)

/-- The position where a string ends that is scanned from `pos` on: behind its quote, at the close
of the region or at the end of the text. -/
def stringStop? (close : Text) (quote : Char) (pos : Nat) : Option Nat :=
  if pos < text.length then
    if beginsWith (text.drop pos) close then
      some pos
    else do
      let c ← text[pos]?
      if c = '\\' then stringStop? close quote (pos + 2)
      else if c = quote then some (pos + 1)
      else stringStop? close quote (pos + 1)
  else
    some (min pos text.length)
termination_by text.length - pos

/-- The position of the slash that closes a regular expression that is scanned from `pos` on, if
there is one. -/
def slashStop? (inClass : Bool) (pos : Nat) : Option (Option Nat) :=
  if pos < text.length then do
    let c ← text[pos]?
    if c = '\\' then slashStop? inClass (pos + 2)
    else if c = '/' ∧ inClass = false then some (some pos)
    else slashStop? (classBehind inClass c) (pos + 1)
  else
    some none
termination_by text.length - pos

/-- The position behind the letters from `pos` on. -/
def lettersStop? (pos : Nat) : Option Nat :=
  if pos < text.length then do
    let c ← text[pos]?
    if Character.isLetter c then lettersStop? (pos + 1) else some pos
  else
    some pos
termination_by text.length - pos

/-- The position behind a regular expression whose opening slash stands at `pos`, if it closes. -/
def regexStop? (pos : Nat) : Option (Option Nat) := do
  let slash? ← slashStop? text false (pos + 1)
  match slash? with
  | none => some none
  | some slash =>
    if slash = pos + 1 then
      some none
    else
      (lettersStop? text (slash + 1)).map some

variable {text} {pos : Nat}

/-- What is left of a text at a position in it begins with the character that is read there. -/
theorem exists_drop_eq_cons (h : pos < text.length) :
    ∃ c, text[pos]? = some c ∧ text.drop pos = c :: text.drop (pos + 1) :=
  ⟨text[pos], List.getElem?_eq_getElem h, List.drop_eq_getElem_cons h⟩

/-- The scan for the end of a string fails nowhere, not even where an escaped character would stand
behind the end of the text. -/
theorem stringStop?_eq (close : Text) (quote : Char) (pos : Nat) :
    stringStop? text close quote pos =
      some (min pos text.length + stringSize close quote (text.drop pos)) := by
  fun_induction stringStop? text close quote pos with
  | case1 pos hlt hbegins =>
    rw [stringSize_of_beginsWith hbegins, Nat.min_eq_left (Nat.le_of_lt hlt), Nat.add_zero]
  | case2 pos hlt hbegins ihescape ihchar =>
    obtain ⟨c, hread, hdrop⟩ := exists_drop_eq_cons hlt
    rw [hdrop] at hbegins ⊢
    rw [hread, Option.bind_eq_bind, Option.bind_some]
    by_cases hescape : c = '\\'
    · rw [if_pos hescape, ihescape, hescape]
      subst hescape
      by_cases hmore : pos + 1 < text.length
      · obtain ⟨d, -, hdrop' : _ = d :: text.drop (pos + 2)⟩ := exists_drop_eq_cons hmore
        rw [hdrop'] at hbegins ⊢
        rw [stringSize_escape hbegins]
        congr 1
        omega
      · -- the escaped character is missing, and the position runs over the end
        have hend : text.drop (pos + 1) = [] := List.drop_eq_nil_of_le (by omega)
        have hbehind : text.drop (pos + 2) = [] := List.drop_eq_nil_of_le (by omega)
        rw [hend] at hbegins ⊢
        rw [hbehind, stringSize, stringSize, if_neg hbegins]
        congr 1
        omega
    · rw [if_neg hescape, stringSize_char hbegins hescape]
      split_ifs with hquote
      · congr 1
        omega
      · rw [ihchar]
        congr 1
        omega
  | case3 pos hend =>
    rw [List.drop_eq_nil_of_le (Nat.le_of_not_lt hend), stringSize, Nat.add_zero]

theorem slashStop?_eq (inClass : Bool) (pos : Nat) :
    slashStop? text inClass pos =
      some ((regexBodySize? inClass (text.drop pos)).map (pos + ·)) := by
  fun_induction slashStop? text inClass pos with
  | case1 inClass pos hlt ihescape ihchar =>
    obtain ⟨c, hread, hdrop⟩ := exists_drop_eq_cons hlt
    rw [hread, hdrop, Option.bind_eq_bind, Option.bind_some]
    by_cases hescape : c = '\\'
    · rw [if_pos hescape, ihescape, hescape]
      by_cases hmore : pos + 1 < text.length
      · obtain ⟨d, -, hdrop'⟩ := exists_drop_eq_cons hmore
        rw [hdrop', regexBodySize?_escape, Option.map_map]
        congr 2
        funext size
        simp only [Function.comp_apply]
        omega
      · -- behind a backslash that ends the text no slash is found
        have hend : text.drop (pos + 1) = [] := List.drop_eq_nil_of_le (by omega)
        have hbehind : text.drop (pos + 2) = [] := List.drop_eq_nil_of_le (by omega)
        rw [hend, hbehind]
        rfl
    · rw [if_neg hescape, regexBodySize?_char hescape]
      split_ifs with hslash
      · rfl
      · rw [ihchar c, Option.map_map]
        congr 2
        funext size
        simp only [Function.comp_apply]
        omega
  | case2 inClass pos hend =>
    rw [List.drop_eq_nil_of_le (Nat.le_of_not_lt hend), regexBodySize?, Option.map_none]

theorem lettersStop?_eq (pos : Nat) :
    lettersStop? text pos =
      some (pos + ((text.drop pos).takeWhile Character.isLetter).length) := by
  fun_induction lettersStop? text pos with
  | case1 pos hlt ih =>
    obtain ⟨c, hread, hdrop⟩ := exists_drop_eq_cons hlt
    rw [hread, hdrop, Option.bind_eq_bind, Option.bind_some, List.takeWhile_cons]
    split_ifs with hletter
    · rw [ih, List.length_cons]
      congr 1
      omega
    · rfl
  | case2 pos hend =>
    rw [List.drop_eq_nil_of_le (Nat.le_of_not_lt hend), List.takeWhile_nil, List.length_nil,
      Nat.add_zero]

/-- The scan for a regular expression fails nowhere: it says where one ends, or that there is
none. -/
theorem regexStop?_eq (pos : Nat) :
    regexStop? text pos = some ((regexSize? (text.drop (pos + 1))).map (pos + ·)) := by
  rw [regexStop?, slashStop?_eq, Option.bind_eq_bind, Option.bind_some]
  cases hbody : regexBodySize? false (text.drop (pos + 1)) with
  | none => simp [regexSize?, hbody]
  | some body =>
    by_cases hempty : body = 0
    · simp [regexSize?, hbody, hempty]
    · have hsize := regexSize?_eq_some_iff.mpr ⟨body, hbody, hempty, rfl⟩
      have hne : pos + 1 + body ≠ pos + 1 := by omega
      simp only [Option.map_some, hsize, if_neg hne, lettersStop?_eq, List.drop_drop,
        ← Nat.add_assoc]
      congr 2
      omega

end Text

namespace Lexer

/-- What a delimiter at the front of a line outside a block comment asks for. -/
def delimiter? (grammar : Grammar) (state : LineState) (operand : Option Char) (rest : Text) :
    Option Step :=
  leaveRegion? state rest
    <|> enterRegion? grammar state rest
    <|> lineComment? grammar state operand rest
    <|> blockComment? grammar state operand rest

theorem plainStep_eq_or (grammar : Grammar) (state : LineState) (operand : Option Char)
    (rest : Text) :
    plainStep grammar state operand rest =
      (delimiter? grammar state operand rest
        <|> string? grammar state rest
        <|> regex? grammar state operand rest).getD (charStep state operand rest) := by
  simp only [plainStep, delimiter?, Option.orElse_eq_orElse, Option.orElse_eq_or, Option.or_assoc]

/-- A position in a line, with the state and the operand mark that the lexer has there. -/
structure Cursor where
  pos : Nat
  state : LineState
  operand : Option Char
  deriving DecidableEq, Repr

namespace Cursor

/-- The front of a line. -/
def front (state : LineState) : Cursor :=
  ⟨0, state, none⟩

variable (registry : Registry) (text : Text) (cursor : Cursor)

/-- The place of a cursor in a line. -/
def place : Place :=
  ⟨cursor.state, cursor.operand, text.drop cursor.pos⟩

/-- The cursor behind a step. -/
def behind (step : Step) : Cursor :=
  ⟨cursor.pos + step.size, step.state, step.operand⟩

/-- The cursor behind a literal or a single character, which is read where the cursor stands. -/
def readItem? (grammar : Grammar) : Option Cursor := do
  let c ← text[cursor.pos]?
  if grammar.quotes.contains [c] then
    let stop ← Text.stringStop? text cursor.state.close c (cursor.pos + 1)
    some ⟨stop, cursor.state, some c⟩
  else
    let stop? ←
      if c = '/' ∧ (grammar.regexLiterals && admitsOperand cursor.operand) = true then
        Text.regexStop? text cursor.pos
      else
        some none
    match stop? with
    | some stop => some ⟨stop, cursor.state, some '/'⟩
    | none =>
      some ⟨cursor.pos + 1, cursor.state, if Character.isBlank c then cursor.operand else some c⟩

/-- One turn of the loop. -/
def advance : Option Cursor :=
  let rest := text.drop cursor.pos
  match cursor.state.commentClose with
  | some close => some (cursor.behind (commentStep cursor.state cursor.operand rest close))
  | none =>
    let grammar := registry.grammar cursor.state.language
    match delimiter? grammar cursor.state cursor.operand rest with
    | some step => some (cursor.behind step)
    | none => readItem? text cursor grammar

/-- At most a number of turns of the loop, which stops at the end of the line. -/
def loop : Nat → Cursor → Option Cursor
  | 0, cursor => some cursor
  | count + 1, cursor =>
    if cursor.pos < text.length then
      (cursor.advance registry text).bind (loop count)
    else
      some cursor

variable {registry text cursor}

/-- Nothing is read behind the end of the line, and what is read makes the step that the lexer
takes. -/
theorem readItem?_eq (grammar : Grammar) (hlt : cursor.pos < text.length)
    (hdelimiter : delimiter? grammar cursor.state cursor.operand (text.drop cursor.pos) = none) :
    readItem? text cursor grammar =
      some (cursor.behind
        (plainStep grammar cursor.state cursor.operand (text.drop cursor.pos))) := by
  obtain ⟨c, hread, hdrop⟩ := Text.exists_drop_eq_cons hlt
  rw [plainStep_eq_or, hdelimiter, readItem?, hread, hdrop, Option.bind_eq_bind, Option.bind_some]
  by_cases hquote : grammar.quotes.contains [c] = true
  · -- the quote stands in the line, so the scan behind it does not start over the end
    have hpos : min (cursor.pos + 1) text.length = cursor.pos + 1 := Nat.min_eq_left hlt
    rw [if_pos hquote, Text.stringStop?_eq, hpos]
    simp only [string?, if_pos hquote, behind, Option.bind_eq_bind, Option.bind_some,
      Option.orElse_eq_orElse, Option.orElse_eq_or, Option.none_or, Option.some_or,
      Option.getD_some, Option.some.injEq, mk.injEq, and_self, and_true]
    omega
  · have hstring : string? grammar cursor.state (c :: text.drop (cursor.pos + 1)) = none :=
      if_neg hquote
    rw [if_neg hquote, hstring]
    by_cases hslash : c = '/' ∧ (grammar.regexLiterals && admitsOperand cursor.operand) = true
    · obtain ⟨rfl, hoperand⟩ := hslash
      rw [if_pos ⟨rfl, hoperand⟩, Text.regexStop?_eq]
      simp only [regex?, if_pos hoperand]
      cases Text.regexSize? (text.drop (cursor.pos + 1)) <;> rfl
    · have hregex : regex? grammar cursor.state cursor.operand (c :: text.drop (cursor.pos + 1)) =
          none := by
        unfold regex?
        split
        · rename_i heq
          exact if_neg fun h => hslash ⟨(List.cons.inj heq).1, h⟩
        · rfl
      rw [if_neg hslash, hregex]
      rfl

/-- A turn of the loop is a step of the lexer: nothing is read behind the end of the line. -/
theorem advance_eq (hlt : cursor.pos < text.length) :
    cursor.advance registry text = some (cursor.behind ((cursor.place text).step registry)) := by
  cases hopen : cursor.state.commentClose with
  | some close =>
    have hstep := @step_of_commentClose registry (cursor.place text) close hopen
    rw [advance, hopen, hstep]
    rfl
  | none =>
    have hstep := @step_of_no_comment registry (cursor.place text) hopen
    rw [advance, hopen, hstep]
    dsimp only [place]
    -- a delimiter is found by comparing texts, and only then is a character read
    split
    · rename_i step hdelimiter
      rw [plainStep_eq_or, hdelimiter]
      rfl
    · rename_i hdelimiter
      exact readItem?_eq _ hlt hdelimiter

/-- The cursor that a turn of the loop leaves stands at the place behind the step. -/
theorem place_behind :
    (cursor.behind ((cursor.place text).step registry)).place text =
      (cursor.place text).next registry := by
  simp only [place, behind, Place.next, List.drop_drop]

theorem rest_ne_nil_iff : (cursor.place text).rest ≠ [] ↔ cursor.pos < text.length := by
  rw [place, ne_eq, List.drop_eq_nil_iff, Nat.not_le]

/-- A turn of the loop stays in the line. It moves forward, or it ends the open comment where it
stands. -/
theorem behind_step_progress (registry : Registry) (hlt : cursor.pos < text.length) :
    let next := cursor.behind ((cursor.place text).step registry)
    next.pos ≤ text.length ∧
      (cursor.pos < next.pos ∨
        next.pos = cursor.pos ∧ cursor.state.commentClose.isSome ∧
          next.state.commentClose = none) := by
  intro next
  have hrest := rest_ne_nil_iff.mpr hlt
  have hlength : (cursor.place text).rest.length = text.length - cursor.pos := List.length_drop
  have hpos : next.pos = cursor.pos + ((cursor.place text).step registry).size := rfl
  constructor
  · have hsize := Place.step_size_le registry hrest
    omega
  · rcases Nat.eq_zero_or_pos ((cursor.place text).step registry).size with hzero | hsize
    · right
      refine ⟨by omega, ?_⟩
      apply (step_progress cursor.state cursor.operand _ registry hrest).resolve_left
      exact Nat.not_lt_of_ge (Nat.le_of_eq hzero)
    · left
      omega

/-- The turns that the loop takes from a cursor at most: one for each character that is left, and
one more where a comment is open. -/
def turns (text : Text) (cursor : Cursor) : Nat :=
  text.length - cursor.pos +
    if cursor.pos < text.length ∧ cursor.state.commentClose.isSome then 1 else 0

theorem turns_behind_step_lt (registry : Registry) (hlt : cursor.pos < text.length) :
    (cursor.behind ((cursor.place text).step registry)).turns text < cursor.turns text := by
  obtain ⟨hle, hprogress⟩ := behind_step_progress registry hlt
  -- a comment that is open behind the turn reaches to the end of the line
  have hopen : ¬ ((cursor.behind ((cursor.place text).step registry)).pos < text.length ∧
      (cursor.behind ((cursor.place text).step registry)).state.commentClose.isSome) := by
    rintro ⟨hmore, hopen⟩
    rw [← rest_ne_nil_iff, place_behind] at hmore
    have hnone : (cursor.behind ((cursor.place text).step registry)).state.commentClose = none :=
      commentClose_next_eq_none hmore
    rw [hnone] at hopen
    exact Bool.false_ne_true hopen
  rw [turns, turns, if_neg hopen]
  rcases hprogress with hforward | ⟨hstay, hcomment, -⟩
  · omega
  · rw [if_pos ⟨hlt, hcomment⟩]
    omega

/-- The loop ends at the end of the line, in the state that the lexer leaves there. -/
theorem loop_ends (registry : Registry) (cursor : Cursor) (hpos : cursor.pos ≤ text.length) :
    ∃ last : Cursor, last.pos = text.length ∧
      last.state = ((cursor.place text).labels registry).2 ∧
      ∀ count, cursor.turns text ≤ count → loop registry text count cursor = some last := by
  -- the turns that are left become fewer with each turn
  induction hturns : cursor.turns text using Nat.strongRecOn generalizing cursor with
  | ind turns ih =>
    by_cases hlt : cursor.pos < text.length
    · have hless := turns_behind_step_lt registry hlt
      obtain ⟨hle, -⟩ := behind_step_progress registry hlt
      obtain ⟨last, hend, hstate, hloop⟩ := ih _ (hturns ▸ hless) _ hle rfl
      refine ⟨last, hend, ?_, ?_⟩
      · rw [hstate, place_behind, Place.labels_of_rest_ne_nil (rest_ne_nil_iff.mpr hlt)]
      · intro count hcount
        obtain ⟨count, rfl⟩ : ∃ n, count = n + 1 := ⟨count - 1, by omega⟩
        rw [loop, if_pos hlt, advance_eq hlt, Option.bind_some]
        exact hloop count (by omega)
    · have hrest : (cursor.place text).rest = [] :=
        List.drop_eq_nil_of_le (Nat.le_of_not_lt hlt)
      refine ⟨cursor, by omega, ?_, ?_⟩
      · rw [Place.labels_of_rest_eq_nil hrest]
        rfl
      · intro count _
        cases count with
        | zero => rfl
        | succ count => rw [loop, if_neg hlt]

/-- Each turn of the loop that begins in the line reads nothing behind its end, takes the step of
the lexer, stays in the line, and moves forward or ends the open comment where it stands. So the
loop ends, with at most one turn more than the line has characters, at the end of the line and in
the state that lexing the line leaves. The scans for the ends of literals read nothing behind the
end of the line from wherever they start. -/
theorem advances_until_end (registry : Registry) (text : Text) :
    (∀ cursor : Cursor, cursor.pos < text.length →
      ∃ next, cursor.advance registry text = some next ∧
        next = cursor.behind ((cursor.place text).step registry) ∧
        next.pos ≤ text.length ∧
        (cursor.pos < next.pos ∨
          next.pos = cursor.pos ∧ cursor.state.commentClose.isSome ∧
            next.state.commentClose = none)) ∧
      (∀ state, ∃ last : Cursor, last.pos = text.length ∧
        last.state = (tokenize registry state text).2 ∧
        ∀ count, text.length < count → loop registry text count (front state) = some last) ∧
      (∀ close quote pos, ∃ stop ≤ text.length,
        Text.stringStop? text close quote pos = some stop) ∧
      (∀ pos, ∃ stop?, Text.regexStop? text pos = some stop? ∧
        ∀ stop ∈ stop?, stop ≤ text.length) ∧
      ∀ pos ≤ text.length, ∃ stop ≤ text.length, Text.lettersStop? text pos = some stop := by
  refine ⟨?_, ?_, ?_, ?_, ?_⟩
  · intro cursor hlt
    exact ⟨_, advance_eq hlt, rfl, behind_step_progress registry hlt⟩
  · intro state
    obtain ⟨last, hend, hstate, hloop⟩ := loop_ends registry (front state) (Nat.zero_le text.length)
    rw [tokenize_snd]
    refine ⟨last, hend, hstate, ?_⟩
    intro count hcount
    apply hloop
    rw [turns, front]
    split <;> omega
  · intro close quote pos
    refine ⟨_, ?_, Text.stringStop?_eq close quote pos⟩
    have hsize := stringSize_le close quote (text.drop pos)
    rw [List.length_drop] at hsize
    omega
  · intro pos
    refine ⟨_, Text.regexStop?_eq pos, ?_⟩
    intro stop hstop
    obtain ⟨size, hsize, rfl⟩ := Option.map_eq_some_iff.mp hstop
    obtain ⟨body, hbody, -⟩ := Text.regexSize?_eq_some_iff.mp hsize
    have hslash := regexBodySize?_lt hbody
    have hle := regexSize?_le hsize
    rw [List.length_drop] at hslash hle
    omega
  · intro pos hpos
    refine ⟨_, ?_, Text.lettersStop?_eq pos⟩
    have hletters := ((text.drop pos).takeWhile_sublist Character.isLetter).length_le
    rw [List.length_drop] at hletters
    omega

/-- An empty close of a comment ends the comment where it stands, and the loop goes on behind it. -/
theorem advances_until_end_empty_close :
    let state : LineState := { document := "js", commentClose := some [] }
    let text : Text := ['a', '\\']
    (∃ next, (front state).advance .empty text = some next ∧ next.pos = 0 ∧
      next.state.commentClose = none) ∧
      (∃ last : Cursor, last.pos = 2 ∧ loop .empty text 3 (front state) = some last) ∧
      ∃ stop ≤ 2, Text.lettersStop? text 0 = some stop := by
  intro state text
  obtain ⟨hadvance, hloop, -, -, hletters⟩ := advances_until_end .empty text
  refine ⟨?_, ?_, hletters 0 (by decide)⟩
  · obtain ⟨next, hnext, rfl, -⟩ := hadvance (front state) (by decide)
    exact ⟨_, hnext, by decide, by decide⟩
  · obtain ⟨last, hend, -, hcount⟩ := hloop state
    exact ⟨last, hend, hcount 3 (by decide)⟩

end Cursor

end Lexer

end Indentation
