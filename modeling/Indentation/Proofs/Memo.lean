import Indentation.Proofs.Runs
import Indentation.Context
import Indentation.Decisions

/-!
# What a document answers

A document makes the tokens of its lines when they are asked for and keeps them. As long as it keeps
what lexing from the top gives, every line it hands out is that line of the whole document lexed at
once, whatever it has been asked before.

## Main definitions

* `Fetch.exec` — the answer of a source and the source after it
* `Document.Faithful` — the kept tokens are those of the first lines, lexed from the top

## Main results

* `Document.Faithful.memo_extend` — how far the memo reaches after a demand
* `Document.Faithful.exec_tokens`, `Document.Faithful.exec_demand` — the line that is handed out
* `decideText_of_ok` — decisions about a line, from the document lexed at once
-/

namespace Indentation

namespace Fetch

variable {ε σ α β : Type} {fetch : Fetch ε σ α} {next : α → Fetch ε σ β} {source source' : σ}

/-- The answer of a source and the source after it. -/
def exec (fetch : Fetch ε σ α) (source : σ) : Except ε α × σ :=
  (fetch.run.run source).run

theorem answer_eq_exec : fetch.answer source = (fetch.exec source).1 := rfl

@[simp] theorem exec_pure (a : α) : (pure a : Fetch ε σ α).exec source = (.ok a, source) := rfl

theorem exec_bind :
    (fetch >>= next).exec source =
      ((ExceptT.bindCont next (fetch.exec source).1).run (fetch.exec source).2).run := rfl

theorem exec_bind_of_ok {a : α} (h : fetch.exec source = (.ok a, source')) :
    (fetch >>= next).exec source = (next a).exec source' := by
  rw [exec_bind, h]
  rfl

theorem exec_bind_of_error {e : ε} (h : fetch.exec source = (.error e, source')) :
    (fetch >>= next).exec source = (.error e, source') := by
  rw [exec_bind, h]
  rfl

end Fetch

namespace Lexer

variable (registry : Registry) (state : LineState)

theorem tokenizeLines_append (texts others : List Text) :
    tokenizeLines registry state (texts ++ others) =
      tokenizeLines registry state texts ++
        tokenizeLines registry (stateBehind registry state texts) others := by
  induction texts generalizing state with
  | nil => rfl
  | cons text texts ih => simp [tokenizeLines, stateBehind, ih]

@[simp] theorem length_tokenizeLines (texts : List Text) :
    (tokenizeLines registry state texts).length = texts.length := by
  induction texts generalizing state with
  | nil => rfl
  | cons text texts ih => simp [tokenizeLines, ih]

theorem take_tokenizeLines (texts : List Text) (n : Nat) :
    (tokenizeLines registry state texts).take n = tokenizeLines registry state (texts.take n) := by
  induction texts generalizing state n with
  | nil => simp [tokenizeLines]
  | cons text texts ih => cases n <;> simp [tokenizeLines, ih]

theorem getElem?_tokenizeLines {texts : List Text} {index : Nat} {text : Text}
    (h : texts[index]? = some text) :
    (tokenizeLines registry state texts)[index]? =
      some (tokenize registry (stateBehind registry state (texts.take index)) text) := by
  induction texts generalizing state index with
  | nil => exact absurd h (by simp)
  | cons head texts ih =>
    cases index with
    | zero =>
      obtain rfl := Option.some.inj h
      rfl
    | succ index => exact ih _ h

theorem getLast?_tokenizeLines (texts : List Text) :
    ((tokenizeLines registry state texts).getLast?.map (·.2)).getD state =
      stateBehind registry state texts := by
  induction texts generalizing state with
  | nil => rfl
  | cons text texts ih =>
    rw [tokenizeLines, List.getLast?_cons, stateBehind, List.foldl_cons, ← stateBehind, ← ih]
    cases (tokenizeLines registry (tokenize registry state text).2 texts).getLast? <;> rfl

end Lexer

namespace Document

variable {document : Document}

/-- The tokens that are kept are those of the first lines, lexed from the top. -/
def Faithful (document : Document) : Prop :=
  document.memo = document.lexed.take document.memo.length

@[simp] theorem lexed_extend (count : Nat) : (document.extend count).lexed = document.lexed := rfl

@[simp] theorem index?_extend (count : Nat) (line : Int) :
    (document.extend count).index? line = document.index? line := rfl

theorem faithful_ofText (text : Text) (language : String) (registry : Registry) :
    (ofText text language registry).Faithful := rfl

theorem length_lexed : document.lexed.length = document.lineCount := by
  rw [lexed, Lexer.length_tokenizeLines, lineCount]

namespace Faithful

theorem reached_eq (h : document.Faithful) :
    document.reached =
      Lexer.stateBehind document.registry (.initial document.language)
        (document.lines.take document.memo.length) := by
  rw [← Lexer.getLast?_tokenizeLines, ← Lexer.take_tokenizeLines, ← lexed, ← h, reached]

/-- After a demand the memo reaches as far as the demand, or as before. -/
theorem memo_extend (h : document.Faithful) (count : Nat) :
    (document.extend count).memo = document.lexed.take (max document.memo.length count) := by
  -- the lines that are kept and the missing ones are the first lines of the document
  have hmemo : document.memo = Lexer.tokenizeLines document.registry (.initial document.language)
      (document.lines.take document.memo.length) := by
    rw [← Lexer.take_tokenizeLines, ← lexed]
    exact h
  have hlines : document.lines.take document.memo.length ++
      (document.lines.drop document.memo.length).take (count - document.memo.length) =
      document.lines.take (max document.memo.length count) := by
    rw [← List.take_add]
    congr 1
    omega
  calc
    (document.extend count).memo
      = document.memo ++ Lexer.tokenizeLines document.registry document.reached
          ((document.lines.drop document.memo.length).take (count - document.memo.length)) := rfl
    _ = Lexer.tokenizeLines document.registry (.initial document.language)
          (document.lines.take (max document.memo.length count)) := by
      rw [h.reached_eq, ← hlines, Lexer.tokenizeLines_append, ← hmemo]
    _ = document.lexed.take (max document.memo.length count) :=
      (Lexer.take_tokenizeLines ..).symm

theorem extend (h : document.Faithful) (count : Nat) : (document.extend count).Faithful := by
  rw [Faithful, h.memo_extend, lexed_extend, List.length_take, List.take_eq_take_iff]
  omega

/-- A demand for lines that are there changes nothing. -/
theorem extend_of_le (h : document.Faithful) {count : Nat} (hle : count ≤ document.memo.length) :
    document.extend count = document := by
  have hmemo : (document.extend count).memo = document.memo := by
    rw [h.memo_extend, Nat.max_eq_left hle, ← h]
  obtain ⟨registry, language, lines, memo⟩ := document
  exact congrArg (Document.mk registry language lines) hmemo

theorem length_memo_extend (h : document.Faithful) {count : Nat}
    (hle : count ≤ document.lineCount) :
    count ≤ (document.extend count).memo.length := by
  rw [h.memo_extend, List.length_take, length_lexed]
  omega

end Faithful

theorem index?_eq_ok_iff {line : Int} {index : Nat} :
    document.index? line = .ok index ↔ line = index + 1 ∧ index < document.lineCount := by
  unfold index?
  split
  · rw [Except.ok.injEq]
    omega
  · simp only [reduceCtorEq, false_iff]
    omega

theorem index?_eq_error {line : Int} (h : ¬ (1 ≤ line ∧ line ≤ document.lineCount)) :
    document.index? line = .error ⟨line, document.lineCount⟩ := by
  rw [index?, if_neg h]

theorem exec_force_of_ok {line : Int} {index : Nat} (hindex : document.index? line = .ok index) :
    (force line).exec document = (.ok (), document.extend (index + 1)) := by
  have hget : (get : Fetch Fault Document Document).exec document = (.ok document, document) := rfl
  rw [force, Fetch.exec_bind_of_ok hget, hindex]
  rfl

theorem exec_force_of_error {line : Int} {fault : Fault}
    (hindex : document.index? line = .error fault) :
    (force line).exec document = (.error fault, document) := by
  have hget : (get : Fetch Fault Document Document).exec document = (.ok document, document) := rfl
  rw [force, Fetch.exec_bind_of_ok hget, hindex]
  rfl

theorem exec_tokens_of_error {line : Int} {fault : Fault}
    (hindex : document.index? line = .error fault) :
    (tokens line).exec document = (.error fault, document) := by
  rw [tokens, Fetch.exec_bind_of_error (exec_force_of_error hindex)]

/-- Reading something off a document does not change it. -/
theorem exec_read {α : Type} (read : Document → Except Fault α) :
    Fetch.exec (do read (← get) : Fetch Fault Document α) document = (read document, document) := by
  have hget : (get : Fetch Fault Document Document).exec document = (.ok document, document) := rfl
  rw [Fetch.exec_bind_of_ok hget]
  cases read document <;> rfl

namespace Faithful

variable {line : Int} {index : Nat} {tokens : TokenizedLine} {state : LineState}

/-- The line that is handed out is that line of the document lexed from the top. -/
theorem exec_tokens (h : document.Faithful) (hindex : document.index? line = .ok index)
    (hlexed : document.lexed[index]? = some (tokens, state)) :
    (Document.tokens line).exec document = (.ok tokens, document.extend (index + 1)) := by
  have hmemo : (document.extend (index + 1)).memo[index]? = some (tokens, state) := by
    rw [h.memo_extend, List.getElem?_take_of_lt (by omega), hlexed]
  have hget : (get : Fetch Fault Document Document).exec (document.extend (index + 1)) =
      (.ok (document.extend (index + 1)), document.extend (index + 1)) := rfl
  have hok : (liftM (Except.ok index : Except Fault Nat) : Fetch Fault Document Nat).exec
      (document.extend (index + 1)) = (.ok index, document.extend (index + 1)) := rfl
  rw [Document.tokens, Fetch.exec_bind_of_ok (exec_force_of_ok hindex), Fetch.exec_bind_of_ok hget,
    index?_extend, hindex, Fetch.exec_bind_of_ok hok, hmemo]
  rfl

theorem exec_demand (h : document.Faithful) (hindex : document.index? line = .ok index)
    (hlexed : document.lexed[index]? = some (tokens, state)) :
    (Document.source.demand line).exec document = (.ok tokens, document.extend (index + 1)) := by
  have hlt := (index?_eq_ok_iff.mp hindex).2
  have hforce : (Document.source.force line).exec document =
      (.ok (), document.extend (index + 1)) := exec_force_of_ok hindex
  have htokens : (Document.source.tokens line).exec (document.extend (index + 1)) =
      (.ok tokens, (document.extend (index + 1)).extend (index + 1)) :=
    (h.extend _).exec_tokens hindex hlexed
  rw [LineSource.demand, Fetch.exec_bind_of_ok hforce, htokens,
    (h.extend _).extend_of_le (h.length_memo_extend hlt)]

theorem exec_demand_of_error {fault : Fault} (hindex : document.index? line = .error fault) :
    (Document.source.demand line).exec document = (.error fault, document) := by
  have hforce : (Document.source.force line).exec document = (.error fault, document) :=
    exec_force_of_error hindex
  rw [LineSource.demand, Fetch.exec_bind_of_error hforce]

end Faithful

end Document

/-- The decisions about a line with the given tokens, with `indent?` as its margin if given. -/
def Registry.decideTokens (registry : Registry) (tokens : TokenizedLine) (indent? : Option Text) :
    Decisions :=
  ((registry.rules? tokens.first.language).getD {}).decide
    ((registry.sanitize tokens).reindent? indent?)

section Decisions

variable {text : Text} {line : Int} {language : String} {registry : Registry}
  {indent? : Option Text}

open Document

/-- The decisions about a line are those about its tokens in the document lexed from the top. -/
theorem decideText_of_ok {index : Nat} {tokens : TokenizedLine} {state : LineState}
    (hindex : (ofText text language registry).index? line = .ok index)
    (hlexed : (ofText text language registry).lexed[index]? = some (tokens, state)) :
    decideText text line language registry indent? =
      .ok (registry.decideTokens tokens indent?) := by
  have h := faithful_ofText text language registry
  have hlt := (index?_eq_ok_iff.mp hindex).2
  have htokens : (Document.source.tokens line).exec ((ofText text language registry).extend
      (index + 1)) = (.ok tokens, ((ofText text language registry).extend (index + 1)).extend
        (index + 1)) := (h.extend _).exec_tokens hindex hlexed
  rw [decideText, Fetch.answer_eq_exec, decideLine,
    Fetch.exec_bind_of_ok (h.exec_demand hindex hlexed)]
  dsimp only
  rw [sanitizeLine, bind_assoc, Fetch.exec_bind_of_ok htokens]
  rfl

theorem decideText_of_error {fault : Document.Fault}
    (hindex : (ofText text language registry).index? line = .error fault) :
    decideText text line language registry indent? = .error fault := by
  rw [decideText, Fetch.answer_eq_exec, decideLine,
    Fetch.exec_bind_of_error (Faithful.exec_demand_of_error hindex)]

/-- Two documents with equally many lines decide the same about a line if its tokens do. -/
theorem decideText_congr {other : Text}
    (hcount : (ofText other language registry).lineCount =
      (ofText text language registry).lineCount)
    (hlexed : ∀ (index : Nat) (tokens : TokenizedLine) (state : LineState),
      (ofText text language registry).lexed[index]? = some (tokens, state) →
        ∃ tokens' state', (ofText other language registry).lexed[index]? = some (tokens', state') ∧
          registry.decideTokens tokens' indent? = registry.decideTokens tokens indent?) :
    decideText other line language registry indent? =
      decideText text line language registry indent? := by
  have hsame : (ofText other language registry).index? line =
      (ofText text language registry).index? line := by
    rw [index?, index?, hcount]
  -- the fault names the line and the number of lines, which are the same
  cases hindex : (ofText text language registry).index? line with
  | error fault =>
    rw [decideText_of_error hindex, decideText_of_error (hsame.trans hindex)]
  | ok index =>
    have hlt : index < (ofText text language registry).lexed.length := by
      rw [length_lexed]
      exact (index?_eq_ok_iff.mp hindex).2
    have hsome := List.getElem?_eq_getElem hlt
    obtain ⟨tokens, state, hother, hdecide⟩ := hlexed index _ _ hsome
    rw [decideText_of_ok hindex hsome, decideText_of_ok (hsame.trans hindex) hother, hdecide]

end Decisions

end Indentation
