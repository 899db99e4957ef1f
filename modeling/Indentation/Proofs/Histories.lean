import Indentation.Proofs.CaretContext

/-!
# Documents that are asked many questions

A document makes tokens when they are asked for, and a question may fail after some have been made.
Still the order of the questions does not show in the answers: asked of a document of which any
number of first lines has been lexed, a question gets one and the same answer, and afterwards the
document is lexed as far as before or as the question requires. What it requires is told by a
document that records the lines whose tokens are asked for.

Everything that is asked goes through a source of lines, so this is shown for the few things that a
source can be asked, and for what is put together from them.

## Main definitions

* `Query`, `Query.run` — a question, and how it is put to a source
* `respond` — the answers to questions that are asked one after the other
* `Recorded` — a document and the lines whose tokens have been asked for
* `Document.upTo` — the document of which some first lines have been lexed
* `Document.farthest` — the last of some lines that the document has
* `Document.Asks` — a question with its answer and what it requires, however far the document has
  been lexed

## Main results

* `Document.extend_upTo` — making the tokens of further lines
* `Document.Settled.bind` — questions that are put together
* `Document.settled_run` — each question has one answer
* `Document.respond_ofText` — any questions in any order
-/

namespace Indentation

/-! ### Questions -/

/-- What can be asked of a document: also the text of a line. -/
structure TextSource (ε σ : Type) extends LineSource ε σ where
  content : Int → Fetch ε σ Text

/-- A question about a document. -/
inductive Query where
  | content (line : Int)
  | maxColumn (line : Int)
  | force (line : Int)
  | tokens (line : Int)
  | sanitize (registry : Registry) (line : Int) (indent? : Option Text)
  | context (registry : Registry) (range : Range)
  | decide (registry : Registry) (line : Int) (indent? : Option Text)

/-- An answer to a question. -/
inductive Answer where
  | text (text : Text)
  | column (column : Int)
  | done
  | line (line : TokenizedLine)
  | context (context : Context)
  | decisions (decisions : Decisions)

/-- Puts a question to a source. -/
def Query.run {ε σ : Type} (source : TextSource ε σ) : Query → Fetch ε σ Answer
  | content line => return .text (← source.content line)
  | maxColumn line => return .column (← source.maxColumn line)
  | force line => do
    source.force line
    return .done
  | tokens line => return .line (← source.tokens line)
  | sanitize registry line indent? =>
    return .text (← sanitizeLine source.toLineSource registry line indent?)
  | context registry range => return .context (← extractContext source.toLineSource registry range)
  | decide registry line indent? =>
    return .decisions (← decideLine source.toLineSource registry line indent?)

/-- The answers to questions that are asked one after the other, and the source after them. -/
def respond {ε σ : Type} (source : TextSource ε σ) (state : σ) :
    List Query → List (Except ε Answer) × σ
  | [] => ([], state)
  | query :: queries =>
    let first := (query.run source).exec state
    let others := respond source first.2 queries
    (first.1 :: others.1, others.2)

namespace Document

/-- A document as a source of lines and texts. -/
def textSource : TextSource Fault Document where
  toLineSource := source
  content line := do (← get).content line

/-! ### Documents that are lexed in part -/

/-- The document of which the first `count` lines have been lexed. -/
def upTo (document : Document) (count : Nat) : Document :=
  { document with memo := document.lexed.take count }

/-- The number of the last of some lines that the document has, or 0. -/
def farthest (document : Document) (requests : List Int) : Nat :=
  ((requests.filter fun line : Int => 1 ≤ line ∧ line ≤ document.lineCount).map Int.toNat).foldr
    max 0

section UpTo

variable {document : Document}

@[simp] theorem lexed_upTo (count : Nat) : (document.upTo count).lexed = document.lexed := rfl

theorem faithful_upTo (count : Nat) : (document.upTo count).Faithful := by
  rw [Faithful, upTo]
  simp [lexed]

/-- Making the tokens of further lines. -/
theorem extend_upTo (k n : Nat) : (document.upTo k).extend n = document.upTo (max k n) := by
  have hmemo : ((document.upTo k).extend n).memo = document.lexed.take (max k n) := by
    rw [(faithful_upTo k).memo_extend, lexed_upTo, List.take_eq_take_iff]
    simp only [upTo, List.length_take]
    omega
  exact congrArg (Document.mk document.registry document.language document.lines) hmemo

@[simp] theorem farthest_nil : document.farthest [] = 0 := rfl

theorem farthest_cons (line : Int) (requests : List Int) :
    document.farthest (line :: requests) =
      max (document.farthest [line]) (document.farthest requests) := by
  unfold farthest
  by_cases h : 1 ≤ line ∧ line ≤ document.lineCount <;> simp [h]

theorem farthest_append (requests others : List Int) :
    document.farthest (requests ++ others) =
      max (document.farthest requests) (document.farthest others) := by
  induction requests with
  | nil => simp
  | cons line requests ih => rw [List.cons_append, farthest_cons, ih, farthest_cons line requests,
      Nat.max_assoc]

theorem farthest_of_ok {line : Int} {index : Nat} (h : document.index? line = .ok index) :
    document.farthest [line] = index + 1 := by
  obtain ⟨rfl, hlt⟩ := index?_eq_ok_iff.mp h
  have hrange : 1 ≤ (index : Int) + 1 ∧ (index : Int) + 1 ≤ document.lineCount := by omega
  simp [farthest, hrange]

theorem farthest_of_error {line : Int} {fault : Fault} (h : document.index? line = .error fault) :
    document.farthest [line] = 0 := by
  have hrange : ¬ (1 ≤ line ∧ line ≤ document.lineCount) := by
    intro hrange
    rw [index?, if_pos hrange] at h
    cases h
  simp [farthest, hrange]

end UpTo

end Document

/-! ### Recorded requests -/

/-- A document and the lines whose tokens have been asked for, last first. -/
structure Recorded where
  document : Document
  requests : List Int := []

namespace Recorded

open Document (Fault)

/-- Asks the document and records nothing. -/
def ask {α : Type} (fetch : Fetch Fault Document α) : Fetch Fault Recorded α :=
  ExceptT.mk fun recorded =>
    let (answer, document) := fetch.exec recorded.document
    pure (answer, { recorded with document })

/-- Records that the tokens of a line are asked for. -/
def request (line : Int) : Fetch Fault Recorded Unit :=
  modify fun recorded => { recorded with requests := line :: recorded.requests }

/-- A recorded document as a source of lines and texts. -/
def textSource : TextSource Fault Recorded where
  force line := do
    request line
    ask (Document.force line)
  tokens line := do
    request line
    ask (Document.tokens line)
  maxColumn line := ask (Document.source.maxColumn line)
  content line := ask (Document.textSource.content line)

variable {α : Type} {document : Document} {requests : List Int}

theorem exec_ask (fetch : Fetch Fault Document α) :
    (ask fetch).exec ⟨document, requests⟩ =
      ((fetch.exec document).1, ⟨(fetch.exec document).2, requests⟩) := rfl

theorem exec_request_ask (line : Int) (fetch : Fetch Fault Document α) :
    (request line >>= fun _ => ask fetch).exec ⟨document, requests⟩ =
      ((fetch.exec document).1, ⟨(fetch.exec document).2, line :: requests⟩) := rfl

end Recorded

namespace Document

/-- Of `document`, however far it has been lexed, `plain` asks a question that has the given answer
and for which the tokens of the lines `requests` are asked for; so does `recorded`, which records
them. -/
structure Asks {α : Type} (document : Document) (plain : Fetch Fault Document α)
    (recorded : Fetch Fault Recorded α) (answer : Except Fault α) (requests : List Int) : Prop where
  exec : ∀ k, plain.exec (document.upTo k) =
    (answer, document.upTo (max k (document.farthest requests)))
  exec_recorded : ∀ k earlier, recorded.exec ⟨document.upTo k, earlier⟩ =
    (answer, ⟨document.upTo (max k (document.farthest requests)), requests ++ earlier⟩)

/-- Of `document` both `plain` and `recorded` ask the same question. -/
def Settled {α : Type} (document : Document) (plain : Fetch Fault Document α)
    (recorded : Fetch Fault Recorded α) : Prop :=
  ∃ answer requests, document.Asks plain recorded answer requests

section Settled

variable {α β : Type} {document : Document} {plain : Fetch Fault Document α}
  {recorded : Fetch Fault Recorded α}

theorem settled_pure (a : α) : document.Settled (pure a) (pure a) := by
  refine ⟨.ok a, [], fun k => ?_, fun k earlier => ?_⟩
  · rw [farthest_nil, Nat.max_zero, Fetch.exec_pure]
  · rw [farthest_nil, Nat.max_zero, Fetch.exec_pure, List.nil_append]

/-- A question that is put together from two has one answer if they have. -/
theorem Settled.bind {next : α → Fetch Fault Document β} {next' : α → Fetch Fault Recorded β}
    (h : document.Settled plain recorded)
    (hnext : ∀ a, document.Settled (next a) (next' a)) :
    document.Settled (plain >>= next) (recorded >>= next') := by
  obtain ⟨answer, requests, hplain, hrecorded⟩ := h
  cases answer with
  | error fault =>
    -- the second question is not asked, but what the first one has made is kept
    refine ⟨.error fault, requests, fun k => ?_, fun k earlier => ?_⟩
    · rw [Fetch.exec_bind_of_error (hplain k)]
    · rw [Fetch.exec_bind_of_error (hrecorded k earlier)]
  | ok a =>
    -- the second question meets a document that is lexed further, which it does not notice
    obtain ⟨answer, others, hplain', hrecorded'⟩ := hnext a
    refine ⟨answer, others ++ requests, fun k => ?_, fun k earlier => ?_⟩
    · rw [Fetch.exec_bind_of_ok (hplain k), hplain', farthest_append, Nat.max_assoc,
        Nat.max_comm (document.farthest others)]
    · rw [Fetch.exec_bind_of_ok (hrecorded k earlier), hrecorded', farthest_append, Nat.max_assoc,
        Nat.max_comm (document.farthest others), List.append_assoc]

theorem Settled.ite {c : Prop} [Decidable c] {plain' : Fetch Fault Document α}
    {recorded' : Fetch Fault Recorded α} (h : document.Settled plain recorded)
    (h' : document.Settled plain' recorded') :
    document.Settled (if c then plain else plain') (if c then recorded else recorded') := by
  by_cases hc : c
  · rwa [if_pos hc, if_pos hc]
  · rwa [if_neg hc, if_neg hc]

/-- A question for which no tokens are asked for. -/
theorem settled_ask {answer : Except Fault α}
    (h : ∀ k, plain.exec (document.upTo k) = (answer, document.upTo k)) :
    document.Settled plain (Recorded.ask plain) := by
  refine ⟨answer, [], fun k => ?_, fun k earlier => ?_⟩
  · rw [farthest_nil, Nat.max_zero, h]
  · rw [farthest_nil, Nat.max_zero, Recorded.exec_ask, h, List.nil_append]

/-- A question for which the tokens of one line are asked for. -/
theorem settled_request {line : Int} {answer : Except Fault α}
    (h : ∀ k, plain.exec (document.upTo k) =
      (answer, document.upTo (max k (document.farthest [line])))) :
    document.Settled plain (Recorded.request line >>= fun _ => Recorded.ask plain) := by
  refine ⟨answer, [line], h, fun k earlier => ?_⟩
  rw [Recorded.exec_request_ask, h]
  rfl

end Settled

/-! ### What a document is asked -/

section Sources

variable (document : Document) (line : Int)

theorem settled_force :
    document.Settled (textSource.force line) (Recorded.textSource.force line) := by
  cases hindex : document.index? line with
  | ok index =>
    apply settled_request
    intro k
    rw [farthest_of_ok hindex, ← extend_upTo]
    exact exec_force_of_ok hindex
  | error fault =>
    apply settled_request
    intro k
    rw [farthest_of_error hindex, Nat.max_zero]
    exact exec_force_of_error hindex

theorem settled_tokens :
    document.Settled (textSource.tokens line) (Recorded.textSource.tokens line) := by
  cases hindex : document.index? line with
  | ok index =>
    obtain ⟨tokens, state, hlexed⟩ := exists_lexed hindex
    apply settled_request
    intro k
    rw [farthest_of_ok hindex, ← extend_upTo]
    exact (faithful_upTo k).exec_tokens hindex hlexed
  | error fault =>
    apply settled_request
    intro k
    rw [farthest_of_error hindex, Nat.max_zero]
    exact exec_tokens_of_error hindex

theorem settled_maxColumn :
    document.Settled (textSource.maxColumn line) (Recorded.textSource.maxColumn line) :=
  @settled_ask _ _ _ (document.maxColumn line) fun _ => exec_read (·.maxColumn line)

theorem settled_content :
    document.Settled (textSource.content line) (Recorded.textSource.content line) :=
  @settled_ask _ _ _ (document.content line) fun _ => exec_read (·.content line)

theorem settled_demand :
    document.Settled (source.demand line) (Recorded.textSource.demand line) :=
  (document.settled_force line).bind fun _ => document.settled_tokens line

theorem settled_sanitizeLine (registry : Registry) (indent? : Option Text) :
    document.Settled (sanitizeLine source registry line indent?)
      (sanitizeLine Recorded.textSource.toLineSource registry line indent?) :=
  (document.settled_tokens line).bind fun _ => settled_pure _

theorem settled_decideLine (registry : Registry) (indent? : Option Text) :
    document.Settled (decideLine source registry line indent?)
      (decideLine Recorded.textSource.toLineSource registry line indent?) := by
  refine (document.settled_demand line).bind fun tokens => ?_
  exact (document.settled_sanitizeLine line registry indent?).bind fun _ => settled_pure _

theorem settled_extractContext (registry : Registry) (range : Range) :
    document.Settled (extractContext source registry range)
      (extractContext Recorded.textSource.toLineSource registry range) := by
  refine (document.settled_demand range.start.line).bind fun line => ?_
  let scope := line.scopeAt (range.start.column - 1)
  let before := Context.textBefore registry scope line range.start.column
  -- the line above comes last, behind a caret as well as behind a selection
  have habove (after : Text) := Settled.ite (c := 1 ≤ range.start.line - 1 ∧ scope.startsLine)
    ((document.settled_demand (range.start.line - 1)).bind fun above =>
      (document.settled_maxColumn (range.start.line - 1)).bind fun maxColumn =>
        (settled_pure (Context.textAbove registry scope above maxColumn)).bind fun previousLine =>
          settled_pure (Context.mk before after previousLine))
    ((settled_pure []).bind fun previousLine => settled_pure (Context.mk before after previousLine))
  exact .ite ((settled_pure _).bind habove)
    ((document.settled_demand range.stop.line).bind fun _ => (settled_pure _).bind habove)

/-- However far a document has been lexed, a question has one answer. -/
theorem settled_run (query : Query) :
    document.Settled (query.run textSource) (query.run Recorded.textSource) := by
  cases query with
  | content line => exact (document.settled_content line).bind fun _ => settled_pure _
  | maxColumn line => exact (document.settled_maxColumn line).bind fun _ => settled_pure _
  | force line => exact (document.settled_force line).bind fun _ => settled_pure _
  | tokens line => exact (document.settled_tokens line).bind fun _ => settled_pure _
  | sanitize registry line indent? =>
    exact (document.settled_sanitizeLine line registry indent?).bind fun _ => settled_pure _
  | context registry range =>
    exact (document.settled_extractContext registry range).bind fun _ => settled_pure _
  | decide registry line indent? =>
    exact (document.settled_decideLine line registry indent?).bind fun _ => settled_pure _

end Sources

/-! ### Histories -/

/-- The answers to questions in any order do not depend on how far the document has been lexed, and
afterwards it is lexed as far as before or as the requests go. -/
theorem respond_upTo (document : Document) (queries : List Query) (k : Nat) (earlier : List Int) :
    ∃ requests,
      respond textSource (document.upTo k) queries =
        (queries.map fun query => (query.run textSource).answer (document.upTo 0),
          document.upTo (max k (document.farthest requests))) ∧
      (respond Recorded.textSource ⟨document.upTo k, earlier⟩ queries).2 =
        ⟨document.upTo (max k (document.farthest requests)), requests ++ earlier⟩ := by
  -- each question leaves a document that is lexed up to another line
  induction queries generalizing k earlier with
  | nil => exact ⟨[], by simp [respond], by simp [respond]⟩
  | cons query queries ih =>
    obtain ⟨answer, requests, hasks⟩ := document.settled_run query
    obtain ⟨others, hrespond, hrecorded⟩ := ih (max k (document.farthest requests))
      (requests ++ earlier)
    have hmax : max (max k (document.farthest requests)) (document.farthest others) =
        max k (document.farthest (others ++ requests)) := by
      rw [farthest_append, Nat.max_assoc, Nat.max_comm (document.farthest others)]
    refine ⟨others ++ requests, ?_, ?_⟩
    · rw [respond, hasks.exec, hrespond, hmax, List.map_cons, Fetch.answer_eq_exec, hasks.exec]
    · rw [respond, hasks.exec_recorded, hrecorded, hmax, List.append_assoc]

/-- A document that has been asked any questions in any order holds the tokens of its first lines,
lexed from the top, up to the last line whose tokens have been asked for. It has answered each
question as if that had been the only one, and it answers what is asked for lines that it does not
have with a fault and stays as it is. -/
theorem respond_ofText (text : Text) (language : String) (registry : Registry)
    (queries : List Query) :
    let document := ofText text language registry
    let asked := respond textSource document queries
    let recorded := (respond Recorded.textSource ⟨document, []⟩ queries).2
    recorded.document = asked.2 ∧
      asked.2.memo = document.lexed.take (document.farthest recorded.requests) ∧
      asked.1 = queries.map (fun query => (query.run textSource).answer document) ∧
      ∀ line : Int, ¬ (1 ≤ line ∧ line ≤ document.lineCount) →
        (force line).exec asked.2 = (.error ⟨line, document.lineCount⟩, asked.2) ∧
        (tokens line).exec asked.2 = (.error ⟨line, document.lineCount⟩, asked.2) := by
  intro document asked recorded
  have hfresh : document.upTo 0 = document := rfl
  obtain ⟨requests, hrespond, hrecorded⟩ := document.respond_upTo queries 0 []
  rw [hfresh, Nat.zero_max] at hrespond
  rw [hfresh, Nat.zero_max, List.append_nil] at hrecorded
  have hrequests : recorded.requests = requests := congrArg Recorded.requests hrecorded
  have hasked : asked.2 = document.upTo (document.farthest requests) := congrArg Prod.snd hrespond
  refine ⟨?_, ?_, congrArg Prod.fst hrespond, fun line hline => ?_⟩
  · rw [hasked]
    exact congrArg Recorded.document hrecorded
  · rw [hasked, hrequests]
    rfl
  · have hindex := @index?_eq_error document line hline
    rw [hasked]
    exact ⟨exec_force_of_error hindex, exec_tokens_of_error hindex⟩

/-- A selection whose last line does not exist fails, but only after the tokens of the lines up to
its first one have been made. -/
theorem respond_ofText_missing_stop :
    let document := ofText "a\nb\nc".toList "plaintext" .builtin
    let queries := [Query.context .builtin (.between 2 1 9 1)]
    (respond textSource document queries).2.memo = document.lexed.take 2 ∧
      ¬ (1 ≤ (9 : Int) ∧ (9 : Int) ≤ document.lineCount) ∧
      (force 9).exec (respond textSource document queries).2 =
        (.error ⟨9, 3⟩, (respond textSource document queries).2) := by
  intro document queries
  have hindex : document.index? 2 = .ok 1 := by decide
  have hmissing : document.index? 9 = .error ⟨9, 3⟩ := by decide
  obtain ⟨tokens, state, hlexed⟩ := exists_lexed hindex
  -- the first line is demanded, which asks for it twice, and then the last line fails
  have hforce : (Recorded.textSource.force 2).exec ⟨document, []⟩ =
      (.ok (), ⟨document.extend 2, [2]⟩) := by
    have hexec := exec_force_of_ok hindex
    change (Recorded.request 2 >>= fun _ => Recorded.ask (force 2)).exec _ = _
    rw [Recorded.exec_request_ask, hexec]
  have htokens : (Recorded.textSource.tokens 2).exec ⟨document.extend 2, [2]⟩ =
      (.ok tokens, ⟨(document.extend 2).extend 2, [2, 2]⟩) := by
    have hfresh : document.Faithful := faithful_ofText ..
    have hexec := (hfresh.extend 2).exec_tokens hindex hlexed
    change (Recorded.request 2 >>= fun _ => Recorded.ask (Document.tokens 2)).exec _ = _
    rw [Recorded.exec_request_ask, hexec]
  have hstop : (Recorded.textSource.force 9).exec ⟨(document.extend 2).extend 2, [2, 2]⟩ =
      (.error ⟨9, 3⟩, ⟨(document.extend 2).extend 2, [9, 2, 2]⟩) := by
    have hexec := @exec_force_of_error ((document.extend 2).extend 2) 9 _ hmissing
    change (Recorded.request 9 >>= fun _ => Recorded.ask (force 9)).exec _ = _
    rw [Recorded.exec_request_ask, hexec]
  have hcontext : (extractContext Recorded.textSource.toLineSource .builtin
      (.between 2 1 9 1)).exec ⟨document, []⟩ =
      (.error ⟨9, 3⟩, ⟨(document.extend 2).extend 2, [9, 2, 2]⟩) := by
    have hdemand : (Recorded.textSource.demand 2).exec ⟨document, []⟩ =
        (.ok tokens, ⟨(document.extend 2).extend 2, [2, 2]⟩) := by
      rw [LineSource.demand, Fetch.exec_bind_of_ok hforce, htokens]
    have hdemand' : (Recorded.textSource.demand 9).exec ⟨(document.extend 2).extend 2, [2, 2]⟩ =
        (.error ⟨9, 3⟩, ⟨(document.extend 2).extend 2, [9, 2, 2]⟩) := by
      rw [LineSource.demand, Fetch.exec_bind_of_error hstop]
    rw [extractContext, Range.between, Fetch.exec_bind_of_ok hdemand]
    exact Fetch.exec_bind_of_error hdemand'
  have hrequests : (respond Recorded.textSource ⟨document, []⟩ queries).2.requests = [9, 2, 2] := by
    change ((Query.context .builtin (.between 2 1 9 1)).run
      Recorded.textSource).exec ⟨document, []⟩ |>.2.requests = _
    rw [Query.run, Fetch.exec_bind_of_error hcontext]
  obtain ⟨-, hmemo, -, hfault⟩ := respond_ofText "a\nb\nc".toList "plaintext" .builtin queries
  rw [hrequests] at hmemo
  exact ⟨hmemo, by decide, (hfault 9 (by decide)).1⟩

end Document

end Indentation
