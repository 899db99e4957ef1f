import Indentation.Proofs.Runs

/-!
# Emitted tokens are runs of labels

The lexer emits a token at every step, but the tokens of a line can also be told without the steps:
they are the maximal runs of characters with one label, where a character has the label of the step
that takes it. Between two steps the emitted tokens are the runs of the characters taken so far,
with at most one token behind them that has no characters yet. The next step drops this token or
goes on with it, and such a token is never left at the end of a line, since a step without
characters always has another one behind it.

## Main definitions

* `TokenizedLine.runs` — the tokens of labelled characters, one for each maximal run
* `TokenizedLine.runsWith` — the same, if characters with a given label follow
* `Lexer.Emits` — what has been emitted between two steps

## Main results

* `Lexer.Emits.emit_eq` — what the next step emits
* `Lexer.Emits.emitSteps_eq` — what all steps that are left emit
* `Lexer.tokenize_eq` — the tokens of a line are the runs of its labels
-/

namespace Indentation

/-! ### Runs of labels -/

namespace TokenizedLine

variable {label : Label} {labels done : List Label}

theorem mem_changes {previous : Label} {offset : Nat} {token : Token}
    (h : token ∈ changes previous offset labels) :
    offset ≤ token.start ∧ token.start < offset + labels.length := by
  induction labels generalizing previous offset with
  | nil => exact absurd h List.not_mem_nil
  | cons label labels ih =>
    rw [changes] at h
    rw [List.length_cons]
    split at h
    · have := ih h
      omega
    · rcases List.mem_cons.mp h with rfl | hmem
      · dsimp only
        omega
      · have := ih hmem
        omega

theorem getLast?_changes (previous : Label) (offset : Nat) (labels : List Label) :
    ((changes previous offset labels).getLast?.map (·.toLabel)).getD previous =
      labels.getLast?.getD previous := by
  induction labels generalizing previous offset with
  | nil => rfl
  | cons label labels ih =>
    rw [changes, List.getLast?_cons, Option.getD_some]
    split
    · rename_i heq
      rw [heq]
      exact ih previous (offset + 1)
    · rw [List.getLast?_cons, Option.map_some, Option.getD_some, ← ih label (offset + 1)]
      cases (changes label (offset + 1) labels).getLast? <;> rfl

theorem changes_replicate (label : Label) (offset n : Nat) :
    changes label offset (List.replicate n label) = [] := by
  induction n generalizing offset with
  | zero => rfl
  | succ n ih => rw [List.replicate_succ, changes, if_pos rfl, ih]

theorem changes_append (previous : Label) (offset : Nat) (labels others : List Label) :
    changes previous offset (labels ++ others) = changes previous offset labels ++
      changes (labels.getLast?.getD previous) (offset + labels.length) others := by
  induction labels generalizing previous offset with
  | nil => rfl
  | cons label labels ih =>
    have hoffset : offset + (label :: labels).length = offset + 1 + labels.length := by
      rw [List.length_cons]
      omega
    rw [List.cons_append, changes, changes, hoffset, List.getLast?_cons, Option.getD_some]
    split
    · rename_i heq
      rw [heq]
      exact ih previous (offset + 1)
    · rw [List.cons_append, ih label (offset + 1)]

/-- The tokens of labelled characters: one for each maximal run of equal labels. -/
def runs : List Label → List Token
  | [] => []
  | label :: labels => { label with start := 0 } :: changes label 1 labels

/-- The tokens of labelled characters, behind which characters with a given label follow. -/
def runsWith (done : List Label) (label : Label) : List Token :=
  if done.getLast? = some label then
    runs done
  else
    runs done ++ [{ label with start := done.length }]

theorem tokens_ofLabels (text : Text) (blank : Label) (h : labels ≠ []) :
    (ofLabels text blank labels).tokens = runs labels := by
  cases labels with
  | nil => exact absurd rfl h
  | cons => rfl

/-- The last run has the label of the last character, and starts in front of or with it. -/
theorem getLast?_runs (h : done.getLast? = some label) :
    ∃ start < done.length, (runs done).getLast? = some { label with start } := by
  cases done with
  | nil => cases h
  | cons first labels =>
    have hlabel := getLast?_changes first 1 labels
    rw [List.getLast?_cons] at h
    rw [runs, List.getLast?_cons, List.length_cons]
    rw [Option.some.inj h] at hlabel
    cases hchanges : (changes first 1 labels).getLast? with
    | none =>
      rw [hchanges] at hlabel
      obtain rfl : first = label := hlabel
      exact ⟨0, Nat.succ_pos _, rfl⟩
    | some token =>
      rw [hchanges] at hlabel
      obtain rfl : token.toLabel = label := hlabel
      have hstart := (mem_changes (List.mem_of_getLast? hchanges)).2
      exact ⟨token.start, by omega, rfl⟩

/-- Further characters with one label make the last run longer, or another run. -/
theorem runs_append_replicate (done : List Label) (label : Label) (n : Nat) :
    runs (done ++ List.replicate (n + 1) label) = runsWith done label := by
  cases done with
  | nil =>
    rw [List.nil_append, List.replicate_succ, runs, changes_replicate]
    rfl
  | cons first labels =>
    rw [List.cons_append, runs, changes_append, List.replicate_succ, changes, runsWith, runs,
      List.getLast?_cons, List.length_cons, Nat.add_comm 1]
    split
    · rename_i heq
      rw [if_pos (congrArg some heq.symm), ← heq, changes_replicate, List.append_nil]
    · rename_i hne
      rw [if_neg (fun heq => hne (Option.some.inj heq).symm), changes_replicate, List.cons_append]

theorem ofFront_eq {text : Text} {tokens : List Token} {line : TokenizedLine}
    (h : tokens.head?.map (·.start) = some 0) (htext : line.text = text)
    (htokens : tokens = line.tokens) : ofFront text tokens h = line := by
  subst htext htokens
  rfl

end TokenizedLine

/-! ### What the steps emit -/

namespace Lexer

open TokenizedLine

/-- What has been emitted, the last token in front, when characters with the labels `done` have been
taken: their runs, and perhaps a token behind them that has no characters yet. -/
def Emits (done : List Label) (emitted : List Token) : Prop :=
  emitted = (runs done).reverse ∨
    ∃ label, done.getLast? ≠ some label ∧
      emitted = { label with start := done.length } :: (runs done).reverse

variable {registry : Registry} {done : List Label} {emitted : List Token}

theorem emits_runsWith (done : List Label) (label : Label) :
    Emits done (runsWith done label).reverse := by
  rw [runsWith]
  split
  · exact .inl rfl
  · rename_i hne
    exact .inr ⟨label, hne, List.reverse_concat ..⟩

theorem emit_reverse_runs (done : List Label) (label : Label) :
    emit done.length label (runs done).reverse = (runsWith done label).reverse := by
  rw [runsWith]
  cases hlast : done.getLast? with
  | none =>
    obtain rfl := List.getLast?_eq_none_iff.mp hlast
    rfl
  | some last =>
    obtain ⟨start, hstart, hrun⟩ := getLast?_runs hlast
    obtain ⟨others, hruns⟩ := List.getLast?_eq_some_iff.mp hrun
    rw [hruns, List.reverse_concat, emit]
    by_cases heq : last = label
    · rw [if_pos heq, if_pos (congrArg some heq), List.reverse_concat]
    · rw [if_neg heq, if_neg (Nat.ne_of_lt hstart), if_neg (fun h => heq (Option.some.inj h)),
        List.reverse_concat, List.reverse_concat]

/-- A token without characters is dropped for a token with another label, which then joins the run
in front of it or follows that run; and a token with the same label stays. -/
theorem Emits.emit_eq (h : Emits done emitted) (label : Label) :
    emit done.length label emitted = (runsWith done label).reverse := by
  obtain rfl | ⟨pending, hpending, rfl⟩ := h
  · exact emit_reverse_runs done label
  · rw [emit]
    by_cases heq : pending = label
    · subst heq
      rw [if_pos rfl, runsWith, if_neg hpending, List.reverse_concat]
    · rw [if_neg heq, if_pos rfl, emit_reverse_runs]

/-- The steps at a place and behind it emit the runs of all labels, provided that no token without
characters is left at the end. -/
theorem Emits.emitSteps_eq {place : Place} (h : Emits done emitted)
    (hend : place.rest = [] → emitted = (runs done).reverse) :
    emitSteps registry place.state place.operand done.length emitted place.rest =
      ((runs (done ++ (place.labels registry).1)).reverse, (place.labels registry).2) := by
  induction place using Place.induction registry generalizing done emitted with
  | stop place hrest =>
    rw [emitSteps, dif_pos hrest, hend hrest, Place.labels_of_rest_eq_nil hrest, List.append_nil]
  | step place hrest ih =>
    rw [emitSteps, dif_neg hrest, Place.labels_of_rest_ne_nil hrest, ← List.append_assoc]
    change emitSteps registry (place.next registry).state (place.next registry).operand
      (done.length + (place.step registry).size)
      (emit done.length (place.step registry).label emitted) (place.next registry).rest = _
    rw [h.emit_eq]
    cases hsize : (place.step registry).size with
    | zero =>
      rw [List.replicate_zero, List.append_nil]
      refine ih (emits_runsWith done _) fun hnext => ?_
      rw [Place.next, hsize, List.drop_zero] at hnext
      exact absurd hnext hrest
    | succ n =>
      have hlength : done.length + (n + 1) =
          (done ++ List.replicate (n + 1) (place.step registry).label).length := by
        rw [List.length_append, List.length_replicate]
      rw [hlength, ← runs_append_replicate done _ n]
      exact ih (.inl rfl) fun _ => rfl

variable (registry) (state : LineState) (text : Text)

theorem emitSteps_front :
    emitSteps registry state none 0 [] text =
      ((runs (labels registry state none text).1).reverse, (labels registry state none text).2) :=
  @Emits.emitSteps_eq registry [] [] (.front state text) (.inl rfl) fun _ => rfl

/-- The tokens emitted for a line are those of its labels. -/
theorem emission_eq :
    emission registry state text =
      ((ofLabels text (blankLabel state) (labels registry state none text).1).tokens,
        (labels registry state none text).2) := by
  rw [emission, emitSteps_front]
  dsimp only
  by_cases htext : text = []
  · have hlabels : labels registry state none text = ([], state) :=
      @Place.labels_of_rest_eq_nil registry (.front state text) htext
    rw [hlabels]
    rfl
  · have hlabels : (labels registry state none text).1 ≠ [] := by
      have hlength : (labels registry state none text).1.length = text.length :=
        @Place.length_labels registry (.front state text)
      rw [← List.length_pos_iff, hlength]
      exact List.length_pos_iff.mpr htext
    have hruns : (runs (labels registry state none text).1).reverse ≠ [] := by
      rw [← tokens_ofLabels text (blankLabel state) hlabels, Ne, List.reverse_eq_nil_iff]
      exact List.cons_ne_nil _ _
    rw [if_neg (by simpa using hruns), List.reverse_reverse, tokens_ofLabels _ _ hlabels]

/-- The tokens of a line are the maximal runs of the labels of its characters. -/
theorem tokenize_eq :
    tokenize registry state text =
      (.ofLabels text (blankLabel state) (labels registry state none text).1,
        (labels registry state none text).2) := by
  have hemission := emission_eq registry state text
  have htext : (ofLabels text (blankLabel state) (labels registry state none text).1).text =
      text := by
    cases (labels registry state none text).1 <;> rfl
  have hstate : (emission registry state text).2 = _ := congrArg Prod.snd hemission
  refine Prod.ext ?_ hstate
  exact ofFront_eq _ htext (congrArg Prod.fst hemission)

theorem tokenize_fst :
    (tokenize registry state text).1 =
      .ofLabels text (blankLabel state) (labels registry state none text).1 :=
  congrArg Prod.fst (tokenize_eq registry state text)

theorem tokenize_snd :
    (tokenize registry state text).2 = (labels registry state none text).2 :=
  congrArg Prod.snd (tokenize_eq registry state text)

end Lexer

end Indentation
