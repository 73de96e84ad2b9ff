import Lexical.Proofs.Rule
import Lexical.Tokenizer

/-! Rounds of a tokenizer: what a round does on a view, and how a session goes on with it. A round
either ends the session or gives it one more lexeme.
-/

namespace Lexical

namespace Tokenizer

-----------------------------------------------------------------------------------------
-- Rounds on views
-----------------------------------------------------------------------------------------

/-- The tokenizer of recognizers in the order of their precedence. -/
def ofRecognizers (recognizers : List Recognizer) : Tokenizer :=
  ⟨recognizers.map Recognizer.toRule⟩

/-- The first of the rules that can start at the view. -/
def chosen (tokenizer : Tokenizer) (v : View) : Option Rule :=
  tokenizer.rules.find? (·.startsAt v)

/-- The rules of the tokenizer only look when they are asked whether they can start. -/
def OnlyLooks (tokenizer : Tokenizer) : Prop :=
  ∀ rule ∈ tokenizer.rules, rule.OnlyLooks

theorem onlyLooks_ofRecognizers (recognizers : List Recognizer)
    : (ofRecognizers recognizers).OnlyLooks := by
  intro rule member
  obtain ⟨recognizer, -, rfl⟩ := List.mem_map.1 member
  exact recognizer.toRule_onlyLooks

/-- Among the rules of recognizers, that of the first one that starts at the text is chosen. -/
theorem chosen_ofRecognizers (recognizers : List Recognizer) (v : View)
    : (ofRecognizers recognizers).chosen v
      = (recognizers.find? (·.starts v.remaining)).map Recognizer.toRule := by
  rw [chosen, ofRecognizers, List.find?_map]
  congr 2
  funext recognizer
  exact recognizer.startsAt_toRule v

theorem onView_firstStarting {rules : List Rule} (h : ∀ rule ∈ rules, rule.OnlyLooks) (v : View)
    : (firstStarting rules).onView v = (rules.find? (·.startsAt v), v) := by
  induction rules with
  | nil => simp [firstStarting]
  | cons rule others ih =>
      have hothers := ih (fun other member => h other (List.mem_cons_of_mem rule member))
      have hrule := (h rule List.mem_cons_self).onView_canStart v
      cases hstarts : rule.startsAt v <;>
        simp [firstStarting, hrule, hstarts, hothers]

/-- What a round does is settled by the next character and the first rule that can start. -/
theorem onView_round {tokenizer : Tokenizer} (h : tokenizer.OnlyLooks) (v : View)
    : tokenizer.round.onView v
      = match v.remaining, tokenizer.chosen v with
        | [], _ => (.ended, v)
        | character :: _, none => (.unexpected character, v)
        | _ :: _, some rule => (.answered rule (rule.answerAt v), rule.viewAfter v) := by
  cases hremaining : v.remaining with
  | nil => simp [round, hremaining]
  | cons character rest =>
      have hfirst := onView_firstStarting h v
      cases hchosen : tokenizer.chosen v with
      | none =>
          rw [chosen] at hchosen
          simp [round, hremaining, hfirst, hchosen]
      | some rule =>
          rw [chosen] at hchosen
          simp [round, hremaining, hfirst, hchosen, Rule.answerAt, Rule.viewAfter]

-----------------------------------------------------------------------------------------
-- Sessions round by round
-----------------------------------------------------------------------------------------

/-- How a session ends with the round that was done at a place, with the counts before and after it.
There is no such ending if the round gives a lexeme.
-/
def Round.ending? (place : Position) (before after : Nat) : Round → Option Ending
  | .ended => some .finished
  | .unexpected character => some (.unexpected character place)
  | .answered rule (.error (.error error)) => some (.failed rule.name (error.orAt place))
  | .answered _ (.error (.breach breach)) => some (.breached breach)
  | .answered rule (.ok _) =>
    if after = before then some (.breached (.stalled rule.name place)) else none

/-- The lexeme of a rule that accepted at a place, with the counts before and after it. -/
def Round.lexeme (place : Position) (before after : Nat) (rule : Rule) (token? : Option Token)
    : Lexeme :=
  ⟨rule.name, place, after - before, token?.map (·.orAt place)⟩

/-- A round that does not end a session is one where a rule accepts and has consumed something. -/
theorem Round.exists_of_ending?_eq_none {place : Position} {before after : Nat} {round : Round}
    (h : round.ending? place before after = none)
    : ∃ rule token?, round = .answered rule (.ok token?) ∧ after ≠ before := by
  rcases round with _ | character | ⟨rule, (error | breach) | token?⟩
  · cases h
  · cases h
  · cases h
  · cases h
  · refine ⟨rule, token?, rfl, ?_⟩
    intro same
    rw [ending?, if_pos same] at h
    cases h

variable {tokenizer : Tokenizer} {c : Cursor}

/-- With a round that ends it, a session has the lexemes that were found before. -/
theorem sessionOnto_of_ending {ending : Ending}
    (h
      : (tokenizer.round.run c).1.ending? c.origin c.consumed
          (tokenizer.round.run c).2.consumed
        = some ending)
    (found : List Lexeme)
    : tokenizer.sessionOnto found c
      = (⟨found.reverse, ending⟩, (tokenizer.round.run c).2) := by
  rw [sessionOnto]
  rcases hround : (tokenizer.round.run c).1 with
    _ | character | ⟨rule, (error | breach) | token?⟩
  all_goals rw [hround] at h
  · cases h
    rfl
  · cases h
    rfl
  · cases h
    rfl
  · cases h
    rfl
  · by_cases hstays : (tokenizer.round.run c).2.consumed = c.consumed
    · rw [Round.ending?, if_pos hstays] at h
      cases h
      exact if_pos hstays
    · rw [Round.ending?, if_neg hstays] at h
      cases h

/-- With a round that consumes something, a session has one more lexeme and goes on behind it. -/
theorem sessionOnto_of_lexeme {rule : Rule} {token? : Option Token}
    (hround : (tokenizer.round.run c).1 = .answered rule (.ok token?))
    (hmoved : (tokenizer.round.run c).2.consumed ≠ c.consumed) (found : List Lexeme)
    : tokenizer.sessionOnto found c
      = tokenizer.sessionOnto
          (Round.lexeme c.origin c.consumed (tokenizer.round.run c).2.consumed rule token?
            :: found)
          (tokenizer.round.run c).2 := by
  rw [sessionOnto, hround]
  exact if_neg hmoved

end Tokenizer

end Lexical
