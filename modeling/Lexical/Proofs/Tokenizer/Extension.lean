import Lexical.Proofs.Tokenizer.Round
import Mathlib

/-! Rules put behind all others of a tokenizer. They are asked where none of the others can start
and nowhere else, so that a session which meets no unexpected character stays what it was, and one
that does is taken up by them at that character.
-/

namespace Lexical

namespace Tokenizer

-----------------------------------------------------------------------------------------
-- Rounds in a row
-----------------------------------------------------------------------------------------

/-- The tokenizer gets from a cursor to another one by rounds that give a lexeme each. -/
inductive Advances (tokenizer : Tokenizer) : Cursor → List Lexeme → Cursor → Prop
  | here {c} : tokenizer.Advances c [] c
  | round {c rule token? lexemes d}
    (answer : (tokenizer.round.run c).1 = .answered rule (.ok token?))
    (moved : (tokenizer.round.run c).2.consumed ≠ c.consumed)
    (further : tokenizer.Advances (tokenizer.round.run c).2 lexemes d)
    : tokenizer.Advances c
        (Round.lexeme c.origin c.consumed (tokenizer.round.run c).2.consumed rule token?
          :: lexemes)
        d

variable {tokenizer : Tokenizer} {rules more : List Rule} {c d : Cursor}
  {lexemes : List Lexeme}

theorem Advances.reaches (h : tokenizer.Advances c lexemes d) : c.Reaches d := by
  induction h with
  | here => exact .refl _
  | round _ _ _ ih => exact (tokenizer.round.reaches _).trans ih

/-- A session has the lexemes of its first rounds and goes on behind them, by induction over these
rounds.
-/
theorem Advances.sessionOnto_eq (h : tokenizer.Advances c lexemes d) (found : List Lexeme)
    : tokenizer.sessionOnto found c = tokenizer.sessionOnto (lexemes.reverse ++ found) d := by
  induction h generalizing found with
  | here => rfl
  | round answer moved _ ih =>
      rw [sessionOnto_of_lexeme answer moved, ih, List.reverse_cons, List.append_assoc]
      rfl

/-- Every session is rounds that give its lexemes and one more that ends it, by induction over the
characters that remain.
-/
theorem exists_advances (tokenizer : Tokenizer) (c : Cursor)
    : ∃ lexemes d ending,
        tokenizer.Advances c lexemes d
        ∧ (tokenizer.round.run d).1.ending? d.origin d.consumed
            (tokenizer.round.run d).2.consumed
          = some ending := by
  induction hlength : c.remaining.length using Nat.strongRecOn generalizing c with
  | ind _ ih =>
      subst hlength
      cases hending : (tokenizer.round.run c).1.ending? c.origin c.consumed
          (tokenizer.round.run c).2.consumed with
      | some ending => exact ⟨[], c, ending, .here, hending⟩
      | none =>
          obtain ⟨rule, token?, answer, moved⟩ := Round.exists_of_ending?_eq_none hending
          have hshorter := (tokenizer.round.reaches c).remaining_length_lt moved
          obtain ⟨lexemes, d, ending, further, hlast⟩ := ih _ hshorter _ rfl
          exact ⟨_, d, ending, .round answer moved further, hlast⟩

/-- The session of the rounds up to a cursor where a round ends it. -/
theorem Advances.session_of_ending {ending : Ending} (h : tokenizer.Advances c lexemes d)
    (last
      : (tokenizer.round.run d).1.ending? d.origin d.consumed
          (tokenizer.round.run d).2.consumed
        = some ending)
    : tokenizer.session c = (⟨lexemes, ending⟩, (tokenizer.round.run d).2) := by
  rw [session, h.sessionOnto_eq, sessionOnto_of_ending last, List.append_nil,
    List.reverse_reverse]

/-- The session that goes on at a cursor has the lexemes before it in front. -/
theorem Advances.session_eq (h : tokenizer.Advances c lexemes d)
    : tokenizer.session c
      = (⟨lexemes ++ (tokenizer.session d).1.lexemes, (tokenizer.session d).1.ending⟩,
          (tokenizer.session d).2) := by
  obtain ⟨further, e, ending, advances, last⟩ := tokenizer.exists_advances d
  rw [session, h.sessionOnto_eq, advances.sessionOnto_eq, sessionOnto_of_ending last,
    advances.session_of_ending last]
  simp only [List.append_nil, List.reverse_append, List.reverse_reverse]

/-- Tokenizing leaves the cursor at the same place or further on. -/
theorem reaches_tokenize (tokenizer : Tokenizer) (c : Cursor)
    : c.Reaches (tokenizer.tokenize c).2 := by
  obtain ⟨lexemes, d, ending, advances, last⟩ := tokenizer.exists_advances c
  show c.Reaches (tokenizer.session c).2
  rw [advances.session_of_ending last]
  exact advances.reaches.trans (tokenizer.round.reaches d)

-----------------------------------------------------------------------------------------
-- Further rules
-----------------------------------------------------------------------------------------

/-- The rules behind are not asked where one of those before them can start. -/
theorem run_firstStarting_append {rule : Rule}
    (first : ((firstStarting rules).run c).1 = some rule) (more : List Rule)
    : (firstStarting (rules ++ more)).run c = (firstStarting rules).run c := by
  induction rules generalizing c with
  | nil => cases first
  | cons head others ih =>
      simp only [List.cons_append, firstStarting, Scan.run_bind] at first ⊢
      split
      · rfl
      · next idle =>
          rw [if_neg idle] at first
          exact ih first

/-- A round that meets no unexpected character is the same with further rules. -/
theorem run_round_append
    (expected : ∀ character, ((mk rules).round.run c).1 ≠ .unexpected character)
    (more : List Rule)
    : (mk (rules ++ more)).round.run c = (mk rules).round.run c := by
  simp only [round, Scan.run_bind] at expected ⊢
  cases hnext : ((Scan.peek 0).run c).1 with
  | none => rfl
  | some character =>
      simp only [hnext, Scan.run_bind] at expected ⊢
      cases hfirst : ((firstStarting rules).run ((Scan.peek 0).run c).2).1 with
      | none =>
          rw [hfirst] at expected
          exact (expected character rfl).elim
      | some rule => rw [run_firstStarting_append hfirst, hfirst]

/-- What rules get to, they get to with further rules, round by round. -/
theorem Advances.append (h : (mk rules).Advances c lexemes d) (more : List Rule)
    : (mk (rules ++ more)).Advances c lexemes d := by
  induction h with
  | here => exact .here
  | round answer moved _ ih =>
      have same := run_round_append (fun _ => by rw [answer]; exact Round.noConfusion) more
      rw [← same] at answer moved ih ⊢
      exact .round answer moved ih

/-- The character that no rule can start at is the next one. -/
theorem head?_of_unexpected {character : Char}
    (h : (tokenizer.round.run c).1 = .unexpected character)
    : c.remaining.head? = some character := by
  simp only [round, Scan.run_bind] at h
  cases hnext : ((Scan.peek 0).run c).1 with
  | none =>
      rw [hnext] at h
      cases h
  | some next =>
      rw [hnext] at h
      rw [List.head?_eq_getElem?, ← Cursor.peek_fst]
      refine hnext.trans (congrArg some ?_)
      simp only [Scan.run_bind] at h
      cases hfirst : ((firstStarting tokenizer.rules).run ((Scan.peek 0).run c).2).1 with
      | none =>
          rw [hfirst] at h
          exact Round.unexpected.inj h
      | some rule =>
          rw [hfirst] at h
          cases h

/-- Only a round that meets an unexpected character ends a session with one. -/
theorem Round.ending?_eq_unexpected_iff {place place' : Position} {before after : Nat}
    {round : Round} {character : Char}
    : round.ending? place before after = some (.unexpected character place')
      ↔ round = .unexpected character ∧ place' = place := by
  rcases round with _ | found | ⟨rule, (error | breach) | token?⟩
  case answered.ok => by_cases stays : after = before <;> simp [ending?, stays]
  all_goals simp [ending?, eq_comm]

/-- Further rules behind the others extend a tokenizer conservatively. A session that ends in any
other way than with an unexpected character is the same with them: lexemes, tokens, ending and the
cursor that is left. One that meets an unexpected character has the same lexemes and tokens up to
that character; there it is taken up with all the rules, where the first ones alone are stuck.
-/
theorem session_append_rules (rules more : List Rule) (c : Cursor)
    : let first := (mk rules).session c
      let all := (mk (rules ++ more)).session c
      ((∀ character place, first.1.ending ≠ .unexpected character place)
        → all = first
          ∧ (mk (rules ++ more)).tokenize c = (mk rules).tokenize c)
      ∧ ∀ character place,
          first.1.ending = .unexpected character place
          → ∃ d,
              c.Reaches d
              ∧ d.origin = place
              ∧ d.remaining.head? = some character
              ∧ (mk rules).session d = (⟨[], .unexpected character place⟩, first.2)
              ∧ let further := (mk (rules ++ more)).session d
                all.1.lexemes = first.1.lexemes ++ further.1.lexemes
                ∧ all.1.tokens = first.1.tokens ++ further.1.tokens
                ∧ all.1.ending = further.1.ending
                ∧ all.2 = further.2 := by
  intro first all
  obtain ⟨lexemes, d, ending, advances, last⟩ := (mk rules).exists_advances c
  have hfirst : first = (⟨lexemes, ending⟩, ((mk rules).round.run d).2) :=
    advances.session_of_ending last
  rw [hfirst]
  constructor
  · intro expected
    have hround : (mk (rules ++ more)).round.run d = (mk rules).round.run d := by
      refine run_round_append (fun character unexpected => ?_) more
      rw [unexpected] at last
      exact expected character d.origin (Option.some.inj last).symm
    have hsame : all = first := by
      rw [← hround] at last
      rw [hfirst, ← hround]
      exact (advances.append more).session_of_ending last
    have htokenize : (mk (rules ++ more)).tokenize c = (all.1.outcome, all.2) := rfl
    exact ⟨hsame.trans hfirst, by rw [htokenize, hsame]; rfl⟩
  · rintro character place rfl
    obtain ⟨hround, rfl⟩ := Round.ending?_eq_unexpected_iff.1 last
    have hall := (advances.append more).session_eq
    refine ⟨d, advances.reaches, rfl, head?_of_unexpected hround,
      Advances.here.session_of_ending last, ?_, ?_, ?_, ?_⟩
    · exact congrArg (fun result => result.1.lexemes) hall
    · exact (congrArg (fun result => result.1.tokens) hall).trans List.filterMap_append
    · exact congrArg (fun result => result.1.ending) hall
    · exact congrArg (fun result => result.2) hall

/-- Words alone do not get beyond the blank between two of them, where blanks as a further rule take
the session up; a single word is the same with them.
-/
theorem session_goes_on_with_blanks
    : let words : List Rule := [Recognizer.words.toRule]
      let all := mk (words ++ [Recognizer.blank.toRule])
      (mk words).session (Cursor.ofText "notes" "ab")
          = all.session (Cursor.ofText "notes" "ab")
      ∧ ((mk words).session (Cursor.ofText "notes" "a b")).1.ending
        = .unexpected ' ' ⟨"notes", 1, 2⟩
      ∧ ∃ d,
          d.origin = ⟨"notes", 1, 2⟩
          ∧ (all.session (Cursor.ofText "notes" "a b")).1.tokens
            = ((mk words).session (Cursor.ofText "notes" "a b")).1.tokens
              ++ (all.session d).1.tokens := by
  intro words all
  have finished : ((mk words).session (Cursor.ofText "notes" "ab")).1.ending = .finished := by
    cbv
  have unexpected : ((mk words).session (Cursor.ofText "notes" "a b")).1.ending
      = .unexpected ' ' ⟨"notes", 1, 2⟩ := by
    conv => lhs; cbv
  obtain ⟨same, -⟩ :=
    session_append_rules words [Recognizer.blank.toRule] (Cursor.ofText "notes" "ab")
  obtain ⟨-, goesOn⟩ :=
    session_append_rules words [Recognizer.blank.toRule] (Cursor.ofText "notes" "a b")
  obtain ⟨d, -, place, -, -, -, tokens, -⟩ := goesOn _ _ unexpected
  refine ⟨(same ?_).1.symm, unexpected, d, place, tokens⟩
  intro character place
  rw [finished]
  exact Ending.noConfusion

end Tokenizer

end Lexical
