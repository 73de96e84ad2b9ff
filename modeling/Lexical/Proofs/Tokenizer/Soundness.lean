import Lexical.Proofs.Tokenizer.Cut
import Lexical.Proofs.Tokenizer.Extension
import Mathlib

/-! Tokenizers of recognizers never break down. Every recognizer keeps the contract of a rule, so
that a session ends at the end of its input or with an error in the text, and the error has a place.
-/

namespace Lexical

/-- The answer is the tokens, or an error in the text with the place where it arose. -/
def FailsInText (answer : Except Failure (List Token)) : Prop :=
  ∀ failure,
    answer = .error failure
    → ∃ cause place, failure = .error ⟨cause, some place⟩ ∧ cause.blamesText

namespace Tokenizer

/-- Where recognizers stop with an error, the text goes on, and the error blames it and is placed
there.
-/
theorem Stops.error_eq {recognizers : List Recognizer} {place : Position} {text : List Char}
    {ending : Ending} (stops : Stops recognizers place text ending) {lexemes : List Lexeme}
    {failure : Failure} (failed : Session.outcome ⟨lexemes, ending⟩ = .error failure)
    : text ≠ [] ∧ ∃ cause, failure = .error ⟨cause, some place⟩ ∧ cause.blamesText := by
  cases stops with
  | finished empty => cases failed
  | unexpected more idle =>
      cases failed
      rw [more]
      exact ⟨List.cons_ne_nil _ _, _, rfl, rfl⟩
  | failed first answer blames =>
      cases failed
      exact ⟨Recognizer.ne_nil_of_starts (starts_of_first first), _, rfl, blames⟩

theorem Stuck.failsInText {recognizers : List Recognizer} {rest : View}
    (stuck : (ofRecognizers recognizers).Stuck rest) (lexemes : List Lexeme)
    : FailsInText (Session.outcome ⟨lexemes, (ofRecognizers recognizers).endingAt rest⟩) := by
  intro failure hfailure
  obtain ⟨-, cause, hcause, blames⟩ := stuck.stops.error_eq hfailure
  exact ⟨cause, rest.origin, hcause, blames⟩

/-- Recognizers keep the contract of a rule wherever they are asked, and so a tokenizer of them
never breaks down on what it can count in 32 bits: it takes characters that are counted so, and
gives tokens, or an error that is one of the five in the text and has a place.
-/
theorem ofRecognizers_keep_contract (recognizers : List Recognizer)
    : (∀ rule ∈ (ofRecognizers recognizers).rules, ∀ c, rule.KeepsContract c)
      ∧ ∀ c : Cursor,
          c.origin.CountsOver c.remaining
          → FailsInText ((ofRecognizers recognizers).tokenize c).1
            ∧ ∃ taken,
                c.StepsOver taken ((ofRecognizers recognizers).tokenize c).2
                ∧ c.origin.advanceOver? taken
                  = some ((ofRecognizers recognizers).tokenize c).2.origin := by
  constructor
  · intro rule member c
    obtain ⟨recognizer, -, rfl⟩ := List.mem_map.1 member
    exact recognizer.toRule_keepsContract c
  · intro c counts
    have looking := onlyLooks_ofRecognizers recognizers
    obtain ⟨pieces, rest, decomposes⟩ := (ofRecognizers recognizers).exists_decomposes c.view
    have hsession := sessionOnto_of_decomposes looking decomposes [] rfl
    obtain ⟨taken, steps⟩ := (ofRecognizers recognizers).reaches_tokenize c
    refine ⟨?_, taken, steps, steps.counted counts⟩
    show FailsInText ((ofRecognizers recognizers).session c).1.outcome
    rw [session, hsession]
    exact decomposes.stuck_rest.failsInText _

/-- A prefix without digits on a second line is to blame there, and is counted to its end. -/
theorem prefix_fails_in_text
    : (Position.start "notes").CountsOver "7\n0x".toList
      ∧ let outcome :=
          (ofRecognizers [.blank, .numbers]).tokenize (Cursor.ofText "notes" "7\n0x")
        outcome.1 = .error (.error ⟨.invalidNumber "0x", some ⟨"notes", 2, 1⟩⟩)
        ∧ Error.Cause.blamesText (.invalidNumber "0x")
        ∧ (Position.start "notes").advanceOver? "7\n0x".toList = some outcome.2.origin := by
  have counts : (Position.start "notes").CountsOver "7\n0x".toList := by
    decide
  have failed : ((ofRecognizers [.blank, .numbers]).tokenize (Cursor.ofText "notes" "7\n0x")).1
      = .error (.error ⟨.invalidNumber "0x", some ⟨"notes", 2, 1⟩⟩) := by
    conv => lhs; cbv
  have ended
      : ((ofRecognizers [.blank, .numbers]).tokenize (Cursor.ofText "notes" "7\n0x")).2.remaining
        = [] := by
    conv => lhs; cbv
  obtain ⟨-, tokenizes⟩ := ofRecognizers_keep_contract [.blank, .numbers]
  obtain ⟨failsInText, taken, steps, counted⟩ := tokenizes (Cursor.ofText "notes" "7\n0x")
    (by rwa [Cursor.remaining_ofText])
  have whole := steps.remaining
  rw [ended, List.append_nil, Cursor.remaining_ofText] at whole
  obtain ⟨cause, place, same, blames⟩ := failsInText _ failed
  cases same
  refine ⟨counts, failed, blames, ?_⟩
  rw [whole]
  exact counted

end Tokenizer

end Lexical
