import Lexical.Proofs.Tokenizer.Round

/-! What a session makes of its input: the one way to cut the input into pieces, each the one that
the first rule able to start there consumes, until nothing can be cut off any more. The lexemes
are these pieces, and what stands in the way behind the last of them is how the session ends.
-/

namespace Lexical

-----------------------------------------------------------------------------------------
-- Pieces
-----------------------------------------------------------------------------------------

/-- A piece of text, the rule that consumes it, and the token that the rule gives for it. -/
structure Piece where
  rule : Rule
  text : List Char
  token? : Option Token

/-- A token that a rule made at a place has the origin that the rule gave it, or else that place. -/
theorem Token.orAt_eq (token : Token) (place : Position)
    : token.orAt place = ⟨token.kind, token.value, some (token.origin?.getD place)⟩ := by
  obtain ⟨kind, value, origin?⟩ := token
  cases origin? <;> rfl

/-- An error that a rule made at a place keeps the place that the rule gave it, or else is there. -/
theorem Error.eq_orAt_iff (error own : Error) (place : Position)
    : error = own.orAt place
      ↔ error.cause = own.cause ∧ error.place? = some (own.place?.getD place) := by
  obtain ⟨cause, place?⟩ := error
  obtain ⟨own, own?⟩ := own
  cases own? <;> simp [orAt]

namespace Piece

/-- The token of a piece at a place, which is its origin if the rule set none. -/
def placed (place : Position) (piece : Piece) : Option Token :=
  piece.token?.map fun token =>
    ⟨token.kind, token.value, some (token.origin?.getD place)⟩

theorem placed_eq (place : Position) (piece : Piece)
    : piece.placed place = piece.token?.map (·.orAt place) := by
  simp only [placed, Token.orAt_eq]

/-- The lexeme of a piece at a place. -/
def lexeme (place : Position) (piece : Piece) : Lexeme where
  rule := piece.rule.name
  start := place
  length := piece.text.length
  token? := piece.placed place

/-- The text of pieces in a row. -/
def joined (pieces : List Piece) : List Char :=
  pieces.flatMap Piece.text

@[simp] theorem joined_nil : joined [] = [] := rfl

@[simp] theorem joined_cons (piece : Piece) (others : List Piece)
    : joined (piece :: others) = piece.text ++ joined others :=
  List.flatMap_cons

/-- The lexemes of pieces in a row, the first of which is at the place. -/
def lexemes (place : Position) : List Piece → List Lexeme
  | [] => []
  | piece :: others => piece.lexeme place :: lexemes (place.advanceOver piece.text) others

/-- The tokens of pieces in a row. -/
def tokens (place : Position) : List Piece → List Token
  | [] => []
  | piece :: others =>
    (piece.placed place).toList ++ tokens (place.advanceOver piece.text) others

theorem filterMap_lexemes (place : Position) (pieces : List Piece)
    : (lexemes place pieces).filterMap Lexeme.token? = tokens place pieces := by
  induction pieces generalizing place with
  | nil => rfl
  | cons piece others ih =>
      cases h : piece.placed place <;> simp [lexemes, lexeme, tokens, ih, h]

@[simp] theorem length_lexemes (place : Position) (pieces : List Piece)
    : (lexemes place pieces).length = pieces.length := by
  induction pieces generalizing place with
  | nil => rfl
  | cons piece others ih => simp [lexemes, ih]

end Piece

/-- The number of rounds of the session: one for each lexeme, and one more if the last round did
not give a lexeme but found that something was wrong.
-/
def Session.rounds (session : Session) : Nat :=
  session.lexemes.length
  + match session.ending with
    | .finished => 0
    | _ => 1

/-- The rounds are at most the lexemes and one more, and only that many without an end of the
input.
-/
theorem Session.rounds_le (session : Session)
    : session.rounds ≤ session.lexemes.length + 1
      ∧ (session.ending = .finished → session.rounds = session.lexemes.length) := by
  rw [rounds]
  cases session.ending <;> simp

theorem Session.outcome_eq_ok_iff (session : Session) (tokens : List Token)
    : session.outcome = .ok tokens ↔ session.ending = .finished ∧ tokens = session.tokens := by
  rw [outcome]
  cases session.ending <;> simp [eq_comm]

namespace Tokenizer

/-- The piece is cut off the first view and leaves the second: the first rule that can start
consumes it and accepts, and it is not empty.
-/
structure Cuts (tokenizer : Tokenizer) (v : View) (piece : Piece) (w : View) : Prop where
  chosen : tokenizer.chosen v = some piece.rule
  answer : piece.rule.answerAt v = .ok piece.token?
  after : piece.rule.viewAfter v = w
  split : v.remaining = piece.text ++ w.remaining
  nonempty : piece.text ≠ []

/-- No piece can be cut off the view. -/
def Stuck (tokenizer : Tokenizer) (v : View) : Prop :=
  ∀ piece w, ¬tokenizer.Cuts v piece w

/-- The pieces can be cut off the first view one after the other, and after that no more. -/
inductive Decomposes (tokenizer : Tokenizer) : View → List Piece → View → Prop
  | stuck {v} (stuck : tokenizer.Stuck v) : tokenizer.Decomposes v [] v
  | cut {v piece w others rest} (cuts : tokenizer.Cuts v piece w)
    (further : tokenizer.Decomposes w others rest)
    : tokenizer.Decomposes v (piece :: others) rest

/-- What the ending of a session says about the view behind its last piece. -/
structure EndsAt (tokenizer : Tokenizer) (rest : View) (ending : Ending) : Prop where
  finished : ending = .finished ↔ rest.remaining = []
  unexpected
    : ∀ character place,
        ending = .unexpected character place
        ↔ rest.remaining.head? = some character
          ∧ (∀ rule ∈ tokenizer.rules, rule.startsAt rest = false)
          ∧ place = rest.origin
  failed
    : ∀ name error,
        ending = .failed name error
        ↔ rest.remaining ≠ []
          ∧ ∃ rule own,
              tokenizer.chosen rest = some rule
              ∧ rule.answerAt rest = .error (.error own)
              ∧ name = rule.name
              ∧ error.cause = own.cause
              ∧ error.place? = some (own.place?.getD rest.origin)
  breached
    : ∀ breach,
        ending = .breached breach
        ↔ rest.remaining ≠ []
          ∧ ∃ rule,
              tokenizer.chosen rest = some rule
              ∧ (rule.answerAt rest = .error (.breach breach)
                ∨ (∃ token?, rule.answerAt rest = .ok token?)
                  ∧ (rule.viewAfter rest).remaining = rest.remaining
                  ∧ breach = .stalled rule.name rest.origin)

/-- How a session ends at a view where no piece can be cut off. -/
def endingAt (tokenizer : Tokenizer) (v : View) : Ending :=
  match v.remaining, tokenizer.chosen v with
  | [], _ => .finished
  | character :: _, none => .unexpected character v.origin
  | _ :: _, some rule =>
    match rule.answerAt v with
    | .error (.error error) => .failed rule.name (error.orAt v.origin)
    | .error (.breach breach) => .breached breach
    | .ok _ => .breached (.stalled rule.name v.origin)

variable {tokenizer : Tokenizer} {v w rest : View} {piece : Piece} {pieces : List Piece}

-----------------------------------------------------------------------------------------
-- Cutting is determined by the view
-----------------------------------------------------------------------------------------

theorem Cuts.unique {piece' : Piece} {w' : View} (h : tokenizer.Cuts v piece w)
    (h' : tokenizer.Cuts v piece' w')
    : piece' = piece ∧ w' = w := by
  obtain ⟨rule, text, token?⟩ := piece
  obtain ⟨rule', text', token?'⟩ := piece'
  have hrule : rule' = rule := Option.some.inj (h'.chosen.symm.trans h.chosen)
  subst hrule
  have hafter : w' = w := h'.after.symm.trans h.after
  subst hafter
  have htoken : token?' = token? := Except.ok.inj (h'.answer.symm.trans h.answer)
  have htext : text' = text := List.append_cancel_right (h'.split.symm.trans h.split)
  exact ⟨by rw [htoken, htext], rfl⟩

/-- There is one decomposition only, by induction over the first of two. -/
theorem Decomposes.unique {pieces' : List Piece} {rest' : View}
    (h : tokenizer.Decomposes v pieces rest) (h' : tokenizer.Decomposes v pieces' rest')
    : pieces' = pieces ∧ rest' = rest := by
  induction h generalizing pieces' with
  | stuck stuck =>
      cases h' with
      | stuck _ => exact ⟨rfl, rfl⟩
      | cut cuts _ => exact (stuck _ _ cuts).elim
  | cut cuts _ ih =>
      cases h' with
      | stuck stuck => exact (stuck _ _ cuts).elim
      | cut cuts' further' =>
          obtain ⟨hpiece, hview⟩ := cuts.unique cuts'
          subst hpiece hview
          obtain ⟨hothers, hrest⟩ := ih further'
          exact ⟨by rw [hothers], hrest⟩

-----------------------------------------------------------------------------------------
-- What a decomposition takes apart
-----------------------------------------------------------------------------------------

/-- Behind a piece the place is behind its text. -/
theorem Cuts.origin (h : tokenizer.Cuts v piece w)
    : w.origin = v.origin.advanceOver piece.text := by
  obtain ⟨taken, hremaining, horigin, -⟩ := piece.rule.viewAfter_spec v
  rw [h.after] at hremaining horigin
  rw [horigin, List.append_cancel_right (hremaining.symm.trans h.split)]

/-- The pieces in a row and the rest are the whole text, and the rest is behind the pieces. -/
theorem Decomposes.split (h : tokenizer.Decomposes v pieces rest)
    : v.remaining = Piece.joined pieces ++ rest.remaining
      ∧ rest.origin = v.origin.advanceOver (Piece.joined pieces) := by
  induction h with
  | stuck _ => exact ⟨rfl, rfl⟩
  | cut cuts _ ih =>
      obtain ⟨hremaining, horigin⟩ := ih
      constructor
      · rw [cuts.split, hremaining, Piece.joined_cons, List.append_assoc]
      · rw [horigin, cuts.origin, Piece.joined_cons, Position.advanceOver_append]

/-- No piece is empty, so that there are no more pieces than characters in them. -/
theorem Decomposes.length_le (h : tokenizer.Decomposes v pieces rest)
    : pieces.length ≤ (Piece.joined pieces).length := by
  induction h with
  | stuck _ => exact Nat.le_refl _
  | cut cuts _ ih =>
      have hpos := List.length_pos_iff.2 cuts.nonempty
      simp only [Piece.joined_cons, List.length_append, List.length_cons]
      omega

theorem Decomposes.stuck_rest (h : tokenizer.Decomposes v pieces rest)
    : tokenizer.Stuck rest := by
  induction h with
  | stuck stuck => exact stuck
  | cut _ _ ih => exact ih

-----------------------------------------------------------------------------------------
-- Sessions follow the decomposition
-----------------------------------------------------------------------------------------

/-- A round that accepts and consumes cuts a piece off. Witness: what the rule consumed is a
prefix of what remained, and it is not empty because the count has changed.
-/
theorem exists_cuts {rule : Rule} {token? : Option Token}
    (hchosen : tokenizer.chosen v = some rule) (hanswer : rule.answerAt v = .ok token?)
    (hmoved : (rule.viewAfter v).consumed ≠ v.consumed)
    : ∃ piece w, tokenizer.Cuts v piece w := by
  obtain ⟨text, hsplit, -, hconsumed⟩ := rule.viewAfter_spec v
  refine ⟨⟨rule, text, token?⟩, rule.viewAfter v, hchosen, hanswer, rfl, hsplit, ?_⟩
  rintro rfl
  exact hmoved hconsumed

/-- Where nothing can be cut off, a rule that accepts has consumed nothing. -/
theorem Stuck.remaining_viewAfter {rule : Rule} {token? : Option Token}
    (stuck : tokenizer.Stuck v) (hchosen : tokenizer.chosen v = some rule)
    (hanswer : rule.answerAt v = .ok token?)
    : (rule.viewAfter v).consumed = v.consumed
      ∧ (rule.viewAfter v).remaining = v.remaining := by
  have hstays : (rule.viewAfter v).consumed = v.consumed := by
    by_contra hmoved
    obtain ⟨piece, w, cuts⟩ := exists_cuts hchosen hanswer hmoved
    exact stuck piece w cuts
  obtain ⟨taken, hremaining, -, hconsumed⟩ := rule.viewAfter_spec v
  have hnil : taken = [] := List.eq_nil_of_length_eq_zero (by omega)
  subst hnil
  exact ⟨hstays, hremaining.symm⟩

/-- Where the chosen rule refuses, nothing can be cut off. -/
theorem stuck_of_refuses {rule : Rule} {failure : Failure}
    (hchosen : tokenizer.chosen v = some rule) (refuses : rule.answerAt v = .error failure)
    : tokenizer.Stuck v := by
  intro piece w cuts
  have hrule : rule = piece.rule := Option.some.inj (hchosen.symm.trans cuts.chosen)
  have hanswer := cuts.answer
  rw [← hrule, refuses] at hanswer
  cases hanswer

/-- Where nothing can be cut off, the round ends the session. -/
theorem Stuck.ending?_round (looking : tokenizer.OnlyLooks) {c : Cursor}
    (stuck : tokenizer.Stuck c.view)
    : (tokenizer.round.run c).1.ending? c.origin c.consumed
        (tokenizer.round.run c).2.consumed
      = some (tokenizer.endingAt c.view) := by
  have hround := tokenizer.round.onView_view c
  rw [onView_round looking, Cursor.remaining_view] at hround
  cases hremaining : c.remaining with
  | nil =>
      rw [hremaining] at hround
      simp [← (Prod.mk.inj hround).1, Round.ending?, endingAt, hremaining]
  | cons character others =>
      cases hchosen : tokenizer.chosen c.view with
      | none =>
          rw [hremaining, hchosen] at hround
          simp [← (Prod.mk.inj hround).1, Round.ending?, endingAt, hremaining, hchosen]
      | some rule =>
          rw [hremaining, hchosen] at hround
          obtain ⟨hanswered, hrest⟩ := Prod.mk.inj hround
          rcases hanswer : rule.answerAt c.view with (error | breach) | token?
          · simp [← hanswered, Round.ending?, endingAt, hremaining, hchosen, hanswer]
          · simp [← hanswered, Round.ending?, endingAt, hremaining, hchosen, hanswer]
          · have hstays := (stuck.remaining_viewAfter hchosen hanswer).1
            rw [hrest, Cursor.consumed_view, Cursor.consumed_view] at hstays
            simp [← hanswered, Round.ending?, endingAt, hremaining, hchosen, hanswer, hstays]

/-- A session that can cut a piece off finds its lexeme and goes on behind it. -/
theorem sessionOnto_of_cuts (looking : tokenizer.OnlyLooks) {c : Cursor}
    (cuts : tokenizer.Cuts c.view piece w) (found : List Lexeme)
    : ∃ d : Cursor,
        d.view = w
        ∧ tokenizer.sessionOnto found c
          = tokenizer.sessionOnto (piece.lexeme c.origin :: found) d := by
  have hround := tokenizer.round.onView_view c
  obtain ⟨taken, hremaining, -, hconsumed⟩ := piece.rule.viewAfter_spec c.view
  have htaken : taken = piece.text := by
    rw [cuts.after] at hremaining
    exact List.append_cancel_right (hremaining.symm.trans cuts.split)
  subst htaken
  obtain ⟨character, others, htext⟩ := List.exists_cons_of_ne_nil cuts.nonempty
  rw [onView_round looking, hremaining, htext, cuts.chosen] at hround
  obtain ⟨hanswered, hrest⟩ := Prod.mk.inj hround
  have hmoved : (tokenizer.round.run c).2.consumed = c.consumed + piece.text.length := by
    rw [← Cursor.consumed_view, ← hrest, hconsumed, Cursor.consumed_view]
  have hpos := List.length_pos_iff.2 cuts.nonempty
  have hanswer : (tokenizer.round.run c).1 = .answered piece.rule (.ok piece.token?) := by
    rw [← hanswered, cuts.answer]
  refine ⟨(tokenizer.round.run c).2, hrest.symm.trans cuts.after, ?_⟩
  rw [sessionOnto_of_lexeme hanswer (by omega), hmoved, Round.lexeme, Nat.add_sub_cancel_left,
    Piece.lexeme, Piece.placed_eq]

/-- A session finds the lexemes of the decomposition and ends as the view behind them says. -/
theorem sessionOnto_of_decomposes (looking : tokenizer.OnlyLooks)
    (h : tokenizer.Decomposes v pieces rest) (found : List Lexeme) {c : Cursor}
    (shows : c.view = v)
    : (tokenizer.sessionOnto found c).1
      = ⟨found.reverse ++ Piece.lexemes v.origin pieces, tokenizer.endingAt rest⟩ := by
  induction h generalizing found c with
  | stuck stuck =>
      subst shows
      rw [sessionOnto_of_ending (stuck.ending?_round looking), Piece.lexemes, List.append_nil]
  | cut cuts _ ih =>
      subst shows
      obtain ⟨d, hview, hsession⟩ := sessionOnto_of_cuts looking cuts found
      rw [hsession, ih _ hview, cuts.origin]
      simp [Piece.lexemes]

/-- The ways in which a session ends exclude each other and leave out nothing. -/
theorem Stuck.endsAt (stuck : tokenizer.Stuck rest)
    : tokenizer.EndsAt rest (tokenizer.endingAt rest) := by
  have hidle : (∀ rule ∈ tokenizer.rules, rule.startsAt rest = false)
      ↔ tokenizer.chosen rest = none := by
    simp [chosen, List.find?_eq_none]
  cases hremaining : rest.remaining with
  | nil => constructor <;> simp [endingAt, hremaining]
  | cons character others =>
      cases hchosen : tokenizer.chosen rest with
      | none =>
          have hnone := hidle.2 hchosen
          constructor <;> grind [endingAt]
      | some rule =>
          -- With a chosen rule the input is not unexpected, which leaves the rule's own answer.
          have hsome : ¬∀ rule ∈ tokenizer.rules, rule.startsAt rest = false := by
            rw [hidle, hchosen]
            exact Option.some_ne_none rule
          rcases hanswer : rule.answerAt rest with (error | breach) | token?
          · have hkept (name : String) (error' : Error)
                : Ending.failed rule.name (error.orAt rest.origin) = .failed name error'
                  ↔ name = rule.name
                    ∧ error'.cause = error.cause
                    ∧ error'.place? = some (error.place?.getD rest.origin) := by
              rw [Ending.failed.injEq, ← Error.eq_orAt_iff, eq_comm, @eq_comm _ error']
            constructor <;> grind [endingAt]
          · constructor <;> grind [endingAt]
          · have hsame := (stuck.remaining_viewAfter hchosen hanswer).2
            constructor <;> grind [endingAt]

/-- Every view has a decomposition, by induction over the characters that remain. -/
theorem exists_decomposes (tokenizer : Tokenizer) (v : View)
    : ∃ pieces rest, tokenizer.Decomposes v pieces rest := by
  induction hlength : v.remaining.length using Nat.strongRecOn generalizing v with
  | ind _ ih =>
      subst hlength
      by_cases stuck : tokenizer.Stuck v
      · exact ⟨[], v, .stuck stuck⟩
      · simp only [Stuck, not_forall, not_not] at stuck
        obtain ⟨piece, w, cuts⟩ := stuck
        have hpos := List.length_pos_iff.2 cuts.nonempty
        have hshorter : w.remaining.length < v.remaining.length := by
          rw [cuts.split, List.length_append]
          omega
        obtain ⟨pieces, rest, further⟩ := ih _ hshorter w rfl
        exact ⟨piece :: pieces, rest, .cut cuts further⟩

/-- A session cuts its input in the one possible way, within as many rounds as there are
characters: the first rule that can start takes each piece, until the input ends, no rule can
start, or the chosen rule fails or consumes nothing. Which of these it is settles how the session
ends, and the tokens are those of the pieces, each where its piece starts unless its rule says
otherwise.
-/
theorem session_decomposes (tokenizer : Tokenizer) (looking : tokenizer.OnlyLooks) (c : Cursor)
    : ∃ pieces rest,
        tokenizer.Decomposes c.view pieces rest
        ∧ (∀ pieces' rest',
            tokenizer.Decomposes c.view pieces' rest' → pieces' = pieces ∧ rest' = rest)
        ∧ c.remaining = Piece.joined pieces ++ rest.remaining
        ∧ rest.origin = c.origin.advanceOver (Piece.joined pieces)
        ∧ (tokenizer.session c).1.rounds ≤ c.remaining.length
        ∧ (tokenizer.session c).1.lexemes = Piece.lexemes c.origin pieces
        ∧ tokenizer.EndsAt rest (tokenizer.session c).1.ending
        ∧ (tokenizer.tokenize c).1 = (tokenizer.session c).1.outcome
        ∧ ∀ tokens,
            (tokenizer.tokenize c).1 = .ok tokens
            ↔ rest.remaining = [] ∧ tokens = Piece.tokens c.origin pieces := by
  obtain ⟨pieces, rest, decomposes⟩ := tokenizer.exists_decomposes c.view
  have hsession : (tokenizer.session c).1
      = ⟨Piece.lexemes c.origin pieces, tokenizer.endingAt rest⟩ :=
    sessionOnto_of_decomposes looking decomposes [] rfl
  have hends := decomposes.stuck_rest.endsAt
  obtain ⟨hsplit, horigin⟩ := decomposes.split
  refine ⟨pieces, rest, decomposes, fun _ _ h => decomposes.unique h, hsplit, horigin, ?_, ?_, ?_,
    rfl, ?_⟩
  · have hlength := decomposes.length_le
    obtain ⟨hrounds, hfinished⟩ := (tokenizer.session c).1.rounds_le
    rw [hsession, Piece.length_lexemes] at hrounds hfinished
    rw [hsession, ← Cursor.remaining_view, hsplit, List.length_append]
    cases hremaining : rest.remaining with
    | nil =>
        rw [hfinished (hends.finished.2 hremaining)]
        omega
    | cons character others =>
        -- The round that stops the session has a character of its own, the first of the rest.
        rw [List.length_cons]
        omega
  · rw [hsession]
  · rw [hsession]
    exact hends
  · intro tokens
    have htokens : (tokenizer.session c).1.tokens = Piece.tokens c.origin pieces := by
      rw [hsession, Session.tokens, Piece.filterMap_lexemes]
    have hok := (tokenizer.session c).1.outcome_eq_ok_iff tokens
    rw [htokens, hsession, hends.finished, ← hsession] at hok
    exact hok

/-- A rule that takes an opening bracket and refuses it, with the place behind the bracket. -/
def bracketRefused : Rule where
  name := "Bracket"
  canStart := .sees '['
  consume := do
    let _ ← Scan.next
    let place ← Scan.origin
    pure (.error (.error ⟨.custom "brackets are reserved", some place⟩))

/-- Words, blanks and numbers, and brackets that are refused. -/
def bracketless : Tokenizer :=
  ⟨[Recognizer.words.toRule, Recognizer.blank.toRule, Recognizer.numbers.toRule, bracketRefused]⟩

theorem onlyLooks_bracketless : bracketless.OnlyLooks := by
  intro rule member
  simp only [bracketless, List.mem_cons, List.not_mem_nil, or_false] at member
  rcases member with rfl | rfl | rfl | rfl
  · exact Recognizer.words.toRule_onlyLooks
  · exact Recognizer.blank.toRule_onlyLooks
  · exact Recognizer.numbers.toRule_onlyLooks
  · exact fun c => c.resembles_peek 0

/-- A number without digits is refused, where its lexeme starts: the rule for numbers gives its
error no place. A bracket is refused behind itself, since its rule gives a place.
-/
theorem session_stops_where_refused
    : bracketless.OnlyLooks
      ∧ (bracketless.session (Cursor.ofText "notes" "a 0x")).1.lexemes
        = [⟨Recognizer.words.name, ⟨"notes", 1, 1⟩, 1,
              some ⟨.identifier, .text "a", some ⟨"notes", 1, 1⟩⟩⟩,
            ⟨Recognizer.blank.name, ⟨"notes", 1, 2⟩, 1, none⟩]
      ∧ (bracketless.session (Cursor.ofText "notes" "a 0x")).1.ending
        = .failed Recognizer.numbers.name ⟨.invalidNumber "0x", some ⟨"notes", 1, 3⟩⟩
      ∧ (bracketless.session (Cursor.ofText "notes" "[]")).1.ending
        = .failed "Bracket" ⟨.custom "brackets are reserved", some ⟨"notes", 1, 2⟩⟩ := by
  have cutsWord : bracketless.Cuts
      (Cursor.ofText "notes" "a 0x").view
      ⟨Recognizer.words.toRule, ['a'], some ⟨.identifier, .text "a", none⟩⟩
      ⟨[' ', '0', 'x'], ⟨"notes", 1, 2⟩, 1⟩ :=
    ⟨rfl, (Recognizer.answerAt_toRule ..).trans rfl,
      (Recognizer.viewAfter_toRule ..).trans rfl, rfl, List.cons_ne_nil _ _⟩
  have cutsBlank : bracketless.Cuts
      ⟨[' ', '0', 'x'], ⟨"notes", 1, 2⟩, 1⟩
      ⟨Recognizer.blank.toRule, [' '], none⟩
      ⟨['0', 'x'], ⟨"notes", 1, 3⟩, 2⟩ :=
    ⟨rfl, rfl, rfl, rfl, List.cons_ne_nil _ _⟩
  have chosenNumbers : bracketless.chosen ⟨['0', 'x'], ⟨"notes", 1, 3⟩, 2⟩
      = some Recognizer.numbers.toRule := rfl
  have refusesNumber
      : Recognizer.numbers.toRule.answerAt ⟨['0', 'x'], ⟨"notes", 1, 3⟩, 2⟩
        = .error (.error ⟨.invalidNumber "0x", none⟩) :=
    (Recognizer.answerAt_toRule ..).trans rfl
  have chosenBracket : bracketless.chosen (Cursor.ofText "notes" "[]").view
      = some bracketRefused := rfl
  have refusesBracket
      : bracketRefused.answerAt (Cursor.ofText "notes" "[]").view
        = .error (.error ⟨.custom "brackets are reserved", some ⟨"notes", 1, 2⟩⟩) := rfl
  have stuckNumber := stuck_of_refuses chosenNumbers refusesNumber
  have stuckBracket := stuck_of_refuses chosenBracket refusesBracket
  obtain ⟨pieces, rest, -, only, -, -, -, hlexemes, hends, -⟩ :=
    bracketless.session_decomposes onlyLooks_bracketless (Cursor.ofText "notes" "a 0x")
  obtain ⟨rfl, rfl⟩ := only _ _ (.cut cutsWord (.cut cutsBlank (.stuck stuckNumber)))
  obtain ⟨pieces, rest, -, only, -, -, -, -, hends', -⟩ :=
    bracketless.session_decomposes onlyLooks_bracketless (Cursor.ofText "notes" "[]")
  obtain ⟨rfl, rfl⟩ := only _ _ (.stuck stuckBracket)
  refine ⟨onlyLooks_bracketless, hlexemes, ?_, ?_⟩
  · exact (hends.failed _ _).2
      ⟨List.cons_ne_nil _ _, _, _, chosenNumbers, refusesNumber, rfl, rfl, rfl⟩
  · exact (hends'.failed _ _).2
      ⟨List.cons_ne_nil _ _, _, _, chosenBracket, refusesBracket, rfl, rfl, rfl⟩

end Tokenizer

end Lexical
