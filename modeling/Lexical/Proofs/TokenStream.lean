import Lexical.TokenStream
import Mathlib.Data.List.Basic

/-! Histories of a stream of tokens. Whatever is asked of a stream, taken from it and spliced into
it, no token is lost, doubled or moved past another one of its batch: what was taken and what is
left are together an interleaving of the first tokens and of all that were spliced in.
-/

namespace Lexical

-----------------------------------------------------------------------------------------
-- Interleaving
-----------------------------------------------------------------------------------------

/-- Every element of the row comes from one of the batches, which are counted from 0; those that
come from a batch are all of it and in its order.
-/
def Interleaves {α : Type} (batches : List (List α)) (row : List α) : Prop :=
  ∃ marked : List (Nat × α),
    marked.map Prod.snd = row
    ∧ ∀ index, (marked.filter (·.1 == index)).map Prod.snd = batches.getD index []

/-- Of elements that all have one mark, those with a given mark are all or none. -/
theorem filter_map_mark {α : Type} (mark index : Nat) (elements : List α)
    : ((elements.map (mark, ·)).filter (·.1 == index)).map Prod.snd
      = if mark = index then elements else [] := by
  by_cases h : mark = index <;> induction elements <;> simp_all

theorem interleaves_singleton {α : Type} (row : List α) : Interleaves [row] row := by
  refine ⟨row.map (0, ·), ?_, ?_⟩
  · rw [List.map_map]
    exact List.map_id row
  · intro index
    rw [filter_map_mark]
    cases index <;> rfl

/-- A further batch can be put into the row in one piece, wherever the row is cut. Its elements are
marked with the first number that was free.
-/
theorem Interleaves.insert {α : Type} {batches : List (List α)} {front rest : List α}
    (h : Interleaves batches (front ++ rest)) (more : List α)
    : Interleaves (batches ++ [more]) (front ++ more ++ rest) := by
  obtain ⟨marked, hrow, hbatches⟩ := h
  obtain ⟨first, last, rfl, rfl, rfl⟩ := List.map_eq_append_iff.1 hrow
  refine ⟨first ++ more.map (batches.length, ·) ++ last, ?_, ?_⟩
  · rw [List.map_append, List.map_append, List.map_map]
    exact congrArg (_ ++ · ++ _) (List.map_id more)
  · intro index
    have hold := hbatches index
    simp only [List.filter_append, List.map_append, filter_map_mark, List.getD_eq_getElem?_getD]
      at hold ⊢
    by_cases hnew : batches.length = index
    · subst hnew
      rw [List.getElem?_eq_none (Nat.le_refl _), Option.getD_none, List.append_eq_nil_iff] at hold
      rw [if_pos rfl, hold.1, hold.2, List.getElem?_concat_length, Option.getD_some,
        List.nil_append, List.append_nil]
    · rw [if_neg hnew, List.append_nil, hold]
      rcases Nat.lt_or_gt_of_ne hnew with beyond | within
      · rw [List.getElem?_eq_none (by omega),
          List.getElem?_eq_none (by rw [List.length_append, List.length_singleton]; omega)]
      · rw [List.getElem?_append_left within]

namespace TokenStream

-----------------------------------------------------------------------------------------
-- What expectations give
-----------------------------------------------------------------------------------------

section Expectations

variable {stream : TokenStream} {expected : Kind} {value : Value} {token : Token}

/-- A check that gives the token itself or nothing leaves alone what it lets through. -/
theorem eq_ok_of_bind_check {result : Except Error Token} {check : Token → Except Error Token}
    (same : ∀ first found, check first = .ok found → found = first)
    (given : (result >>= check) = .ok token)
    : result = .ok token := by
  cases result with
  | error error => cases given
  | ok first => rw [same first token given]

theorem eq_of_checkKind (first found : Token) (passed : checkKind expected first = .ok found)
    : found = first := by
  unfold checkKind at passed
  split at passed <;> cases passed
  rfl

theorem eq_of_checkValue (first found : Token)
    (passed : checkValue expected value first = .ok found)
    : found = first := by
  unfold checkValue at passed
  split at passed <;> cases passed
  rfl

theorem head?_of_expectToken (given : (stream.expectToken expected).1 = .ok token)
    : stream.remaining.head? = some token := by
  obtain ⟨remaining⟩ := stream
  cases remaining with
  | nil => cases given
  | cons first rest =>
      cases given
      rfl

theorem head?_of_expectKind (given : (stream.expectKind expected).1 = .ok token)
    : stream.remaining.head? = some token :=
  head?_of_expectToken (eq_ok_of_bind_check eq_of_checkKind given)

theorem head?_of_expectValue (given : (stream.expectValue expected value).1 = .ok token)
    : stream.remaining.head? = some token :=
  head?_of_expectKind (eq_ok_of_bind_check eq_of_checkValue given)

end Expectations

-----------------------------------------------------------------------------------------
-- Actions on a stream
-----------------------------------------------------------------------------------------

/-- A question to a stream of tokens or a step on it. -/
inductive Action where
  | peek (offset : Nat)
  | isAtEnd
  | length
  | nextIs (kind : Kind)
  | nextIsAny (kinds : List Kind)
  | nextHolds (kind : Kind) (value : Value)
  | next
  | expectToken (expected : Kind)
  | expectKind (expected : Kind)
  | expectValue (expected : Kind) (value : Value)
  | spliceFront (tokens : List Token)
  | spliceAt (index : Nat) (tokens : List Token)

/-- What an action gives. -/
inductive Reply where
  | token (found? : Option Token)
  | verdict (holds : Bool)
  | count (number : Nat)
  | expectation (result : Except Error Token)
  | spliced
  | refused (breach : Breach)

/-- The token that a reply gives, if it gives one. -/
def Reply.token? : Reply → Option Token
  | .token found? => found?
  | .expectation (.ok found) => some found
  | _ => none

theorem Reply.eq_ok_of_token? {result : Except Error Token} {token : Token}
    (given : (expectation result).token? = some token)
    : result = .ok token := by
  cases result with
  | error error => cases given
  | ok found =>
      cases given
      rfl

namespace Action

/-- The action on a stream: what it gives and what it leaves. -/
def on (stream : TokenStream) : Action → Reply × TokenStream
  | peek offset => (.token (stream.peek? offset), stream)
  | isAtEnd => (.verdict stream.isAtEnd, stream)
  | length => (.count stream.length, stream)
  | nextIs kind => (.verdict (stream.nextIs kind), stream)
  | nextIsAny kinds => (.verdict (stream.nextIsAny kinds), stream)
  | nextHolds kind value => (.verdict (stream.nextHolds kind value), stream)
  | next => (.token stream.next.1, stream.next.2)
  | expectToken expected =>
    let (result, rest) := stream.expectToken expected
    (.expectation result, rest)
  | expectKind expected =>
    let (result, rest) := stream.expectKind expected
    (.expectation result, rest)
  | expectValue expected value =>
    let (result, rest) := stream.expectValue expected value
    (.expectation result, rest)
  | spliceFront tokens => (.spliced, stream.spliceFront tokens)
  | spliceAt index tokens =>
    match stream.spliceAt index tokens with
    | .ok changed => (.spliced, changed)
    | .error breach => (.refused breach, stream)

/-- Whether the action takes the next token, be it the expected one or not. -/
def takes : Action → Bool
  | next | expectToken _ | expectKind _ | expectValue _ _ => true
  | _ => false

/-- The tokens that the action puts into a stream, if it is not refused. -/
def batch? : Action → Reply → Option (List Token)
  | spliceFront tokens, .spliced | spliceAt _ tokens, .spliced => some tokens
  | _, _ => none

/-- Taking the next token, whatever it is, gives the first one that is left, if there is one. -/
theorem token?_of_next (stream : TokenStream) (expected : Kind)
    : (next.on stream).1 = .token stream.remaining.head?
      ∧ ((Action.expectToken expected).on stream).1.token? = stream.remaining.head? := by
  refine ⟨rfl, ?_⟩
  obtain ⟨_ | ⟨token, rest⟩⟩ := stream <;> rfl

/-- What a taking action gives is the token that it takes. -/
theorem head?_of_takes {stream : TokenStream} {action : Action} (takes : action.takes)
    {token : Token} (given : (action.on stream).1.token? = some token)
    : stream.remaining.head? = some token := by
  cases action with
  | next => exact given
  | expectToken expected => exact head?_of_expectToken (Reply.eq_ok_of_token? given)
  | expectKind expected => exact head?_of_expectKind (Reply.eq_ok_of_token? given)
  | expectValue expected value => exact head?_of_expectValue (Reply.eq_ok_of_token? given)
  | _ => cases takes

end Action

/-- What has become of the tokens: those taken so far, in order, the batches that were spliced in,
in order, and the stream of those that are left.
-/
structure Ledger where
  taken : List Token := []
  spliced : List (List Token) := []
  stream : TokenStream

namespace Ledger

/-- The ledger after one more action. -/
def step (ledger : Ledger) (action : Action) : Ledger :=
  let (reply, rest) := action.on ledger.stream
  { taken := ledger.taken ++ if action.takes then ledger.stream.remaining.take 1 else []
    spliced := ledger.spliced ++ (action.batch? reply).toList
    stream := rest }

/-- The ledger after actions one by one. -/
def run (ledger : Ledger) (actions : List Action) : Ledger :=
  actions.foldl step ledger

variable {ledger : Ledger} {action : Action}

/-- Every taking action takes the next token off the stream, also where it fails. -/
theorem step_of_takes (takes : action.takes)
    : ledger.step action
      = { ledger with
          taken := ledger.taken ++ ledger.stream.remaining.take 1
          stream := ⟨ledger.stream.remaining.drop 1⟩ } := by
  obtain ⟨taken, spliced, ⟨remaining⟩⟩ := ledger
  cases action with
  | next => cases remaining <;> simp [step, Action.on, Action.takes, Action.batch?, next]
  | expectToken expected =>
      cases remaining <;>
        simp [step, Action.on, Action.takes, Action.batch?, expectToken, next]
  | expectKind expected =>
      cases remaining <;>
        simp [step, Action.on, Action.takes, Action.batch?, expectKind, expectToken, next]
  | expectValue expected value =>
      cases remaining <;>
        simp [step, Action.on, Action.takes, Action.batch?, expectValue, expectKind,
          expectToken, next]
  | _ => cases takes

/-- A splice puts its tokens before the one at the index; past the end it is refused. -/
theorem step_spliceAt (ledger : Ledger) (index : Nat) (tokens : List Token)
    : ledger.step (.spliceAt index tokens)
      = if index ≤ ledger.stream.length then
          { ledger with
            spliced := ledger.spliced ++ [tokens]
            stream :=
              ⟨ledger.stream.remaining.take index ++ tokens
                ++ ledger.stream.remaining.drop index⟩ }
        else ledger := by
  by_cases inside : index ≤ ledger.stream.length
  · simp [step, Action.on, Action.takes, Action.batch?, spliceAt, inside]
  · simp [step, Action.on, Action.takes, Action.batch?, spliceAt, inside]

theorem step_spliceFront (ledger : Ledger) (tokens : List Token)
    : ledger.step (.spliceFront tokens)
      = { ledger with
          spliced := ledger.spliced ++ [tokens]
          stream := ⟨tokens ++ ledger.stream.remaining⟩ } := by
  simp [step, Action.on, Action.takes, Action.batch?, spliceFront]

/-- What any action does to the tokens: it takes some from the front, or none, or it puts some in
between two parts of those that are left.
-/
theorem step_cases (ledger : Ledger) (action : Action)
    : (∃ front rest,
        ledger.stream.remaining = front ++ rest
        ∧ ledger.step action
          = { ledger with taken := ledger.taken ++ front, stream := ⟨rest⟩ })
      ∨ ∃ front rest tokens,
          ledger.stream.remaining = front ++ rest
          ∧ ledger.step action
            = { ledger with
                spliced := ledger.spliced ++ [tokens]
                stream := ⟨front ++ tokens ++ rest⟩ } := by
  have looks (same : ledger.step action = ledger)
      : ∃ front rest,
          ledger.stream.remaining = front ++ rest
          ∧ ledger.step action
            = { ledger with taken := ledger.taken ++ front, stream := ⟨rest⟩ } :=
    ⟨[], _, rfl, by rw [same, List.append_nil]⟩
  have takes (takes : action.takes)
      : ∃ front rest,
          ledger.stream.remaining = front ++ rest
          ∧ ledger.step action
            = { ledger with taken := ledger.taken ++ front, stream := ⟨rest⟩ } :=
    ⟨_, _, (List.take_append_drop 1 _).symm, step_of_takes takes⟩
  cases action with
  | next => exact .inl (takes rfl)
  | expectToken expected => exact .inl (takes rfl)
  | expectKind expected => exact .inl (takes rfl)
  | expectValue expected value => exact .inl (takes rfl)
  | spliceFront tokens => exact .inr ⟨[], _, tokens, rfl, step_spliceFront ledger tokens⟩
  | spliceAt index tokens =>
      by_cases inside : index ≤ ledger.stream.length
      · refine .inr ⟨_, _, tokens, (List.take_append_drop index _).symm, ?_⟩
        rw [step_spliceAt, if_pos inside]
      · refine .inl (looks ?_)
        rw [step_spliceAt, if_neg inside]
  | _ => exact .inl (looks (by simp [step, Action.on, Action.takes, Action.batch?]))

-----------------------------------------------------------------------------------------
-- What a history keeps
-----------------------------------------------------------------------------------------

/-- The ledger accounts for the first tokens and for all that were spliced in. -/
structure Accounts (initial : List Token) (ledger : Ledger) : Prop where
  interleaves
    : Interleaves (initial :: ledger.spliced) (ledger.taken ++ ledger.stream.remaining)
  length
    : ledger.stream.length + ledger.taken.length
      = initial.length + ledger.spliced.flatten.length

theorem accounts_start (initial : List Token) : Accounts initial { stream := ⟨initial⟩ } where
  interleaves := interleaves_singleton initial
  length := rfl

/-- An action keeps the ledger in order: what it takes only moves from one part of the row to the
other, and what it splices in becomes a further batch.
-/
theorem Accounts.step {initial : List Token} (h : Accounts initial ledger) (action : Action)
    : Accounts initial (ledger.step action) := by
  have hlength := h.length
  obtain ⟨front, rest, hremaining, hstep⟩ | ⟨front, rest, tokens, hremaining, hstep⟩ :=
    step_cases ledger action
  all_goals
    rw [hstep]
    rw [TokenStream.length, hremaining] at hlength
  · refine ⟨?_, ?_⟩
    · rw [List.append_assoc, ← hremaining]
      exact h.interleaves
    · simp only [TokenStream.length, List.length_append] at hlength ⊢
      omega
  · refine ⟨?_, ?_⟩
    · have hrow := h.interleaves
      rw [hremaining, ← List.append_assoc] at hrow
      simpa only [List.append_assoc, List.cons_append] using hrow.insert tokens
    · simp only [TokenStream.length, List.length_append, List.flatten_append,
        List.flatten_singleton] at hlength ⊢
      omega

/-- Histories keep the ledger in order, action by action. -/
theorem Accounts.run {initial : List Token} (h : Accounts initial ledger)
    (actions : List Action)
    : Accounts initial (ledger.run actions) := by
  induction actions generalizing ledger with
  | nil => exact h
  | cons action others ih => exact ih (h.step action)

/-- Splices to the front one after the other leave the last batch in front, by induction over the
batches.
-/
theorem run_spliceFront (ledger : Ledger) (batches : List (List Token))
    : ledger.run (batches.map .spliceFront)
      = { ledger with
          spliced := ledger.spliced ++ batches
          stream := ⟨batches.reverse.flatten ++ ledger.stream.remaining⟩ } := by
  induction batches generalizing ledger with
  | nil => simp [run]
  | cons batch others ih =>
      have htail := ih (ledger.step (.spliceFront batch))
      rw [run, List.map_cons, List.foldl_cons, ← run, htail, step_spliceFront]
      simp

/-- Taking actions in a row take as many tokens from the front, by induction over them. -/
theorem run_of_takes {takings : List Action} (takes : ∀ action ∈ takings, action.takes)
    (ledger : Ledger)
    : ledger.run takings
      = { ledger with
          taken := ledger.taken ++ ledger.stream.remaining.take takings.length
          stream := ⟨ledger.stream.remaining.drop takings.length⟩ } := by
  induction takings generalizing ledger with
  | nil => simp [run]
  | cons action others ih =>
      have htail := ih (fun other member => takes other (List.mem_cons_of_mem action member))
        (ledger.step action)
      rw [run, List.foldl_cons, ← run, htail, step_of_takes (takes action List.mem_cons_self)]
      cases ledger.stream.remaining <;> simp

/-- A stream neither loses nor doubles nor reorders tokens. After any history, those that were taken
and those that are left are an interleaving of the first tokens and of the batches spliced in, and
their numbers add up. A further splice goes where its index says and leaves alone what was taken,
or it is refused and changes nothing; batches spliced to the front come out the last one first; and
actions that take, whether or not they find what they expect, take the tokens from the front, so
that the token that one of them gives is the first of those that were left. That one is given
wherever any token will do, if there is one.
-/
theorem history_accounts (initial : List Token) (history : List Action)
    : let ledger := run { stream := ⟨initial⟩ } history
      let left := ledger.stream.remaining
      Interleaves (initial :: ledger.spliced) (ledger.taken ++ left)
      ∧ ledger.stream.length + ledger.taken.length
        = initial.length + ledger.spliced.flatten.length
      ∧ (∀ index tokens,
          (index ≤ ledger.stream.length
            → ledger.run [.spliceAt index tokens]
              = ⟨ledger.taken, ledger.spliced ++ [tokens],
                  ⟨left.take index ++ tokens ++ left.drop index⟩⟩)
          ∧ (ledger.stream.length < index
            → (Action.spliceAt index tokens).on ledger.stream
                = (.refused (.splicePastEnd index ledger.stream.length), ledger.stream)
              ∧ ledger.run [.spliceAt index tokens] = ledger))
      ∧ (∀ nested : List (List Token),
          ledger.run (nested.map .spliceFront)
          = ⟨ledger.taken, ledger.spliced ++ nested, ⟨nested.reverse.flatten ++ left⟩⟩)
      ∧ (∀ takings : List Action,
          (∀ action ∈ takings, action.takes)
          → ledger.run takings
            = ⟨ledger.taken ++ left.take takings.length, ledger.spliced,
                ⟨left.drop takings.length⟩⟩)
      ∧ (∀ (action : Action) token,
          action.takes
          → (action.on ledger.stream).1.token? = some token
          → left.head? = some token)
      ∧ ∀ expected,
          (Action.next.on ledger.stream).1 = .token left.head?
          ∧ ((Action.expectToken expected).on ledger.stream).1.token? = left.head? := by
  intro ledger left
  have accounts : Accounts initial ledger := (accounts_start initial).run history
  refine ⟨accounts.interleaves, accounts.length, ?_, run_spliceFront ledger,
    fun takings takes => run_of_takes takes ledger,
    fun action token takes given => Action.head?_of_takes takes given,
    Action.token?_of_next ledger.stream⟩
  intro index tokens
  have hstep : ledger.run [.spliceAt index tokens] = _ := step_spliceAt ledger index tokens
  constructor
  · intro inside
    rw [hstep, if_pos inside]
  · intro outside
    refine ⟨?_, ?_⟩
    · rw [Action.on, spliceAt, if_neg (Nat.not_le.2 outside)]
    · rw [hstep, if_neg (Nat.not_le.2 outside)]

/-- A token that is told apart by its kind alone. -/
def named (name : String) : Token := { kind := ⟨name⟩, value := .absent }

/-- Two tokens, of which one was taken before two others were spliced in. A third splice goes behind
the last token or, with a greater index, nowhere; and the next token is taken even where another
kind was expected.
-/
theorem history_with_splices
    : let ledger := run { stream := ⟨[named "a", named "b"]⟩ }
        [.next, .spliceFront [named "c"], .spliceAt 1 [named "d"]]
      ledger
        = ⟨[named "a"], [[named "c"], [named "d"]], ⟨[named "c", named "d", named "b"]⟩⟩
      ∧ Interleaves [[named "a", named "b"], [named "c"], [named "d"]]
          [named "a", named "c", named "d", named "b"]
      ∧ ledger.run [.spliceAt 3 [named "e"]]
        = ⟨[named "a"], [[named "c"], [named "d"], [named "e"]],
            ⟨[named "c", named "d", named "b", named "e"]⟩⟩
      ∧ ledger.run [.spliceAt 4 [named "e"]] = ledger
      ∧ ledger.run [.expectKind ⟨"e"⟩]
        = ⟨[named "a", named "c"], [[named "c"], [named "d"]], ⟨[named "d", named "b"]⟩⟩
      ∧ (Action.next.on ledger.stream).1 = .token (some (named "c")) := by
  intro ledger
  have hledger : ledger
      = ⟨[named "a"], [[named "c"], [named "d"]], ⟨[named "c", named "d", named "b"]⟩⟩ := rfl
  obtain ⟨interleaves, -, splices, -, takes, -, gives⟩ :=
    history_accounts [named "a", named "b"]
      [.next, .spliceFront [named "c"], .spliceAt 1 [named "d"]]
  obtain ⟨inside, -⟩ := splices 3 [named "e"]
  obtain ⟨-, outside⟩ := splices 4 [named "e"]
  refine ⟨hledger, interleaves, inside (by decide), (outside (by decide)).2,
    takes [.expectKind ⟨"e"⟩] (by simp [Action.takes]), (gives ⟨"e"⟩).1⟩

end Ledger

end TokenStream

end Lexical
