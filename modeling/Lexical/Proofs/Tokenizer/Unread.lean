import Lexical.Proofs.Recognizer.Causal
import Lexical.Proofs.Source.Feed
import Lexical.Proofs.Tokenizer.Round
import Mathlib

/-! What a tokenizer of recognizers did not read has no influence on it: over a source that gives
the same answers to as many questions as were asked, it does the same again and asks no more.
-/

namespace Lexical

-----------------------------------------------------------------------------------------
-- Rounds and sessions
-----------------------------------------------------------------------------------------

/-- Whether the rule can start, and what it consumes, depends only on what it reads. -/
structure Rule.OnlyReads (rule : Rule) : Prop where
  canStart : Causal rule.canStart.run
  consume : Causal rule.consume.run

namespace Tokenizer

theorem causal_firstStarting {rules : List Rule} (h : ∀ rule ∈ rules, rule.OnlyReads)
    : Causal (firstStarting rules).run := by
  induction rules with
  | nil => exact Scan.causal_pure _
  | cons rule others ih =>
      have hothers := ih (fun other member => h other (List.mem_cons_of_mem rule member))
      refine Scan.causal_bind (h rule List.mem_cons_self).canStart ?_
      intro starts
      split
      · exact Scan.causal_pure _
      · exact hothers

theorem mem_of_firstStarting {rules : List Rule} {rule : Rule} {c : Cursor}
    (h : ((firstStarting rules).run c).1 = some rule)
    : rule ∈ rules := by
  induction rules generalizing c with
  | nil => cases h
  | cons first others ih =>
      rw [firstStarting, Scan.run_bind] at h
      split at h
      · cases h
        exact List.mem_cons_self
      · exact List.mem_cons_of_mem first (ih h)

/-- A round depends only on what it reads, as does each of the rules that it may choose. -/
theorem causal_round {tokenizer : Tokenizer} (h : ∀ rule ∈ tokenizer.rules, rule.OnlyReads)
    : Causal tokenizer.round.run := by
  refine Scan.causal_bind (Scan.causal_peek 0) ?_
  rintro (_ | character)
  · exact Scan.causal_pure _
  · intro c
    refine Scan.causalAt_bind (causal_firstStarting h c) ?_
    cases hchosen : ((firstStarting tokenizer.rules).run c).1 with
    | none => exact Scan.causal_pure _ _
    | some rule => exact Scan.causal_map (h rule (mem_of_firstStarting hchosen)).consume _

/-- A session depends only on what it reads, by induction over the characters that remain: a round
either ends it or leaves a shorter session.
-/
theorem causal_sessionOnto {tokenizer : Tokenizer}
    (h : ∀ rule ∈ tokenizer.rules, rule.OnlyReads) (found : List Lexeme)
    : Causal (tokenizer.sessionOnto found) := by
  intro c
  induction hlength : c.remaining.length using Nat.strongRecOn generalizing found c with
  | ind _ ih =>
      subst hlength
      have hround := causal_round h c
      -- The ending depends on the answer, the place and the counts only, on which both runs agree.
      cases hending : (tokenizer.round.run c).1.ending? c.origin c.consumed
          (tokenizer.round.run c).2.consumed with
      | some ending =>
          have hstop := Scan.causal_pure (⟨found.reverse, ending⟩ : Session)
          refine causalAt_of_goesOn _ hround (hstop _) ?_
          intro d hresult horigin hconsumed hafter
          rw [← hresult, ← horigin, ← hconsumed, ← hafter] at hending
          exact sessionOnto_of_ending hending found
      | none =>
          obtain ⟨rule, token?, hanswer, hmoved⟩ := Round.exists_of_ending?_eq_none hending
          have hshorter := (tokenizer.round.reaches c).remaining_length_lt hmoved
          let lexeme :=
            Round.lexeme c.origin c.consumed (tokenizer.round.run c).2.consumed rule token?
          refine causalAt_of_goesOn _ hround (ih _ hshorter (lexeme :: found) _ rfl) ?_
          intro d hresult horigin hconsumed hafter
          rw [sessionOnto_of_lexeme (hresult.trans hanswer) (by omega), horigin, hconsumed, hafter]

-----------------------------------------------------------------------------------------
-- Runs over sources and feeds
-----------------------------------------------------------------------------------------

/-- What can be told of a run when it is over: its outcome, how often the source was asked and how
often the question got through, whether it had ended, and the place and the count that were reached.
-/
@[ext] structure Report where
  outcome : Except Failure (List Token)
  asks : Nat
  reads : Nat
  ended : Bool
  place : Position
  consumed : Nat

/-- The report of a run over a source. -/
def report (tokenizer : Tokenizer) (name : String) (source : Source) : Report :=
  let (outcome, rest) := tokenizer.tokenize (Cursor.ofSource name source)
  ⟨outcome, rest.source.asks, rest.source.reads, rest.source.ended, rest.origin, rest.consumed⟩

/-- A run over a feed ends with the report: a run over some of its first answers has that report,
and asked for no more than these.
-/
def Reports (tokenizer : Tokenizer) (name : String) (feed : Feed) (report : Report) : Prop :=
  ∃ count, tokenizer.report name (feed.watched count) = report ∧ report.asks ≤ count

variable {recognizers : List Recognizer} {name : String} {feed first second : Feed}
  {seen seen' : Report}

theorem causal_tokenize (recognizers : List Recognizer)
    : Causal (ofRecognizers recognizers).tokenize := by
  intro c
  have hrules : ∀ rule ∈ (ofRecognizers recognizers).rules, rule.OnlyReads := by
    intro rule member
    obtain ⟨recognizer, -, rfl⟩ := List.mem_map.1 member
    exact ⟨recognizer.causal_canStart, recognizer.causal_consume⟩
  obtain ⟨reads, agrees⟩ := causal_sessionOnto hrules [] c
  refine ⟨reads, ?_⟩
  intro bound d h within
  obtain ⟨hsession, hrest⟩ := agrees h within
  exact ⟨congrArg Session.outcome hsession, hrest⟩

/-- A source that agrees on as many questions as a run asked leads to the same report, but for the
questions that get through, which are the same if both sources are steady or both are not.
-/
theorem report_of_agreesUpTo {s t : Source}
    (h : s.AgreesUpTo ((ofRecognizers recognizers).report name s).asks t)
    : let seen := (ofRecognizers recognizers).report name s
      let other := (ofRecognizers recognizers).report name t
      other = { seen with reads := other.reads } ∧ (t.steady = s.steady → other = seen) := by
  intro seen other
  have hcausal := causal_tokenize recognizers
  have hstart : (Cursor.ofSource name s).AgreesUpTo seen.asks (Cursor.ofSource name t) :=
    ⟨h, rfl, rfl, rfl⟩
  obtain ⟨houtcome, hrest⟩ := (hcausal _).agrees hstart (Nat.le_refl _)
  have hother : other = { seen with reads := other.reads } :=
    Report.ext houtcome hrest.source.asks rfl hrest.source.ended hrest.origin hrest.consumed
  refine ⟨hother, fun alike => hother.trans ?_⟩
  have hreads : other.reads = seen.reads := by
    apply hrest.source.reads
    rw [(hcausal _).reads.steady, (hcausal _).reads.steady]
    exact alike
  rw [hreads]

/-- The source that a run leaves is the one it started from, after the questions of its report. -/
theorem since_report (recognizers : List Recognizer) (name : String) {source : Source}
    (unasked : source.Unasked)
    : let seen := (ofRecognizers recognizers).report name source
      seen.ended = decide (source.remaining.length < seen.asks)
      ∧ (source.steady = true → seen.reads = seen.asks)
      ∧ (source.steady = false → seen.reads = min seen.asks (source.remaining.length + 1))
      ∧ (seen.ended = false → seen.reads = seen.asks) := by
  intro seen
  have hcausal := causal_tokenize recognizers (Cursor.ofSource name source)
  have hsince := unasked.since.readsTo hcausal.reads
  exact ⟨hsince.ended, hsince.reads_of_steady, hsince.reads_of_unsteady, hsince.reads_of_going⟩

/-- A run over a feed has one report: watching the feed for longer shows nothing else. -/
theorem Reports.unique (h : (ofRecognizers recognizers).Reports name feed seen)
    (h' : (ofRecognizers recognizers).Reports name feed seen')
    : seen' = seen := by
  obtain ⟨count, rfl, within⟩ := h
  obtain ⟨more, rfl, within'⟩ := h'
  rcases Nat.le_total count more with less | less
  · refine (report_of_agreesUpTo ?_).2 rfl
    exact Feed.watched_agreesUpTo within (Nat.le_trans within less) (fun _ _ => rfl)
  · symm
    refine (report_of_agreesUpTo ?_).2 rfl
    exact Feed.watched_agreesUpTo within' (Nat.le_trans within' less) (fun _ _ => rfl)

/-- A feed that gives a cursor the same answers to as many questions as a run asked leads to the
same report and no other, but for the questions that get through: they are the same unless the end
was seen and only one of the feeds is steady.
-/
theorem Reports.of_given (h : (ofRecognizers recognizers).Reports name first seen)
    (same : ∀ index < seen.asks, second.given index = first.given index)
    : ∃ reads,
        (second.steady = first.steady ∨ seen.ended = false → reads = seen.reads)
        ∧ ∀ other,
            (ofRecognizers recognizers).Reports name second other
            ↔ other = { seen with reads } := by
  obtain ⟨count, rfl, within⟩ := h
  obtain ⟨hother, halike⟩ :=
    report_of_agreesUpTo (Feed.watched_agreesUpTo within within same)
  have hreports : (ofRecognizers recognizers).Reports name second _ := ⟨count, hother, within⟩
  refine ⟨((ofRecognizers recognizers).report name (second.watched count)).reads, ?_,
    fun other => ⟨?_, ?_⟩⟩
  · rintro (alike | going)
    · exact congrArg Report.reads (halike alike)
    · obtain ⟨-, -, -, hfirst⟩ := since_report recognizers name (first.unasked_watched count)
      obtain ⟨-, -, -, hsecond⟩ := since_report recognizers name (second.unasked_watched count)
      have hended := congrArg Report.ended hother
      have hasks := congrArg Report.asks hother
      exact (hsecond (hended.trans going)).trans (hasks.trans (hfirst going).symm)
  · exact fun h => hreports.unique h
  · rintro rfl
    exact hreports

/-- It is enough that a feed has the same answers to the questions that got through: the others were
asked behind an end that both feeds have.
-/
theorem Reports.given_eq_of_answer_eq (h : (ofRecognizers recognizers).Reports name first seen)
    (same : ∀ index < seen.reads, second.answer index = first.answer index)
    : ∀ index < seen.asks, second.given index = first.given index := by
  obtain ⟨count, rfl, within⟩ := h
  obtain ⟨-, steady, unsteady, -⟩ := since_report recognizers name (first.unasked_watched count)
  intro index hindex
  apply Feed.given_eq_of_answer_eq same
  cases hsteady : first.steady with
  | true => exact .inl (hindex.trans_eq (steady hsteady).symm)
  | false =>
      have hreads := unsteady hsteady
      by_cases inside : index < (first.watched count).remaining.length + 1
      · exact .inl (by omega)
      · -- The source was asked for more than it has, and the answer behind its characters was none.
        have watched : (first.watched count).remaining.length < count := by omega
        have hnothing : first.given (first.watched count).remaining.length = none := by
          rw [← Feed.getElem?_remaining_watched watched]
          exact List.getElem?_eq_none (Nat.le_refl _)
        obtain ⟨length, le, ends⟩ := Feed.exists_end_of_given hnothing
        exact .inr ⟨length, by omega, ends⟩

/-- Where a source gives what a feed does, a run over the feed ends as one over the source. -/
theorem reports_of_gives {source : Source} (unasked : source.Unasked)
    (gives : ∀ index, source.remaining[index]? = feed.given index)
    (alike : feed.steady = source.steady)
    : (ofRecognizers recognizers).Reports name feed
        ((ofRecognizers recognizers).report name source) :=
  ⟨_, (report_of_agreesUpTo (Feed.agreesUpTo_watched unasked gives _)).2 alike, Nat.le_refl _⟩

/-- A run over a feed with an end ends. -/
theorem exists_reports_of_end (recognizers : List Recognizer) (name : String) {length : Nat}
    (ends : feed.answer length = none)
    : ∃ seen, (ofRecognizers recognizers).Reports name feed seen :=
  ⟨_, reports_of_gives (feed.unasked_watched (length + 1))
    (Feed.getElem?_remaining_watched_of_end ends (Nat.lt_succ_self length)) rfl⟩

/-- A run over the feed of a text is one over the text as a source. -/
theorem reports_ofText_iff {text : List Char}
    : (ofRecognizers recognizers).Reports name (.ofText text) seen
      ↔ seen = (ofRecognizers recognizers).report name (.ofText (String.ofList text)) := by
  have hreports : (ofRecognizers recognizers).Reports name (.ofText text)
      ((ofRecognizers recognizers).report name (.ofText (String.ofList text))) := by
    refine reports_of_gives ⟨rfl, rfl, rfl⟩ (fun index => ?_) rfl
    rw [Source.remaining_ofText, String.toList_ofList, Feed.given_ofText]
  constructor
  · exact hreports.unique
  · rintro rfl
    exact hreports

/-- Input that was not read has no influence on a run of recognizers. Where a run over a feed ends,
it ends over every feed with the same answers to the questions that were asked, or only to those
that got through: with the same outcome, as many questions, the same place and count, and nothing
else; and as many questions get through, unless the end was seen and only one of the feeds is
steady. Where the end of a text was not seen, the text behind the characters that were read can be
any other. And a run over a feed with an end does end.
-/
theorem report_ignores_unread (recognizers : List Recognizer) (name : String)
    : (∀ (first second : Feed) (seen : Report),
        (ofRecognizers recognizers).Reports name first seen
        → (∀ index < seen.asks, second.given index = first.given index)
          ∨ (∀ index < seen.reads, second.answer index = first.answer index)
        → ∃ reads,
            (second.steady = first.steady ∨ seen.ended = false → reads = seen.reads)
            ∧ ∀ other,
                (ofRecognizers recognizers).Reports name second other
                ↔ other = { seen with reads })
      ∧ (∀ (text : List Char) (seen : Report),
          (ofRecognizers recognizers).Reports name (.ofText text) seen
          → seen.ended = false
          → seen.asks ≤ text.length
            ∧ seen.reads = seen.asks
            ∧ ∀ rest,
                (ofRecognizers recognizers).Reports name (.ofText (text.take seen.asks ++ rest))
                  seen)
      ∧ ∀ (feed : Feed) (length : Nat),
          feed.answer length = none
          → ∃ seen, (ofRecognizers recognizers).Reports name feed seen := by
  refine ⟨?_, ?_, fun _ _ => exists_reports_of_end recognizers name⟩
  · intro first second seen reports same
    exact reports.of_given (same.elim id reports.given_eq_of_answer_eq)
  · intro text seen reports going
    have hseen := reports_ofText_iff.1 reports
    have unasked : (Source.ofText (String.ofList text)).Unasked := ⟨rfl, rfl, rfl⟩
    obtain ⟨hended, -, -, hgoing⟩ := since_report recognizers name unasked
    rw [← hseen] at hended hgoing
    rw [going, Source.remaining_ofText, String.toList_ofList] at hended
    have hlength : seen.asks ≤ text.length :=
      Nat.le_of_not_lt (of_decide_eq_false hended.symm)
    refine ⟨hlength, hgoing going, ?_⟩
    intro rest
    have same : ∀ index < seen.asks,
        (Feed.ofText (text.take seen.asks ++ rest)).given index
        = (Feed.ofText text).given index := by
      intro index hindex
      have hinside : index < (text.take seen.asks).length := by
        rw [List.length_take]
        omega
      rw [Feed.given_ofText, Feed.given_ofText, List.getElem?_append_left hinside,
        List.getElem?_take_of_lt hindex]
    obtain ⟨reads, halike, hother⟩ := reports.of_given same
    exact (hother seen).2 (by rw [halike (.inl rfl)])

/-- A word, and then a sign for ever. -/
def endlessSigns : Feed where
  answer index := if index = 0 then some 'a' else some '#'
  steady := true
  stays _ index ends := by split at ends <;> cases ends

/-- Over a feed without an end the run asks twice and fails at the sign. It does so too over a text
of these two characters and whatever comes behind them.
-/
theorem error_before_unread_input
    : let unexpected : Error := ⟨.unexpectedCharacter '#', some ⟨"notes", 1, 2⟩⟩
      let seen : Report := ⟨.error (.error unexpected), 2, 2, false, ⟨"notes", 1, 2⟩, 1⟩
      (ofRecognizers [.words]).Reports "notes" endlessSigns seen
      ∧ ∀ rest, (ofRecognizers [.words]).Reports "notes" (.ofText ('a' :: '#' :: rest)) seen := by
  intro unexpected seen
  have reports : (ofRecognizers [.words]).Reports "notes" endlessSigns seen :=
    ⟨2, by cbv, Nat.le_refl 2⟩
  obtain ⟨feeds, texts, -⟩ := report_ignores_unread [.words] "notes"
  have same : ∀ index < 2, (Feed.ofText ['a', '#']).given index = endlessSigns.given index := by
    decide
  obtain ⟨reads, alike, hother⟩ :=
    feeds endlessSigns (.ofText ['a', '#']) seen reports (.inl same)
  have reportsText : (ofRecognizers [.words]).Reports "notes" (.ofText ['a', '#']) seen :=
    (hother seen).2 (by rw [alike (.inl rfl)])
  exact ⟨reports, (texts ['a', '#'] seen reportsText rfl).2.2⟩

end Tokenizer

end Lexical
