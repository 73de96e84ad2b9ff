import Lexical.Proofs.Source.ReadCount

/-! Feeds: all that a source would ever answer, which may have no end. Who asks a feed so many times
has seen so many of its answers, and knows the feed as a source that has only these to give.
-/

namespace Lexical

-----------------------------------------------------------------------------------------
-- Feeds and the sources that they are seen as
-----------------------------------------------------------------------------------------

/-- An answer to each question: a character, or none. A steady feed stays at its end once it is
there; any other may go on behind it.
-/
structure Feed where
  answer : Nat → Option Char
  steady : Bool
  stays : steady = true → ∀ index, answer index = none → answer (index + 1) = none

namespace Feed

/-- The feed of the characters of a text. -/
def ofText (text : List Char) : Feed where
  answer index := text[index]?
  steady := true
  stays _ index behind := by
    rw [List.getElem?_eq_none_iff] at behind ⊢
    exact Nat.le_succ_of_le behind

/-- The source of the first answers. -/
def watched (feed : Feed) (count : Nat) : Source where
  pending := (List.range count).map feed.answer
  steady := feed.steady

/-- What is given to a cursor that goes on asking: the answers before the end of the feed, and none
from there on.
-/
def given (feed : Feed) (index : Nat) : Option Char :=
  if ∀ earlier < index, feed.answer earlier ≠ none then feed.answer index else none

variable {feed first second : Feed} {index count length : Nat}

-----------------------------------------------------------------------------------------
-- What is given
-----------------------------------------------------------------------------------------

theorem given_of_going (going : ∀ earlier < index, feed.answer earlier ≠ none)
    : feed.given index = feed.answer index :=
  if_pos going

theorem given_of_end (ends : feed.answer length = none) (behind : length ≤ index)
    : feed.given index = none := by
  unfold given
  split
  · next going =>
      rcases Nat.lt_or_eq_of_le behind with before | rfl
      · exact absurd ends (going length before)
      · exact ends
  · rfl

/-- Where nothing is given, the feed has ended. -/
theorem exists_end_of_given (nothing : feed.given index = none)
    : ∃ length ≤ index, feed.answer length = none := by
  by_cases going : ∀ earlier < index, feed.answer earlier ≠ none
  · exact ⟨index, Nat.le_refl _, (given_of_going going).symm.trans nothing⟩
  · simp only [not_forall, not_not] at going
    obtain ⟨length, before, ends⟩ := going
    exact ⟨length, Nat.le_of_lt before, ends⟩

/-- Feeds that give the same answers at first give a cursor the same at first, and if they have
ended then, they give it the same for good.
-/
theorem given_eq_of_answer_eq
    (same : ∀ earlier < count, second.answer earlier = first.answer earlier)
    (seen : index < count ∨ ∃ length < count, first.answer length = none)
    : second.given index = first.given index := by
  rcases Nat.lt_or_ge index count with before | behind
  · have hgoing : (∀ earlier < index, second.answer earlier ≠ none)
        ↔ ∀ earlier < index, first.answer earlier ≠ none := by
      refine forall₂_congr fun earlier less => ?_
      rw [same earlier (Nat.lt_trans less before)]
    simp only [given, hgoing, same index before]
  · obtain inside | ⟨length, less, ends⟩ := seen
    · exact absurd inside (Nat.not_lt.2 behind)
    · have hbehind := Nat.le_trans (Nat.le_of_lt less) behind
      rw [given_of_end ends hbehind, given_of_end ((same length less).trans ends) hbehind]

-----------------------------------------------------------------------------------------
-- Watched answers
-----------------------------------------------------------------------------------------

/-- Before the first gap the answers are those that were listed, by induction over them. -/
theorem getElem?_leading (answers : List (Option Char)) (index : Nat)
    : (Source.leading answers)[index]?
      = if ∀ earlier < index, answers[earlier]?.join ≠ none then answers[index]?.join
        else none := by
  induction answers generalizing index with
  | nil => simp [Source.leading]
  | cons found others ih =>
      cases found with
      | none =>
          cases index with
          | zero => simp [Source.leading]
          | succ index =>
              rw [if_neg fun going => going 0 (Nat.succ_pos index) rfl]
              rfl
      | some c =>
          cases index with
          | zero => simp [Source.leading]
          | succ index =>
              simp only [Source.leading, List.getElem?_cons_succ, ih, Nat.forall_lt_succ_left,
                List.getElem?_cons_zero]
              simp

/-- As long as it is watched, the source of a feed gives what the feed does. -/
theorem getElem?_remaining_watched (inside : index < count)
    : (feed.watched count).remaining[index]? = feed.given index := by
  have hanswer {earlier : Nat} (less : earlier ≤ index)
      : ((List.range count).map feed.answer)[earlier]?.join = feed.answer earlier := by
    rw [List.getElem?_map, List.getElem?_range (by omega)]
    rfl
  have hgoing : (∀ earlier < index, ((List.range count).map feed.answer)[earlier]?.join ≠ none)
      ↔ ∀ earlier < index, feed.answer earlier ≠ none := by
    refine forall₂_congr fun earlier less => ?_
    rw [hanswer (Nat.le_of_lt less)]
  show (Source.leading ((List.range count).map feed.answer))[index]? = _
  simp only [getElem?_leading, hgoing, hanswer (Nat.le_refl index), given]

/-- Watched over its end, the source of a feed gives what the feed does for good. -/
theorem getElem?_remaining_watched_of_end (ends : feed.answer length = none)
    (watched : length < count) (index : Nat)
    : (feed.watched count).remaining[index]? = feed.given index := by
  have hend : (feed.watched count).remaining[length]? = feed.given length :=
    getElem?_remaining_watched watched
  rw [given_of_end ends (Nat.le_refl length), List.getElem?_eq_none_iff] at hend
  rcases Nat.lt_or_ge index length with before | behind
  · exact getElem?_remaining_watched (Nat.lt_trans before watched)
  · rw [given_of_end ends behind, List.getElem?_eq_none (Nat.le_trans hend behind)]

/-- Feeds that give the same at first are alike as sources, however long they are watched. -/
theorem watched_agreesUpTo {bound more : Nat} (seen : bound ≤ count) (seen' : bound ≤ more)
    (same : ∀ index < bound, second.given index = first.given index)
    : (first.watched count).AgreesUpTo bound (second.watched more) := by
  refine ⟨rfl, rfl, ?_, fun _ => rfl⟩
  intro index hindex
  have hinside : index < bound := by
    change 0 + index < bound at hindex
    omega
  rw [getElem?_remaining_watched (Nat.lt_of_lt_of_le hinside seen),
    getElem?_remaining_watched (Nat.lt_of_lt_of_le hinside seen'), same index hinside]

/-- The feed of a text gives its characters. -/
theorem given_ofText (text : List Char) (index : Nat)
    : (ofText text).given index = text[index]? := by
  by_cases inside : index < text.length
  · apply given_of_going
    intro earlier less
    show text[earlier]? ≠ none
    rw [List.getElem?_eq_getElem (Nat.lt_trans less inside)]
    exact Option.some_ne_none _
  · have hbehind := Nat.le_of_not_lt inside
    rw [given_of_end (List.getElem?_eq_none (Nat.le_refl text.length)) hbehind,
      List.getElem?_eq_none hbehind]

theorem unasked_watched (feed : Feed) (count : Nat) : (feed.watched count).Unasked :=
  ⟨rfl, rfl, rfl⟩

/-- A source that gives what a feed does is like the feed, however long that is watched. -/
theorem agreesUpTo_watched {source : Source} (unasked : source.Unasked)
    (gives : ∀ index, source.remaining[index]? = feed.given index) (bound : Nat)
    : source.AgreesUpTo bound (feed.watched bound) := by
  refine ⟨unasked.asks.symm, unasked.ended.symm, ?_, fun _ => unasked.reads.symm⟩
  intro index hindex
  rw [getElem?_remaining_watched (Nat.lt_of_le_of_lt (Nat.le_add_left _ _) hindex), gives]

end Feed

end Lexical
