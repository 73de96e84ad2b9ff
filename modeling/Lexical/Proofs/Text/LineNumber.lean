import Lexical.Proofs.Text.Line

/-! Every character of a text stands on a line of it. The place of a character names that line and
how far along it the character is, be it on the part that is shown or in the ending that is not; and
only lines that have a character have a number.
-/

namespace Lexical.Text

-----------------------------------------------------------------------------------------
-- Lines with their endings
-----------------------------------------------------------------------------------------

/-- A line of a text from an offset on: what is shown of it, and its ending. The ending is as many
carriage returns as there are and the line feed, which may be missing at the end of the text only.
-/
structure LineAt (text : List Char) (offset : Nat) (shown ending : List Char) : Prop where
  begins : offset = 0 ∨ text[offset - 1]? = some '\n'
  holds : shown ++ ending <+: text.drop offset
  unbroken : '\n' ∉ shown
  trimmed : shown.getLast? ≠ some '\r'
  ends
    : ∃ returns,
        ending = List.replicate returns '\r' ++ ['\n']
        ∨ ending = List.replicate returns '\r' ∧ text.drop offset = shown ++ ending

theorem LineAt.eq_of_mem_ending {text shown ending : List Char} {offset : Nat}
    (h : LineAt text offset shown ending) {c : Char} (member : c ∈ ending)
    : c = '\r' ∨ c = '\n' := by
  obtain ⟨returns, rfl | ⟨rfl, -⟩⟩ := h.ends
  · rcases List.mem_append.1 member with hreturn | hfeed
    · exact .inl (List.eq_of_mem_replicate hreturn)
    · exact .inr (List.mem_singleton.1 hfeed)
  · exact .inl (List.eq_of_mem_replicate member)

/-- Behind the first line of a text there are carriage returns, and then a line feed or nothing at
all: the first line is cut from what comes before the first line feed.
-/
theorem exists_ending (text : List Char)
    : ∃ returns ending others,
        text = firstLine text ++ ending ++ others
        ∧ (ending = List.replicate returns '\r' ++ ['\n']
          ∨ ending = List.replicate returns '\r' ∧ others = []) := by
  obtain ⟨trail, hbody, hreturns, -⟩ :=
    dropTrailing_spec (· == '\r') (text.takeWhile (· != '\n'))
  have htrail : trail = List.replicate trail.length '\r' :=
    List.eq_replicate_of_mem fun c member => eq_of_beq (hreturns c member)
  have hsplit : text = firstLine text ++ trail ++ text.dropWhile (· != '\n') := by
    rw [firstLine, ← hbody, List.takeWhile_append_dropWhile]
  cases hrest : text.dropWhile (· != '\n') with
  | nil =>
      rw [hrest] at hsplit
      exact ⟨trail.length, trail, [], hsplit, .inr ⟨htrail, rfl⟩⟩
  | cons c after =>
      have hstop := List.head?_dropWhile_not (· != '\n') text
      rw [hrest] at hstop
      have hfeed : c = '\n' := by simpa using hstop
      rw [hrest, hfeed] at hsplit
      refine ⟨trail.length, trail ++ ['\n'], after, ?_, .inl (congrArg (· ++ ['\n']) htrail)⟩
      simpa only [List.append_assoc, List.singleton_append] using hsplit

theorem lineFeed_notMem_firstLine (text : List Char) : '\n' ∉ firstLine text := by
  obtain ⟨trail, hbody, -⟩ := dropTrailing_spec (· == '\r') (text.takeWhile (· != '\n'))
  intro member
  have hbefore : '\n' ∈ text.takeWhile (· != '\n') := by
    rw [hbody]
    exact List.mem_append_left _ member
  simpa using List.mem_takeWhile_imp hbefore

theorem getLast?_firstLine_ne (text : List Char) : (firstLine text).getLast? ≠ some '\r' := by
  obtain ⟨trail, -, -, hlast⟩ := dropTrailing_spec (· == '\r') (text.takeWhile (· != '\n'))
  intro hreturn
  have hsome : firstLine text ≠ [] := by
    intro hnil
    rw [hnil] at hreturn
    cases hreturn
  exact hlast hsome (beq_iff_eq.2 ((List.getLast_eq_iff_getLast?_eq_some hsome).2 hreturn))

/-- Of two beginnings of a text, one without a line feed is shorter than one with a line feed, so
that the character behind the one is in the other.
-/
theorem getElem?_of_unbroken {line after first others : List Char} {c : Char}
    (unbroken : '\n' ∉ line) (same : line ++ c :: after = first ++ others)
    (broken : '\n' ∈ first ∨ others = [])
    : first[line.length]? = some c := by
  have hless : line.length < first.length := by
    rcases broken with hfeed | rfl
    · refine Nat.lt_of_not_le fun hlong => unbroken ?_
      have hfirst : first <+: line ++ c :: after := same ▸ List.prefix_append first others
      have hprefix := List.prefix_of_prefix_length_le hfirst (List.prefix_append line _) hlong
      exact hprefix.subset hfeed
    · rw [← List.append_nil first, ← same, List.length_append, List.length_cons]
      omega
  rw [← List.getElem?_append_left hless, ← same, List.getElem?_append_right (Nat.le_refl _),
    Nat.sub_self, List.getElem?_cons_zero]

namespace BreaksOff

variable {text whole line all after : List Char} {c : Char}

/-- In a text that goes on, the line that it broke off in begins behind the whole lines, and has the
next character where it broke off.
-/
theorem exists_lineAt (h : BreaksOff text whole line) (goesOn : all = text ++ c :: after)
    : ∃ ending,
        LineAt all whole.length (firstLine (line ++ c :: after)) ending
        ∧ (firstLine (line ++ c :: after) ++ ending)[line.length]? = some c := by
  have hall : all = whole ++ (line ++ c :: after) := by
    rw [goesOn, h.split, List.append_assoc]
  have hdrop : all.drop whole.length = line ++ c :: after := by
    rw [hall, List.drop_left]
  have hbegins : whole.length = 0 ∨ all[whole.length - 1]? = some '\n' := by
    rcases h.fed with rfl | ⟨lines, rfl⟩
    · exact .inl rfl
    · exact .inr (by simp [hall])
  obtain ⟨returns, ending, others, hsplit, hending⟩ := exists_ending (line ++ c :: after)
  refine ⟨ending,
    ⟨hbegins, ?_, lineFeed_notMem_firstLine _, getLast?_firstLine_ne _, returns, ?_⟩, ?_⟩
  · rw [hdrop]
    exact ⟨others, hsplit.symm⟩
  · rw [hdrop]
    refine hending.imp_right ?_
    rintro ⟨hreturns, rfl⟩
    exact ⟨hreturns, by simpa using hsplit⟩
  · apply getElem?_of_unbroken h.unbroken hsplit
    refine hending.imp ?_ And.right
    rintro rfl
    simp

/-- Behind the last line feed there is what the text breaks off in. -/
theorem rtakeWhile_eq (h : BreaksOff text whole line) : text.rtakeWhile (· != '\n') = line := by
  have hline : ∀ d ∈ line.reverse, (d != '\n') = true := by
    intro d member
    exact bne_iff_ne.2 (ne_of_mem_of_not_mem (List.mem_reverse.1 member) h.unbroken)
  have hwhole : whole.reverse.takeWhile (· != '\n') = [] := by
    rcases h.fed with rfl | ⟨lines, rfl⟩
    · rfl
    · simp
  rw [h.split, List.rtakeWhile, List.reverse_append, List.takeWhile_append_of_pos hline, hwhole,
    List.append_nil, List.reverse_reverse]

theorem count_eq (h : BreaksOff text whole line) : whole.count '\n' = text.count '\n' := by
  rw [h.split, List.count_append, List.count_eq_zero.2 h.unbroken, Nat.add_zero]

/-- A text breaks off in nothing if it is empty or ends in a line feed. -/
theorem line_eq_nil_iff (h : BreaksOff text whole line)
    : line = [] ↔ text = [] ∨ text.getLast? = some '\n' := by
  constructor
  · rintro rfl
    rw [h.split, List.append_nil]
    exact h.fed.imp_right (by rintro ⟨lines, rfl⟩; simp)
  · intro hend
    by_contra hsome
    have hlast : text.getLast? = some (line.getLast hsome) := by
      rw [h.split, List.getLast?_append, List.getLast?_eq_getLast_of_ne_nil hsome, Option.some_or]
    rcases hend with rfl | hfeed
    · cases hlast
    · rw [hlast, Option.some.injEq] at hfeed
      exact h.unbroken (hfeed ▸ List.getLast_mem hsome)

/-- The number of the line that a whole text breaks off in is that of a line unless it breaks off in
nothing.
-/
theorem line?_eq_none_iff {source : String} (h : BreaksOff source.toList whole line)
    : line? source (whole.count '\n' + 1) = none ↔ line = [] := by
  have hrest := h.afterLineFeeds line
  rw [← h.split] at hrest
  cases line with
  | nil => simp only [line?, hrest]
  | cons c rest => simp only [line?, hrest, reduceCtorEq]

end BreaksOff

/-- What follows so many line feeds comes behind a text that has as many, by the recursion over
both.
-/
theorem exists_of_afterLineFeeds {count : Nat} {text rest : List Char}
    (h : afterLineFeeds count text = some rest)
    : ∃ before, text = before ++ rest ∧ before.count '\n' = count := by
  fun_induction afterLineFeeds count text with
  | case1 text =>
      cases h
      exact ⟨[], rfl, rfl⟩
  | case2 => cases h
  | case3 count others ih =>
      obtain ⟨before, rfl, rfl⟩ := ih h
      exact ⟨'\n' :: before, rfl, List.count_cons_self⟩
  | case4 count c others hfeed ih =>
      obtain ⟨before, rfl, hcount⟩ := ih h
      exact ⟨c :: before, rfl, (List.count_cons_of_ne hfeed).trans hcount⟩

/-- A line of a text with a number has a first character, and the line feeds before that are those
of the earlier lines.
-/
theorem exists_of_line? {text shown : String} {number : Nat} (h : line? text number = some shown)
    : 1 ≤ number ∧ ∃ k < text.toList.length, (text.toList.take k).count '\n' + 1 = number := by
  unfold line? at h
  split at h
  · cases h
  · next before =>
      split at h
      · next c rest hrest =>
          obtain ⟨lines, hsplit, hcount⟩ := exists_of_afterLineFeeds hrest
          refine ⟨Nat.le_add_left 1 before, lines.length, ?_, ?_⟩
          · rw [hsplit, List.length_append, List.length_cons]
            omega
          · rw [hsplit, List.take_left, hcount]
      · cases h

-----------------------------------------------------------------------------------------
-- Places and lines
-----------------------------------------------------------------------------------------

/-- The place behind a text counts its line feeds and the characters behind the last of them. -/
theorem place_counts (name : String) (text : List Char)
    : let place := (Position.start name).advanceOver text
      place.line = 1 + text.count '\n'
      ∧ place.column = 1 + (text.rtakeWhile (· != '\n')).length := by
  obtain ⟨whole, line, hbreaks⟩ := exists_breaksOff text
  simp only [hbreaks.advanceOver_start, hbreaks.count_eq, hbreaks.rtakeWhile_eq]
  exact ⟨Nat.add_comm _ _, Nat.add_comm _ _⟩

/-- The place of a character leads to the line that it is on: the line begins as many characters
before it as the column says, and has it there, on the part that is shown or in the ending.
-/
theorem exists_line_of_getElem? (name : String) {text : String} {k : Nat} {c : Char}
    (there : text.toList[k]? = some c)
    : let place := (Position.start name).advanceOver (text.toList.take k)
      ∃ shown ending,
        line? text place.line = some (String.ofList shown)
        ∧ LineAt text.toList (k + 1 - place.column) shown ending
        ∧ (shown ++ ending)[place.column - 1]? = some c := by
  intro place
  obtain ⟨inside, hc⟩ := List.getElem?_eq_some_iff.1 there
  obtain ⟨whole, line, hbreaks⟩ := exists_breaksOff (text.toList.take k)
  have goesOn : text.toList = text.toList.take k ++ c :: text.toList.drop (k + 1) := by
    rw [← hc, List.getElem_cons_drop, List.take_append_drop]
  have hplace : place = ⟨name, whole.count '\n' + 1, line.length + 1⟩ :=
    hbreaks.advanceOver_start name
  have hstart : k + 1 - (line.length + 1) = whole.length := by
    have hlength := congrArg List.length hbreaks.split
    rw [List.length_take, List.length_append] at hlength
    omega
  obtain ⟨ending, hline, hnext⟩ := hbreaks.exists_lineAt goesOn
  simp only [hplace, hstart, Nat.add_sub_cancel]
  exact ⟨_, ending, hbreaks.line?_eq goesOn, hline, hnext⟩

/-- A character of a line is on the part that is shown, or behind it and then of the ending. -/
theorem LineAt.getElem?_cases {text shown ending : List Char} {offset index : Nat} {c : Char}
    (h : LineAt text offset shown ending) (there : (shown ++ ending)[index]? = some c)
    : index < shown.length ∧ shown[index]? = some c
      ∨ shown.length ≤ index
        ∧ ending[index - shown.length]? = some c
        ∧ (c = '\r' ∨ c = '\n') := by
  rcases Nat.lt_or_ge index shown.length with onLine | behind
  · rw [List.getElem?_append_left onLine] at there
    exact .inl ⟨onLine, there⟩
  · rw [List.getElem?_append_right behind] at there
    exact .inr ⟨behind, there, h.eq_of_mem_ending (List.mem_of_getElem? there)⟩

/-- Behind a whole text there is no line where the text is empty or ends in a line feed. -/
theorem line?_behind_eq_none_iff (text : String)
    : line? text (1 + text.toList.count '\n') = none
      ↔ text = "" ∨ text.toList.getLast? = some '\n' := by
  obtain ⟨whole, line, hbreaks⟩ := exists_breaksOff text.toList
  rw [Nat.add_comm, ← hbreaks.count_eq, hbreaks.line?_eq_none_iff, hbreaks.line_eq_nil_iff,
    String.toList_eq_nil_iff]

/-- Places and lines agree. The place behind the first characters of a text counts the line feeds
among them and the characters behind the last of these, and every further character leads to a later
place. The line of that number is there for every character, and has the character where the column
says, or in the ending that is not shown; behind the whole text there is no line if the text is
empty or ends in a line feed. Every line is the line of some character.
-/
theorem places_agree_with_lines (name text : String)
    : let place (k : Nat) := (Position.start name).advanceOver (text.toList.take k)
      (∀ k,
        (place k).line = 1 + (text.toList.take k).count '\n'
        ∧ (place k).column = 1 + ((text.toList.take k).rtakeWhile (· != '\n')).length)
      ∧ (∀ j k, j < k → k ≤ text.length → (place j).Before (place k))
      ∧ (∀ j k, j ≤ text.length → k ≤ text.length → place j = place k → j = k)
      ∧ (∀ k c,
          text.toList[k]? = some c
          → ∃ shown ending,
              line? text (place k).line = some (String.ofList shown)
              ∧ LineAt text.toList (k + 1 - (place k).column) shown ending
              ∧ ((place k).column - 1 < shown.length
                  ∧ shown[(place k).column - 1]? = some c
                ∨ shown.length ≤ (place k).column - 1
                  ∧ ending[(place k).column - 1 - shown.length]? = some c
                  ∧ (c = '\r' ∨ c = '\n')))
      ∧ (line? text (place text.length).line = none
          ↔ text = "" ∨ text.toList.getLast? = some '\n')
      ∧ ∀ number,
          (line? text number).isSome
          ↔ 1 ≤ number ∧ ∃ k < text.length, (place k).line = number := by
  rw [← String.length_toList]
  intro place
  have hcounts (k : Nat) := place_counts name (text.toList.take k)
  refine ⟨hcounts, fun j k => Position.before_of_lt _,
    fun j k => Position.eq_of_advanceOver_take_eq _, ?_, ?_, ?_⟩
  · intro k c there
    obtain ⟨shown, ending, hshown, hat, hthere⟩ := exists_line_of_getElem? name there
    exact ⟨shown, ending, hshown, hat, hat.getElem?_cases hthere⟩
  · rw [(hcounts _).1, List.take_length]
    exact line?_behind_eq_none_iff text
  · intro number
    rw [Option.isSome_iff_exists]
    constructor
    · rintro ⟨shown, hshown⟩
      obtain ⟨hpos, k, inside, hnumber⟩ := exists_of_line? hshown
      exact ⟨hpos, k, inside, by rw [(hcounts k).1, Nat.add_comm, hnumber]⟩
    · rintro ⟨-, k, inside, rfl⟩
      obtain ⟨shown, -, hshown, -⟩ :=
        exists_line_of_getElem? name (List.getElem?_eq_getElem inside)
      exact ⟨_, hshown⟩

end Lexical.Text
