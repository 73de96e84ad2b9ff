import Lexical.Diagnostic
import Lexical.Proofs.Text.Line
import Lexical.Proofs.Tokenizer.Soundness
import Mathlib

/-! What a diagnostic says of its error, row by row. Below the line that the error is on there is a
caret, and the caret stands under the character at the place of the error, unless that is a blank.
The errors of a tokenizer are placed at characters of its text.
-/

namespace Lexical

namespace Diagnostic

-----------------------------------------------------------------------------------------
-- The rows of a diagnostic
-----------------------------------------------------------------------------------------

/-- The first row: what is said of the cause, the place if there is one, and the tip if there is
one.
-/
def heading (error : Error) : String :=
  let placed := error.place?.elim "" fun place =>
    " at " ++ place.source ++ ":" ++ place.line.repr ++ ":" ++ place.column.repr
  let tipped := error.cause.tip?.elim "" fun tip => " (" ++ tip ++ ")"
  "Error: " ++ error.cause.message ++ placed ++ tipped

/-- A row that leaves room for the number of a line, up to the bar. -/
def barRow (number : Nat) : String :=
  String.ofList (List.replicate (number.repr.length + 1) ' ') ++ "|"

/-- The row of a line: its number, a bar, and what is shown of it. -/
def sourceRow (number : Nat) (shown : List Char) : String :=
  number.repr ++ " | " ++ String.ofList shown

/-- The row of a caret: a bar below that of the line, so many dashes, and the caret. -/
def caretRow (number dashes : Nat) : String :=
  barRow number ++ " " ++ String.ofList (List.replicate dashes '-') ++ "^"

/-- The column in which a row begins to show its line, where columns count from 0. -/
def margin (number : Nat) : Nat := number.repr.length + 3

/-- How a line is shown: its spaces and tabs in front are cut off, and then its trailing blanks. -/
structure Excerpted (line indent shown trail : List Char) : Prop where
  split : line = indent ++ shown ++ trail
  indented : ∀ c ∈ indent, isIndent c
  outermost : ∀ c, (shown ++ trail).head? = some c → isIndent c = false
  blank : ∀ c ∈ trail, Text.isBlank c
  last : ∀ some : shown ≠ [], ¬Text.isBlank (shown.getLast some)

/-- The lower row has one caret, and there are only dashes between its margin and the caret. Above
the caret, in the same column of the upper row, there is the character.
-/
structure PointsUp (upper lower : List Char) (margin column : Nat) (c : Char) : Prop where
  character : upper[column]? = some c
  caret : lower[column]? = some '^'
  single : ∀ index, lower[index]? = some '^' → index = column
  gutter : lower.take margin = List.replicate (margin - 2) ' ' ++ ['|', ' ']
  dashes : ∀ index, margin ≤ index → index < column → lower[index]? = some '-'

theorem isBlank_of_isIndent {c : Char} (h : isIndent c) : Text.isBlank c := by
  simp only [isIndent, Bool.or_eq_true, beq_iff_eq] at h
  rcases h with rfl | rfl <;> decide

/-- The dashes in front of a caret reach from the first character that is shown up to the column of
the caret; a column in the indentation counts as that of the first character.
-/
def dashesTo (column indentation : Nat) : Nat := column - 1 - indentation

/-- An excerpt shows its line between two rows of which the lower one has a caret. -/
theorem exists_excerpt_eq (number column : Nat) (line : String)
    : ∃ indent shown trail,
        Excerpted line.toList indent shown trail
        ∧ excerpt number column line
          = barRow number ++ "\n" ++ sourceRow number shown ++ "\n"
            ++ caretRow number (dashesTo column indent.length) ++ "\n" := by
  have hdrop : line.toList.drop (line.toList.takeWhile isIndent).length
      = line.toList.dropWhile isIndent := by
    conv => lhs; arg 2; rw [← List.takeWhile_append_dropWhile (p := isIndent) (l := line.toList)]
    exact List.drop_left
  have hdashes (indentation : Nat)
      : max (column - indentation) 1 - 1 = dashesTo column indentation := by
    unfold dashesTo
    omega
  obtain ⟨trail, hsplit, blank, last⟩ :=
    Text.dropTrailing_spec Text.isBlank (line.toList.dropWhile isIndent)
  refine ⟨line.toList.takeWhile isIndent,
    Text.dropTrailing Text.isBlank (line.toList.dropWhile isIndent), trail,
    ⟨?_, ?_, ?_, blank, last⟩, ?_⟩
  · rw [List.append_assoc, ← hsplit, List.takeWhile_append_dropWhile]
  · intro c member
    exact List.mem_takeWhile_imp member
  · intro c first
    rw [← hsplit] at first
    have hhead := List.head?_dropWhile_not isIndent line.toList
    rw [first] at hhead
    exact hhead
  · simp only [excerpt, hdrop, hdashes, barRow, sourceRow, caretRow, run, String.append_assoc]
    rfl

theorem headline_eq (error : Error) : headline error = heading error ++ "\n" := by
  obtain ⟨cause, place?⟩ := error
  cases place? <;> cases htip : cause.tip? <;>
    simp only [headline, heading, Error.display, Position.display, htip, Option.elim_none,
      Option.elim_some, String.append_assoc, String.append_empty]

/-- What a diagnostic of an error in a source is. An error that has no place gets one row. One whose
line is not found gets another one for the source, and else there is also the line with a caret.
-/
inductive Renders (error : Error) (source : String) : String → Prop
  | unplaced (absent : error.place? = none)
    : Renders error source (heading error ++ "\n")
  | unlined {place} (placed : error.place? = some place)
    (absent : Text.line? source place.line = none)
    : Renders error source (heading error ++ "\n-> " ++ place.source ++ "\n")
  | excerpted {place line indent shown trail} (placed : error.place? = some place)
    (found : Text.line? source place.line = some line)
    (excerpted : Excerpted line.toList indent shown trail)
    : Renders error source (heading error ++ "\n-> " ++ place.source ++ "\n"
        ++ barRow place.line ++ "\n" ++ sourceRow place.line shown ++ "\n"
        ++ caretRow place.line (dashesTo place.column indent.length) ++ "\n")

/-- The program renders its errors so. -/
theorem renders_render (error : Error) (source : String)
    : Renders error source (render error source) := by
  rcases hplace : error.place? with _ | place
  · have hrender : render error source = heading error ++ "\n" := by
      simp only [render, hplace, headline_eq]
    rw [hrender]
    exact .unplaced hplace
  · rcases hline : Text.line? source place.line with _ | line
    · have hrender : render error source = heading error ++ "\n-> " ++ place.source ++ "\n" := by
        simp only [render, hplace, hline, headline_eq, String.append_empty, String.append_assoc]
        rfl
      rw [hrender]
      exact .unlined hplace hline
    · obtain ⟨indent, shown, trail, excerpted, hrows⟩ :=
        exists_excerpt_eq place.line place.column line
      have hrender : render error source
          = heading error ++ "\n-> " ++ place.source ++ "\n" ++ barRow place.line ++ "\n"
            ++ sourceRow place.line shown ++ "\n"
            ++ caretRow place.line (dashesTo place.column indent.length) ++ "\n" := by
        simp only [render, hplace, hline, hrows, headline_eq, String.append_assoc]
        rfl
      rw [hrender]
      exact .excerpted hplace hline excerpted

-----------------------------------------------------------------------------------------
-- The caret under a character
-----------------------------------------------------------------------------------------

theorem toList_sourceRow (number : Nat) (shown : List Char)
    : (sourceRow number shown).toList = number.repr.toList ++ [' ', '|', ' '] ++ shown := by
  simp only [sourceRow, String.toList_append, String.toList_ofList]
  rfl

theorem toList_caretRow (number dashes : Nat)
    : (caretRow number dashes).toList
      = List.replicate (number.repr.length + 1) ' ' ++ ['|', ' ']
        ++ (List.replicate dashes '-' ++ ['^']) := by
  simp only [caretRow, barRow, String.toList_append, String.toList_ofList, List.append_assoc]
  rfl

/-- A caret with so many dashes points at the character that comes behind as many shown ones. -/
theorem pointsUp_of_getElem? {number dashes : Nat} {shown : List Char} {c : Char}
    (found : shown[dashes]? = some c)
    : PointsUp (sourceRow number shown).toList (caretRow number dashes).toList (margin number)
        (margin number + dashes) c := by
  have hupper : (number.repr.toList ++ [' ', '|', ' ']).length = margin number := by
    rw [List.length_append, String.length_toList]
    rfl
  have hgutter : (List.replicate (number.repr.length + 1) ' ' ++ ['|', ' ']).length
      = margin number := by
    rw [List.length_append, List.length_replicate]
    rfl
  have hbehind (index : Nat) (h : margin number ≤ index)
      : (caretRow number dashes).toList[index]?
        = (List.replicate dashes '-' ++ ['^'])[index - margin number]? := by
    rw [toList_caretRow, List.getElem?_append_right (hgutter ▸ h), hgutter]
  refine ⟨?_, ?_, ?_, ?_, ?_⟩
  · rw [toList_sourceRow, List.getElem?_append_right (hupper ▸ Nat.le_add_right _ _), hupper,
      Nat.add_sub_cancel_left, found]
  · rw [hbehind _ (Nat.le_add_right _ _), Nat.add_sub_cancel_left,
      List.getElem?_append_right (Nat.le_of_eq List.length_replicate), List.length_replicate,
      Nat.sub_self]
    rfl
  · intro index hcaret
    by_cases h : margin number ≤ index
    · rw [hbehind index h] at hcaret
      by_cases hdash : index - margin number < dashes
      · rw [List.getElem?_append_left (by rwa [List.length_replicate]),
          List.getElem?_replicate, if_pos hdash] at hcaret
        cases hcaret
      · have hinside := (List.getElem?_eq_some_iff.1 hcaret).1
        rw [List.length_append, List.length_replicate, List.length_singleton] at hinside
        omega
    · rw [toList_caretRow, List.getElem?_append_left (by omega)] at hcaret
      have hmember := List.mem_of_getElem? hcaret
      simp at hmember
  · rw [toList_caretRow, ← hgutter, List.take_left, hgutter]
    rfl
  · intro index h hbefore
    have hdash : index - margin number < dashes := by omega
    rw [hbehind index h, List.getElem?_append_left (by rwa [List.length_replicate]),
      List.getElem?_replicate, if_pos hdash]

/-- The character at a place in a shown line stands where the caret of that place points. -/
theorem Excerpted.getElem?_shown {whole indent shown trail : List Char} {c : Char}
    {column : Nat} (h : Excerpted whole indent shown trail) (found : whole[column]? = some c)
    (visible : Text.isBlank c = false)
    : indent.length ≤ column ∧ shown[column - indent.length]? = some c := by
  have hindent : indent.length ≤ column := by
    by_contra hinside
    rw [h.split, List.append_assoc, List.getElem?_append_left (by omega)] at found
    have hblank := isBlank_of_isIndent (h.indented c (List.mem_of_getElem? found))
    rw [visible] at hblank
    cases hblank
  rw [h.split, List.append_assoc, List.getElem?_append_right hindent] at found
  refine ⟨hindent, ?_⟩
  by_cases hshown : column - indent.length < shown.length
  · rwa [List.getElem?_append_left hshown] at found
  · rw [List.getElem?_append_right (Nat.le_of_not_lt hshown)] at found
    have hblank := h.blank c (List.mem_of_getElem? found)
    rw [visible] at hblank
    cases hblank

/-- What is rendered of an error that is placed at a character of the source: the error and the name
of the source, then the line that the character is on and a caret, which points at the character
unless that is a blank.
-/
structure Shows (error : Error) (source : String) (place : Position) (c : Char) (line : String)
    : Prop where
  found : Text.line? source place.line = some line
  rows
    : ∃ indent shown trail dashes,
        Excerpted line.toList indent shown trail
        ∧ dashes = dashesTo place.column indent.length
        ∧ render error source
          = heading error ++ "\n-> " ++ place.source ++ "\n" ++ barRow place.line ++ "\n"
            ++ sourceRow place.line shown ++ "\n" ++ caretRow place.line dashes ++ "\n"
        ∧ (Text.isBlank c = false
            → line.toList[place.column - 1]? = some c
              ∧ indent.length < place.column
              ∧ PointsUp (sourceRow place.line shown).toList
                  (caretRow place.line dashes).toList (margin place.line)
                  (margin place.line + (place.column - 1 - indent.length)) c)

/-- An error at a character is shown with the line of the character. Witness: the line goes on from
where the text before the character breaks off, so that the column of the character is its column
in the line.
-/
theorem exists_shows (cause : Error.Cause) (name : String) {source : String}
    {before after : List Char} {c : Char} (split : source.toList = before ++ c :: after)
    : ∃ line,
        Shows ⟨cause, some ((Position.start name).advanceOver before)⟩ source
          ((Position.start name).advanceOver before) c line := by
  obtain ⟨whole, beginning, breaks⟩ := Text.exists_breaksOff before
  have hline := breaks.line?_eq split
  rw [breaks.advanceOver_start name]
  refine ⟨_, hline, ?_⟩
  have renders := renders_render
    ⟨cause, some ⟨name, whole.count '\n' + 1, beginning.length + 1⟩⟩ source
  generalize render _ source = rendered at renders
  cases renders with
  | unplaced absent => cases absent
  | unlined placed absent =>
      cases placed
      rw [hline] at absent
      cases absent
  | @excerpted place line indent shown trail placed found excerpted =>
      cases placed
      rw [hline] at found
      cases found
      refine ⟨indent, shown, trail, _, excerpted, rfl, rfl, ?_⟩
      intro visible
      have hfeed : c ≠ '\n' := by
        rintro rfl
        cases visible
      have hreturn : c ≠ '\r' := by
        rintro rfl
        cases visible
      obtain ⟨more, hmore⟩ := Text.exists_firstLine_eq breaks.unbroken hfeed hreturn after
      rw [hmore, String.toList_ofList] at excerpted ⊢
      have hfound : (beginning ++ c :: more)[beginning.length]? = some c := by
        rw [List.getElem?_append_right (Nat.le_refl _), Nat.sub_self]
        rfl
      obtain ⟨hindent, hshown⟩ := excerpted.getElem?_shown hfound visible
      exact ⟨hfound, Nat.lt_succ_of_le hindent, pointsUp_of_getElem? hshown⟩

end Diagnostic

-----------------------------------------------------------------------------------------
-- The errors of a tokenizer
-----------------------------------------------------------------------------------------

namespace Tokenizer

/-- What a tokenizer of recognizers fails for is shown where it is, in a text along which lines and
columns are counted in 32 bits. The error is placed at a character of the text, the one where the
recognizers stopped, and its place is what the characters before it are counted to. The line of that
character can be found, and the diagnostic ends with this line and a caret. If the character is no
blank, the caret stands right under it.
-/
theorem error_shown_at_character (recognizers : List Recognizer) {name text : String}
    (counts : (Position.start name).CountsOver text.toList) {failure : Failure}
    (failed : (ofRecognizers recognizers).tokenizeText name text = .error failure)
    : ∃ cause place before c after line,
        text.toList = before ++ c :: after
        ∧ (Position.start name).advanceOver? before = some place
        ∧ failure = .error ⟨cause, some place⟩
        ∧ Stops recognizers place (c :: after)
            ((ofRecognizers recognizers).sessionOf name text).ending
        ∧ Diagnostic.Shows ⟨cause, some place⟩ text place c line := by
  obtain ⟨pieces, rest, decomposes⟩ :=
    (ofRecognizers recognizers).exists_decomposes (Cursor.ofText name text).view
  have hsession : (ofRecognizers recognizers).sessionOf name text = _ :=
    session_of_decomposes decomposes
  have stops := decomposes.stuck_rest.stops
  obtain ⟨hsplit, horigin⟩ := decomposes.split
  have horigin : rest.origin = (Position.start name).advanceOver (Piece.joined pieces) := horigin
  rw [Cursor.remaining_view, Cursor.remaining_ofText] at hsplit
  rw [tokenizeText, hsession] at failed
  obtain ⟨hsome, cause, hfailure, -⟩ := stops.error_eq failed
  obtain ⟨c, after, hrest⟩ := List.exists_cons_of_ne_nil hsome
  rw [hrest] at hsplit stops
  rw [horigin] at hfailure stops
  obtain ⟨line, shows⟩ := Diagnostic.exists_shows cause name hsplit
  rw [hsplit] at counts
  refine ⟨cause, _, Piece.joined pieces, c, after, line, hsplit, counts.split.1, hfailure, ?_,
    shows⟩
  rw [hsession]
  exact stops

/-- A sign that nothing starts with, on an indented second line. -/
theorem error_shown_at_sign
    : (Position.start "notes").CountsOver "a\n\tb #".toList
      ∧ (ofRecognizers [.blank, .words]).tokenizeText "notes" "a\n\tb #"
        = .error (.error ⟨.unexpectedCharacter '#', some ⟨"notes", 2, 4⟩⟩)
      ∧ ∃ line,
          Diagnostic.Shows ⟨.unexpectedCharacter '#', some ⟨"notes", 2, 4⟩⟩ "a\n\tb #"
            ⟨"notes", 2, 4⟩ '#' line := by
  have counts : (Position.start "notes").CountsOver "a\n\tb #".toList := by
    decide
  have hending : ((ofRecognizers [.blank, .words]).sessionOf "notes" "a\n\tb #").ending
      = .unexpected '#' ⟨"notes", 2, 4⟩ := by
    cbv
  have failed : (ofRecognizers [.blank, .words]).tokenizeText "notes" "a\n\tb #"
      = .error (.error ⟨.unexpectedCharacter '#', some ⟨"notes", 2, 4⟩⟩) := by
    rw [tokenizeText, Session.outcome, hending]
  refine ⟨counts, failed, ?_⟩
  obtain ⟨cause, place, before, c, after, line, hsplit, hplace, hfailure, stops, shows⟩ :=
    error_shown_at_character _ counts failed
  simp only [Failure.error.injEq, Error.mk.injEq, Option.some.injEq] at hfailure
  obtain ⟨rfl, rfl⟩ := hfailure
  rw [hending] at stops
  cases stops with
  | unexpected more idle =>
      cases more
      exact ⟨line, shows⟩

end Tokenizer

end Lexical
