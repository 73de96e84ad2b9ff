import Lexical.Proofs.Json.StringText

/-! The steps of a reader on a JSON text. Blanks before a value do not matter to it, and neither
does what comes behind, as long as that could not be the rest of a number.
-/

namespace Lexical.Json

variable {α β : Type} {text rest before : List Char} {c : Char}

-----------------------------------------------------------------------------------------
-- Where values begin and end
-----------------------------------------------------------------------------------------

/-- The text begins as a value does: with no blank, and with nothing that stands between values. -/
def Begins (text : List Char) : Prop :=
  ∃ c others, text = c :: others ∧ Reader.isBlank c = false ∧ c ∉ [',', ']', '\x7d']

/-- The text does not begin as the rest of a number would. -/
def NumberEnds (rest : List Char) : Prop :=
  ∀ c ∈ rest.head?, c.isDigit = false ∧ c ∉ ['.', 'e', 'E']

theorem Begins.length_pos (begins : Begins text) : 0 < text.length := by
  obtain ⟨c, others, rfl, -⟩ := begins
  exact Nat.succ_pos _

theorem Begins.append (begins : Begins text) (rest : List Char) : Begins (text ++ rest) := by
  obtain ⟨c, others, rfl, other⟩ := begins
  exact ⟨c, others ++ rest, rfl, other⟩

theorem numberEnds_nil : NumberEnds [] := by
  intro c member
  cases member

theorem numberEnds_cons (noDigit : c.isDigit = false) (other : c ∉ ['.', 'e', 'E'])
    : NumberEnds (c :: rest) := by
  rintro d member
  cases member
  exact ⟨noDigit, other⟩

theorem Blanks.isBlank (blanks : Blanks text) (member : c ∈ text) : Reader.isBlank c := by
  have checked : ∀ c ∈ [' ', '\n', '\t', '\r'], Reader.isBlank c := by
    simp [Reader.isBlank]
  exact checked c (blanks c member)

/-- Blanks end a number, and do not hide what does behind them. -/
theorem Blanks.numberEnds (blanks : Blanks before) (ends : NumberEnds rest)
    : NumberEnds (before ++ rest) := by
  cases before with
  | nil => exact ends
  | cons c others =>
      have checked : ∀ c ∈ [' ', '\n', '\t', '\r'], c.isDigit = false ∧ c ∉ ['.', 'e', 'E'] := by
        simp
      obtain ⟨noDigit, other⟩ := checked c (blanks c List.mem_cons_self)
      exact numberEnds_cons noDigit other

/-- What stands between values ends a number. -/
theorem numberEnds_of_mem (member : c ∈ [',', ']', '\x7d']) : NumberEnds (c :: rest) := by
  have checked : ∀ c ∈ [',', ']', '\x7d'], c.isDigit = false ∧ c ∉ ['.', 'e', 'E'] := by
    simp
  obtain ⟨noDigit, other⟩ := checked c member
  exact numberEnds_cons noDigit other

theorem Reader.Bracket.closing_mem (bracket : Bracket)
    : bracket.closing ∈ [',', ']', '\x7d'] := by
  cases bracket <;> decide

-----------------------------------------------------------------------------------------
-- Steps of a reader
-----------------------------------------------------------------------------------------

namespace Reader

theorem run_bind_of_run {reader : Reader α} {next : α → Reader β} {value : α}
    (h : reader.run text = .ok (value, rest))
    : (reader >>= next).run text = (next value).run rest := by
  rw [StateT.run_bind, h]
  rfl

theorem run_seqRight_of_run {reader : Reader α} {next : Reader β} {value : α}
    (h : reader.run text = .ok (value, rest))
    : (reader *> next).run text = next.run rest :=
  run_bind_of_run h

theorem run_get (text : List Char) : (get : Reader (List Char)).run text = .ok (text, text) :=
  rfl

theorem run_peek (text : List Char) : peek.run text = .ok (text.head?, text) :=
  rfl

theorem run_skip : skip.run (c :: rest) = .ok ((), rest) :=
  rfl

/-- A word is taken letter by letter. -/
theorem run_word (letters rest : List Char)
    : (word letters).run (letters ++ rest) = .ok ((), rest) := by
  induction letters with
  | nil => rfl
  | cons letter others ih =>
      rw [word, List.cons_append, run_bind_of_run (run_peek _)]
      simp only [List.head?_cons, if_true]
      exact ih

theorem run_skipBlanks (begins : isBlank c = false)
    : skipBlanks.run (c :: rest) = .ok ((), c :: rest) := by
  show Except.ok ((), (c :: rest).dropWhile isBlank) = _
  rw [List.dropWhile_cons_of_neg]
  rw [begins]
  decide

theorem run_peekIn (part : Part) (begins : isBlank c = false)
    : (peekIn part).run (c :: rest) = .ok (c, c :: rest) := by
  rw [peekIn, run_bind_of_run (run_skipBlanks begins)]
  rfl

/-- The reader does the same with or without blanks before a text. -/
def IgnoresBlanks (reader : Reader α) : Prop :=
  ∀ before rest, Blanks before → reader.run (before ++ rest) = reader.run rest

theorem IgnoresBlanks.bind {reader : Reader α} (h : IgnoresBlanks reader)
    (next : α → Reader β)
    : IgnoresBlanks (reader >>= next) := by
  intro before rest blanks
  rw [StateT.run_bind, StateT.run_bind, h before rest blanks]

theorem ignoresBlanks_skipBlanks : IgnoresBlanks skipBlanks := by
  intro before rest blanks
  show Except.ok ((), (before ++ rest).dropWhile isBlank) = .ok ((), rest.dropWhile isBlank)
  rw [List.dropWhile_append_of_pos]
  exact fun c member => blanks.isBlank member

theorem ignoresBlanks_peekIn (part : Part) : IgnoresBlanks (peekIn part) :=
  ignoresBlanks_skipBlanks.bind _

end Reader

end Lexical.Json
