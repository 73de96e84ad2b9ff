import Lexical.Proofs.Recognizer.Extent
import Lexical.Proofs.Recognizer.Separation
import Lexical.Proofs.Tokenizer.Relocation

/-! Padding between lexemes. Blanks and comments are dropped wherever a lexeme could start, and what
is found before them stays the same, except that a comment goes on up to the end of its line.
-/

namespace Lexical

/-- Blanks and complete comments: the mark of comments if there is one, any text on one line, and
the line feed behind it.
-/
inductive Padding (mark? : Option String) : List Char → Prop
  | nil : Padding mark? []
  | blank {c rest} (isBlank : Text.isBlank c) (further : Padding mark? rest)
    : Padding mark? (c :: rest)
  | comment {mark body rest} (set : mark? = some mark) (unbroken : '\n' ∉ body)
    (further : Padding mark? rest)
    : Padding mark? (mark.toList ++ body ++ '\n' :: rest)

/-- What the token is, wherever it stands: its kind and its value. -/
def Token.content (token : Token) : Kind × Value :=
  (token.kind, token.value)

theorem Piece.filterMap_token?_cons (piece : Piece) (others : List Piece)
    : (piece :: others).filterMap Piece.token?
      = piece.token?.toList ++ others.filterMap Piece.token? := by
  cases h : piece.token? with
  | none => exact List.filterMap_cons_none h
  | some token => exact List.filterMap_cons_some h

theorem Piece.content_tokens (place : Position) (pieces : List Piece)
    : (tokens place pieces).map Token.content
      = (pieces.filterMap Piece.token?).map Token.content := by
  induction pieces generalizing place with
  | nil => rfl
  | cons piece others ih =>
      rw [tokens, placed_eq, filterMap_token?_cons, List.map_append, List.map_append, ih]
      cases piece.token? <;> rfl

-----------------------------------------------------------------------------------------
-- Lines
-----------------------------------------------------------------------------------------

theorem dropWhile_line {body : List Char} (unbroken : '\n' ∉ body) (rest : List Char)
    : (body ++ rest).dropWhile (· != '\n') = rest.dropWhile (· != '\n') := by
  apply List.dropWhile_append_of_pos
  intro c member
  exact bne_iff_ne.2 fun feed => unbroken (feed ▸ member)

theorem drop_length_takeWhile (test : Char → Bool) (text : List Char)
    : text.drop (text.takeWhile test).length = text.dropWhile test := by
  have hdrop : (text.takeWhile test ++ text.dropWhile test).drop (text.takeWhile test).length
      = text.dropWhile test :=
    List.drop_left
  rwa [List.takeWhile_append_dropWhile] at hdrop

/-- Up to the end of its first line padding may be taken away, and padding is left. By induction
over its blanks and comments.
-/
theorem Padding.exists_dropWhile {mark? : Option String} {padding : List Char}
    (h : Padding mark? padding) (marks : ∀ mark ∈ mark?, '\n' ∉ mark.toList) {after : List Char}
    (ends : after.dropWhile (· != '\n') = after)
    : ∃ left,
        Padding mark? left ∧ (padding ++ after).dropWhile (· != '\n') = left ++ after := by
  induction h with
  | nil => exact ⟨[], .nil, ends⟩
  | @blank c rest isBlank further ih =>
      by_cases feed : c = '\n'
      · subst feed
        exact ⟨'\n' :: rest, .blank isBlank further, rfl⟩
      · rw [List.cons_append, List.dropWhile_cons, if_pos (bne_iff_ne.2 feed)]
        exact ih
  | @comment mark body rest set unbroken further ih =>
      refine ⟨'\n' :: rest, .blank rfl further, ?_⟩
      rw [List.append_assoc, List.append_assoc, dropWhile_line (marks mark set),
        dropWhile_line unbroken]
      rfl

namespace Tokenizer

variable {recognizers : List Recognizer} {v w rest : View} {piece : Piece} {pieces : List Piece}
  {text after left : List Char} {tokens : List Token} {mark? : Option String}

-----------------------------------------------------------------------------------------
-- Finding tokens
-----------------------------------------------------------------------------------------

/-- Wherever the text stands, the pieces that are cut off have these tokens, as yet without their
origins, and this is left behind them.
-/
def Finds (recognizers : List Recognizer) (text : List Char) (tokens : List Token)
    (left : List Char)
    : Prop :=
  ∀ v : View,
    v.remaining = text
    → ∃ pieces rest,
        (ofRecognizers recognizers).Decomposes v pieces rest
        ∧ pieces.filterMap Piece.token? = tokens
        ∧ rest.remaining = left

theorem Decomposes.finds (h : (ofRecognizers recognizers).Decomposes v pieces rest)
    : Finds recognizers v.remaining (pieces.filterMap Piece.token?) rest.remaining := by
  intro v' same
  obtain ⟨rest', further, hrest⟩ := h.transport same
  exact ⟨pieces, rest', further, rfl, hrest⟩

/-- What is found behind the first lexeme is found after it. -/
theorem Finds.cons {recognizer : Recognizer} {token? : Option Token} {length : Nat}
    (first : recognizers.find? (·.starts text) = some recognizer)
    (reading : ∀ place, recognizer.reading place text = ⟨.ok token?, length⟩)
    (further : Finds recognizers (text.drop length) tokens left)
    : Finds recognizers text (token?.toList ++ tokens) left := by
  rintro v rfl
  have reads := reads_of_reading first (reading v.origin)
  obtain ⟨pieces, rest, decomposes, rfl, hleft⟩ := further _ (v.remaining_skip length)
  exact ⟨_, rest, .cut reads.cuts decomposes, Piece.filterMap_token?_cons _ _, hleft⟩

/-- A text without anything left behind its tokens gives them, each at some place. -/
theorem Finds.exists_tokenizeText {text : String} (h : Finds recognizers text.toList tokens [])
    (name : String)
    : ∃ placed,
        (ofRecognizers recognizers).tokenizeText name text = .ok placed
        ∧ placed.map Token.content = tokens.map Token.content := by
  obtain ⟨pieces, rest, decomposes, rfl, ended⟩ :=
    h (Cursor.ofText name text).view ((Cursor.remaining_view _).trans (Cursor.remaining_ofText ..))
  refine ⟨Piece.tokens (Position.start name) pieces, ?_, Piece.content_tokens _ _⟩
  apply (Session.outcome_eq_ok_iff _ _).2
  have hsession := session_of_decomposes decomposes
  rw [sessionOf, hsession]
  exact ⟨decomposes.stuck_rest.endsAt.finished.2 ended, (Piece.filterMap_lexemes _ _).symm⟩

-----------------------------------------------------------------------------------------
-- Padding is dropped
-----------------------------------------------------------------------------------------

/-- Recognizers that padding with the mark suits: blanks come first, comments with the mark come
before all but blanks and begin with none, and the others heed blanks and are no patterns.
-/
structure AdmitPadding (recognizers : List Recognizer) (mark? : Option String) : Prop where
  blanks : ∃ others, recognizers = .blank :: others
  comments
    : ∀ mark ∈ mark?,
        mark.toList.any Text.isBlank = false
        ∧ ∃ nonempty others, recognizers = .blank :: .lineComment mark nonempty :: others
  heed : ∀ recognizer ∈ recognizers, recognizer.HeedsBlanks
  unpatterned : ∀ recognizer ∈ recognizers, recognizer.isPattern = false

theorem AdmitPadding.find?_blank (admits : AdmitPadding recognizers mark?)
    {c : Char} (isBlank : Text.isBlank c) (text : List Char)
    : recognizers.find? (·.starts (c :: text)) = some .blank := by
  obtain ⟨others, rfl⟩ := admits.blanks
  exact List.find?_cons_of_pos isBlank

theorem AdmitPadding.exists_find?_comment {mark : String}
    (admits : AdmitPadding recognizers (some mark)) (text : List Char)
    : ∃ nonempty,
        recognizers.find? (·.starts (mark.toList ++ text))
        = some (.lineComment mark nonempty) := by
  obtain ⟨unbroken, nonempty, others, rfl⟩ := admits.comments mark rfl
  refine ⟨nonempty, ?_⟩
  have hcomment : (Recognizer.lineComment mark nonempty).starts (mark.toList ++ text) :=
    List.isPrefixOf_iff_prefix.2 (List.prefix_append _ _)
  have hblank : Recognizer.blank.starts (mark.toList ++ text) = false := by
    obtain ⟨c, others, hmark⟩ := List.exists_cons_of_ne_nil (mt String.toList_eq_nil_iff.1 nonempty)
    rw [hmark, List.any_cons, Bool.or_eq_false_iff] at unbroken
    rw [hmark]
    exact unbroken.1
  rw [List.find?_cons_of_neg (by rw [hblank]; exact Bool.false_ne_true)]
  exact List.find?_cons_of_pos hcomment

/-- The mark is on one line, as line feeds are blanks. -/
theorem AdmitPadding.lineFeed_notMem (admits : AdmitPadding recognizers mark?)
    : ∀ mark ∈ mark?, '\n' ∉ mark.toList :=
  fun mark set => Recognizer.blank_notMem (admits.comments mark set).1 rfl

theorem Finds.blank {c : Char} (isBlank : Text.isBlank c)
    (first : recognizers.find? (·.starts (c :: text)) = some .blank)
    (h : Finds recognizers text tokens left)
    : Finds recognizers (c :: text) tokens left := by
  have reading (place : Position) : Recognizer.blank.reading place (c :: text) = ⟨.ok none, 1⟩ := by
    simp only [Recognizer.reading, Recognizer.blankReading, if_pos isBlank]
    rfl
  exact Finds.cons first reading h

/-- A comment is dropped up to the end of its line. -/
theorem Finds.comment {mark : String} {nonempty : mark ≠ ""}
    (first
      : recognizers.find? (·.starts (mark.toList ++ text)) = some (.lineComment mark nonempty))
    (h : Finds recognizers (text.dropWhile (· != '\n')) tokens left)
    : Finds recognizers (mark.toList ++ text) tokens left := by
  have reading (place : Position)
      : (Recognizer.lineComment mark nonempty).reading place (mark.toList ++ text)
        = ⟨.ok none, mark.toList.length + (text.takeWhile (· != '\n')).length⟩ := by
    simp only [Recognizer.reading, Recognizer.commentReading, ← String.length_toList,
      List.drop_left]
    rfl
  apply Finds.cons first reading
  rw [List.drop_length_add_append, drop_length_takeWhile]
  exact h

/-- Padding in front of a text changes nothing but where its lexemes are. By induction over the
blanks and comments.
-/
theorem Finds.pad (admits : AdmitPadding recognizers mark?)
    {padding : List Char} (pads : Padding mark? padding) (h : Finds recognizers text tokens left)
    : Finds recognizers (padding ++ text) tokens left := by
  induction pads with
  | nil => exact h
  | blank isBlank _ ih => exact ih.blank isBlank (admits.find?_blank isBlank _)
  | @comment mark body rest set unbroken _ ih =>
      subst set
      rw [List.append_assoc, List.append_assoc, List.cons_append]
      obtain ⟨nonempty, first⟩ := admits.exists_find?_comment (body ++ '\n' :: (rest ++ text))
      apply Finds.comment first
      rw [dropWhile_line unbroken]
      exact ih.blank rfl (admits.find?_blank rfl _)

-----------------------------------------------------------------------------------------
-- What comes before padding
-----------------------------------------------------------------------------------------

/-- The first that satisfies a test is the first to satisfy a stronger one, if it does. -/
theorem find?_of_imp {α : Type} {items : List α} {test stronger : α → Bool} {item : α}
    (first : items.find? test = some item) (holds : stronger item)
    (implies : ∀ other ∈ items, stronger other → test other)
    : items.find? stronger = some item := by
  obtain ⟨-, before, after, rfl, fails⟩ := List.find?_eq_some_iff_append.1 first
  refine List.find?_eq_some_iff_append.2 ⟨holds, before, after, rfl, ?_⟩
  intro other member
  have hfails := fails other member
  cases hstronger : stronger other with
  | false => rfl
  | true =>
      rw [implies other (List.mem_append_left _ member) hstronger] at hfails
      cases hfails

/-- Where a recognizer is the first to start, and starts at the text before a blank alone, it is the
first again with the blank.
-/
theorem AdmitPadding.find?_before_blank (admits : AdmitPadding recognizers mark?)
    {recognizer : Recognizer}
    (first : recognizers.find? (·.starts (text ++ after)) = some recognizer)
    (alone : recognizer.starts text) {c : Char} (isBlank : Text.isBlank c) (more : List Char)
    : recognizers.find? (·.starts (text ++ c :: more)) = some recognizer := by
  have some := Recognizer.ne_nil_of_starts alone
  have hcongr : ∀ other ∈ recognizers,
      other.starts (text ++ c :: more) = other.starts text :=
    fun other member => (admits.heed other member).starts some isBlank more
  rw [List.find?_congr hcongr]
  exact find?_of_imp first alone fun other member starts =>
    Recognizer.starts_append (admits.unpatterned other member) starts after

/-- What a recognizer reads inside the first of two texts, it reads of the first one alone. -/
theorem Reads.alone (admits : AdmitPadding recognizers mark?) {recognizer : Recognizer}
    (reads : Reads recognizers v piece w recognizer) (split : v.remaining = text ++ after)
    (inside : piece.text.length ≤ text.length)
    : recognizer.starts text
      ∧ recognizer.reading v.origin text = ⟨.ok piece.token?, piece.text.length⟩ := by
  have member := List.mem_of_find?_eq_some reads.first
  have starts := reads.starts
  have answer := reads.answer
  have hlength := reads.length_text
  rw [split] at starts answer hlength
  obtain ⟨alone, hreading⟩ :=
    Recognizer.reading_of_append (admits.unpatterned recognizer member) starts (hlength ▸ inside)
  refine ⟨alone, ?_⟩
  rw [hreading, hlength, ← answer]

/-- A blank behind the text that a recognizer reads something of does not change what it reads, but
for a comment that goes on up to the blank.
-/
theorem Reads.before_blank (admits : AdmitPadding recognizers mark?) {recognizer : Recognizer}
    (reads : Reads recognizers v piece w recognizer) (split : v.remaining = text ++ after)
    (inside : piece.text.length ≤ text.length)
    (apart : recognizer.takesLine → piece.text.length < text.length) {c : Char}
    (isBlank : Text.isBlank c) (more : List Char)
    : recognizers.find? (·.starts (text ++ c :: more)) = some recognizer
      ∧ ∀ place,
          recognizer.reading place (text ++ c :: more)
          = ⟨.ok piece.token?, piece.text.length⟩ := by
  have member := List.mem_of_find?_eq_some reads.first
  have first := reads.first
  rw [split] at first
  obtain ⟨alone, hreading⟩ := reads.alone admits split inside
  have first' := admits.find?_before_blank first alone isBlank more
  refine ⟨first', ?_⟩
  intro place
  rw [Recognizer.reading_eq_of_starts (starts_of_first first') place v.origin, ← hreading]
  apply (admits.heed recognizer member).reading alone (congrArg Reading.answer hreading) isBlank
  rw [hreading]
  exact fun takesLine => .inr (apart takesLine)

/-- A comment that ends where a text does has the whole of its line. -/
theorem line_of_comment {mark : String} {nonempty : mark ≠ ""} {place : Position} {body : List Char}
    (whole
      : ((Recognizer.lineComment mark nonempty).reading place
          (mark.toList ++ body ++ after)).length
        = (mark.toList ++ body).length)
    : '\n' ∉ body ∧ after.dropWhile (· != '\n') = after := by
  rw [List.append_assoc] at whole
  simp only [Recognizer.reading, Recognizer.commentReading, ← String.length_toList,
    List.drop_left, List.length_append, Nat.add_left_cancel_iff] at whole
  have hrest : (body ++ after).dropWhile (· != '\n') = after := by
    rw [← drop_length_takeWhile, whole, List.drop_left]
  have hbody : (body ++ after).takeWhile (· != '\n') = body :=
    (List.prefix_of_prefix_length_le (List.takeWhile_prefix _) (List.prefix_append _ _)
      (Nat.le_of_eq whole)).eq_of_length whole
  constructor
  · intro feed
    rw [← hbody] at feed
    have hother := List.mem_takeWhile_imp feed
    cases hother
  · have hagain := List.dropWhile_idempotent (· != '\n') (body ++ after)
    rwa [hrest] at hagain

/-- A comment before padding takes the rest of its line from it, so that padding is left. -/
theorem Reads.comment_padded (admits : AdmitPadding recognizers mark?) {mark : String}
    {nonempty : mark ≠ ""} (reads : Reads recognizers v piece w (.lineComment mark nonempty))
    (split : v.remaining = piece.text ++ after) {c : Char} {padding : List Char}
    (isBlank : Text.isBlank c) (pads : Padding mark? (c :: padding))
    (h : Finds recognizers after tokens left)
    : Finds recognizers (piece.text ++ (c :: padding ++ after)) (piece.token?.toList ++ tokens)
        left := by
  have silent : none = piece.token? := Except.ok.inj reads.answer
  have first := reads.first
  have whole := reads.length_text.symm
  rw [split] at first whole
  obtain ⟨alone, -⟩ := reads.alone admits split (Nat.le_refl _)
  have first' := admits.find?_before_blank first alone isBlank (padding ++ after)
  obtain ⟨body, hbody⟩ := List.isPrefixOf_iff_prefix.1 alone
  rw [← hbody] at first' whole ⊢
  obtain ⟨unbroken, ends⟩ := line_of_comment whole
  obtain ⟨padding', pads', hleft⟩ := pads.exists_dropWhile admits.lineFeed_notMem ends
  rw [List.append_assoc] at first' ⊢
  rw [← silent]
  apply Finds.comment first'
  rw [dropWhile_line unbroken, ← List.cons_append, hleft]
  exact h.pad admits pads'

/-- With padding behind some of its pieces, the text gives the same tokens. By induction over these
pieces: each of them is cut off as before, since a blank comes behind it or behind others, but for a
comment just before the padding.
-/
theorem Decomposes.finds_padded (admits : AdmitPadding recognizers mark?) {c : Char}
    {padding : List Char} (isBlank : Text.isBlank c) (pads : Padding mark? (c :: padding))
    {first others : List Piece}
    (h : (ofRecognizers recognizers).Decomposes v (first ++ others) rest)
    (split : v.remaining = Piece.joined first ++ after)
    : Finds recognizers (Piece.joined first ++ (c :: padding ++ after))
        ((first ++ others).filterMap Piece.token?) rest.remaining := by
  induction first generalizing v with
  | nil =>
      rw [Piece.joined_nil, List.nil_append] at split ⊢
      rw [← split]
      exact h.finds.pad admits pads
  | cons piece first ih =>
      cases h with
      | @cut _ _ w _ _ cuts further =>
          obtain ⟨recognizer, reads⟩ := cuts.exists_reads
          rw [Piece.joined_cons] at split ⊢
          have hafter : w.remaining = Piece.joined first ++ after := by
            rw [List.append_assoc] at split
            exact List.append_cancel_left (cuts.split.symm.trans split)
          have htokens : (piece :: first ++ others).filterMap Piece.token?
              = piece.token?.toList ++ (first ++ others).filterMap Piece.token? :=
            Piece.filterMap_token?_cons piece (first ++ others)
          rw [htokens]
          by_cases last : recognizer.takesLine ∧ Piece.joined first = []
          · obtain ⟨takesLine, hlast⟩ := last
            rw [hlast, List.append_nil] at split ⊢
            rw [hlast, List.nil_append] at hafter
            cases recognizer with
            | lineComment mark nonempty =>
                rw [← hafter] at split ⊢
                exact reads.comment_padded admits split isBlank pads further.finds
            | _ => cases takesLine
          · have apart : recognizer.takesLine
                → piece.text.length < (piece.text ++ Piece.joined first).length := by
              intro takesLine
              have some := List.length_pos_iff.2 fun empty => last ⟨takesLine, empty⟩
              rw [List.length_append]
              omega
            obtain ⟨first', reading⟩ :=
              reads.before_blank admits split (List.prefix_append _ _).length_le apart isBlank
                (padding ++ after)
            apply Finds.cons first' reading
            rw [List.append_assoc, List.drop_left]
            exact ih further hafter

/-- A text that gives tokens gives the same ones with padding at a boundary between its lexemes. -/
theorem tokenizeText_pad (admits : AdmitPadding recognizers mark?) {name before after : String}
    {tokens : List Token} {done further : List Lexeme}
    (success : (ofRecognizers recognizers).tokenizeText name (before ++ after) = .ok tokens)
    (boundary
      : ((ofRecognizers recognizers).sessionOf name (before ++ after)).Boundary before.length
          done further)
    {c : Char} {padding : String} {others : List Char} (shown : padding.toList = c :: others)
    (isBlank : Text.isBlank c) (pads : Padding mark? padding.toList)
    : ∃ tokens',
        (ofRecognizers recognizers).tokenizeText name (before ++ padding ++ after) = .ok tokens'
        ∧ tokens'.map Token.content = tokens.map Token.content := by
  obtain ⟨pieces, rest, decomposes, ended, rfl⟩ := exists_decomposes_of_ok success
  have hlexemes := boundary.lexemes
  rw [sessionOf, session_of_decomposes decomposes] at hlexemes
  obtain ⟨first, others', rfl, rfl, -⟩ := Piece.exists_split hlexemes
  have hlength := boundary.length
  rw [Piece.totalLength_lexemes, ← String.length_toList] at hlength
  have hwhole : (Cursor.ofText name (before ++ after)).view.remaining
      = before.toList ++ after.toList := by
    rw [Cursor.remaining_view, Cursor.remaining_ofText, String.toList_append]
  obtain ⟨w, -, hsplit, -⟩ := decomposes.behind
  obtain ⟨hfirst, -⟩ := List.append_inj (hwhole.symm.trans hsplit) hlength.symm
  rw [hfirst] at hwhole
  have found := decomposes.finds_padded admits isBlank (shown ▸ pads) hwhole
  rw [ended, ← hfirst, ← shown, ← List.append_assoc, ← String.toList_append,
    ← String.toList_append] at found
  obtain ⟨placed, htokens, hcontent⟩ := found.exists_tokenizeText name
  exact ⟨placed, htokens, hcontent.trans (Piece.content_tokens _ _).symm⟩

end Tokenizer

end Lexical
