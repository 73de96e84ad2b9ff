import Lexical.Proofs.Dialect.Build
import Lexical.Proofs.Recognizer.Contract
import Mathlib.Data.List.Basic

/-! The symbols of a dialect in their order. Longer ones come first and those of one length are told
apart by their characters, so that a set of symbols has one order only, and the first symbol in it
that begins a text is the longest one that does.
-/

namespace Lexical.Dialect

-----------------------------------------------------------------------------------------
-- The order of symbols
-----------------------------------------------------------------------------------------

theorem symbolLe_iff {a b : String}
    : symbolLe a b ↔ b.length < a.length ∨ a.length = b.length ∧ a ≤ b := by
  simp only [symbolLe, Bool.or_eq_true, Bool.and_eq_true, decide_eq_true_eq, beq_iff_eq]

theorem symbolLe_trans (a b c : String) (first : symbolLe a b) (second : symbolLe b c)
    : symbolLe a c := by
  rw [symbolLe_iff] at first second ⊢
  rcases first with shorter | ⟨same, le⟩
  · left
    omega
  · rcases second with shorter | ⟨same', le'⟩
    · left
      omega
    · exact .inr ⟨same.trans same', String.le_trans le le'⟩

theorem symbolLe_total (a b : String) : symbolLe a b || symbolLe b a := by
  rw [Bool.or_eq_true, symbolLe_iff, symbolLe_iff]
  rcases Nat.lt_trichotomy a.length b.length with shorter | same | longer
  · exact .inr (.inl shorter)
  · rcases String.le_total a b with le | le
    · exact .inl (.inr ⟨same, le⟩)
    · exact .inr (.inr ⟨same.symm, le⟩)
  · exact .inl (.inl longer)

theorem symbolLe_antisymm {a b : String} (first : symbolLe a b) (second : symbolLe b a)
    : a = b := by
  rw [symbolLe_iff] at first second
  rcases first with shorter | ⟨same, le⟩
  · omega
  · rcases second with shorter | ⟨same', le'⟩
    · omega
    · exact String.le_antisymm le le'

/-- Without equal neighbours a list in order has no symbol twice, by induction as neighbours are
compared: a symbol that came again would have to equal those between.
-/
theorem pairwise_dropRepeats {symbols : List String}
    (sorted : symbols.Pairwise fun a b => symbolLe a b)
    : (dropRepeats symbols).Pairwise fun a b => symbolLe a b ∧ a ≠ b := by
  fun_induction dropRepeats symbols with
  | case1 => exact List.Pairwise.nil
  | case2 symbol => exact List.pairwise_singleton _ _
  | case3 second rest ih => exact ih (List.pairwise_cons.1 sorted).2
  | case4 first second rest distinct ih =>
      obtain ⟨hfirst, hothers⟩ := List.pairwise_cons.1 sorted
      refine List.pairwise_cons.2 ⟨?_, ih hothers⟩
      intro symbol member
      rw [mem_dropRepeats] at member
      refine ⟨hfirst symbol member, ?_⟩
      rintro rfl
      rcases List.mem_cons.1 member with same | later
      · exact distinct same
      · have hsecond := hfirst second List.mem_cons_self
        have hback := (List.pairwise_cons.1 hothers).1 first later
        exact distinct (symbolLe_antisymm hsecond hback)

theorem pairwise_orderedSymbols (symbols : List String)
    : (orderedSymbols symbols).Pairwise fun a b => symbolLe a b ∧ a ≠ b :=
  pairwise_dropRepeats (List.pairwise_mergeSort symbolLe_trans symbolLe_total symbols)

/-- Lists with the same symbols have the same order: it has each symbol once, and in one order only.
-/
theorem orderedSymbols_eq_of_mem_iff {symbols others : List String}
    (same : ∀ symbol, symbol ∈ symbols ↔ symbol ∈ others)
    : orderedSymbols symbols = orderedSymbols others := by
  have hordered := pairwise_orderedSymbols symbols
  have hordered' := pairwise_orderedSymbols others
  have hperm : (orderedSymbols symbols).Perm (orderedSymbols others) := by
    rw [List.perm_ext_iff_of_nodup (hordered.imp And.right) (hordered'.imp And.right)]
    intro symbol
    rw [mem_orderedSymbols, mem_orderedSymbols, same]
  exact List.Perm.eq_of_pairwise (fun _ _ _ _ first second => symbolLe_antisymm first second)
    (hordered.imp And.left) (hordered'.imp And.left) hperm

-----------------------------------------------------------------------------------------
-- The longest symbol
-----------------------------------------------------------------------------------------

/-- The symbol is in the list and begins the text, and any other one that does is shorter. -/
structure Longest (symbols : List String) (text : List Char) (symbol : String) : Prop where
  listed : symbol ∈ symbols
  begins : symbol.toList <+: text
  longer
    : ∀ other ∈ symbols,
        other.toList <+: text → other ≠ symbol → other.length < symbol.length

/-- The first symbol in order that begins a text is the longest. Of the others, those before it do
not begin the text, and those behind it are no longer; one of the same length would be the same.
-/
theorem longest_of_find? {symbols : List String} {text : List Char} {symbol : String}
    (found : (orderedSymbols symbols).find? (·.toList.isPrefixOf text) = some symbol)
    : Longest symbols text symbol := by
  have hordered := pairwise_orderedSymbols symbols
  obtain ⟨begins, before, behind, hsplit, hbefore⟩ := List.find?_eq_some_iff_append.1 found
  have begins := List.isPrefixOf_iff_prefix.1 begins
  refine ⟨mem_orderedSymbols.1 (List.mem_of_find?_eq_some found), begins, ?_⟩
  intro other listed begins' distinct
  have member := mem_orderedSymbols.2 listed
  rw [hsplit, List.mem_append, List.mem_cons] at member
  rcases member with earlier | same | later
  · have hnot := hbefore other earlier
    rw [List.isPrefixOf_iff_prefix.2 begins'] at hnot
    cases hnot
  · exact (distinct same).elim
  · rw [hsplit, List.pairwise_append, List.pairwise_cons] at hordered
    have hle := symbolLe_iff.1 (hordered.2.1.1 other later).1
    rcases hle with shorter | ⟨same, -⟩
    · exact shorter
    · have hlength : symbol.toList.length = other.toList.length := by
        rw [String.length_toList, String.length_toList, same]
      have htext := (List.prefix_of_prefix_length_le begins begins' hlength.le).eq_of_length hlength
      exact (distinct (String.toList_injective htext).symm).elim

-----------------------------------------------------------------------------------------
-- The recognizers of symbols
-----------------------------------------------------------------------------------------

/-- The value of the token of a symbol: its character if it has only one, and else its text. -/
def symbolValue (symbol : String) : Value :=
  match symbol.toList with
  | [c] => .rune c
  | _ => .text symbol

/-- A symbol is recognized where it begins the text. -/
theorem starts_of_symbolRecognizer {symbol : String} {recognizer : Recognizer}
    (made : symbolRecognizer symbol = .ok recognizer) (text : List Char)
    : recognizer.starts text = symbol.toList.isPrefixOf text := by
  obtain ⟨c, single, rfl⟩ | ⟨-, nonempty, rfl⟩ := symbolRecognizer_cases made
  · rw [Recognizer.starts, single]
    cases text with
    | nil => rfl
    | cons d rest =>
        rw [List.isPrefixOf, List.isPrefixOf_nil_left, Bool.and_true, List.head?_cons,
          Option.some_beq_some, Bool.beq_comm]
  · rfl

/-- Where it begins the text, a symbol becomes a token of its own kind. -/
theorem reading_of_symbolRecognizer {symbol : String} {recognizer : Recognizer}
    (made : symbolRecognizer symbol = .ok recognizer) {text : List Char}
    (begins : symbol.toList.isPrefixOf text) (place : Position)
    : recognizer.reading place text
      = ⟨Rule.accept ⟨symbol⟩ (symbolValue symbol), symbol.length⟩ := by
  obtain ⟨c, single, rfl⟩ | ⟨several, nonempty, rfl⟩ := symbolRecognizer_cases made
  · rw [single] at begins
    obtain ⟨rest, rfl⟩ := List.isPrefixOf_iff_prefix.1 begins
    have hvalue : symbolValue symbol = .rune c := by
      rw [symbolValue, single]
    have hhead : ([c] ++ rest).head? = some c := rfl
    rw [Recognizer.reading, if_pos hhead, hvalue, ← String.length_toList, single]
    rfl
  · have hvalue : symbolValue symbol = .text symbol := by
      unfold symbolValue
      split
      · next c single => exact (several c single).elim
      · rfl
    rw [Recognizer.reading, Recognizer.literalReading,
      Recognizer.sharedLength_of_isPrefixOf begins, String.length_toList, if_pos rfl, hvalue]

/-- The first recognizer of symbols in a row that starts at a text is that of the first symbol that
begins it, by induction over the symbols.
-/
theorem find?_symbolRecognizers {symbols : List String} {recognizers : List Recognizer}
    (made : symbols.mapM symbolRecognizer = .ok recognizers) (text : List Char)
    : Option.Rel (fun symbol recognizer => symbolRecognizer symbol = .ok recognizer)
        (symbols.find? (·.toList.isPrefixOf text)) (recognizers.find? (·.starts text)) := by
  rw [mapM_eq_ok_iff] at made
  induction made with
  | nil => exact .none
  | @cons symbol recognizer symbols recognizers first others ih =>
      rw [List.find?_cons, List.find?_cons, starts_of_symbolRecognizer first]
      cases symbol.toList.isPrefixOf text with
      | true => exact .some first
      | false => exact ih

end Lexical.Dialect
