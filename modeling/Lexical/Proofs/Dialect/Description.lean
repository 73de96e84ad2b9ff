import Lexical.Dialect.Build
import Lexical.Proofs.Json.Record
import Lexical.Proofs.Json.Rendering

/-! Dialects that survive JSON. A dialect is read off every text that describes it, however that is
laid out, in whatever order the parts come and whatever else stands among them. Parts that are left
out are those of the standard dialect, and parts of an entry for a pattern are absent then.
-/

namespace Lexical.Dialect

open Json (Blanks Enclosed FillsStage Padded Takes Writes WritesPart WritesString)

-----------------------------------------------------------------------------------------
-- Descriptions
-----------------------------------------------------------------------------------------

/-- What a description of a dialect leaves out: parts of the dialect, and parts of the entries for
patterns, each given by its place. What an entry cannot do without is its pattern.
-/
structure Omission where
  parts : Finset String
  entryParts : Nat → Finset String
  keepsRegex : ∀ index, "regex" ∉ entryParts index

/-- Nothing is left out. -/
def Omission.none : Omission where
  parts := ∅
  entryParts _ := ∅
  keepsRegex _ := Finset.notMem_empty _

/-- A text that describes the entry. -/
def PatternEntry.Describes (entry : PatternEntry) (omitted : Finset String)
    : List Char → Prop :=
  WritesPart entry.toJson omitted fun _ => Writes

/-- A text that describes entries in their order. -/
def DescribesEntries (entries : List PatternEntry) (omitted : Nat → Finset String)
    (text : List Char)
    : Prop :=
  ∃ texts,
    List.Forall₂ (fun item text => item.1.Describes (omitted item.2) text) entries.zipIdx texts
    ∧ Enclosed .list Padded texts text

/-- What may be written for a part of the dialect. -/
def PartText (dialect : Dialect) (omission : Omission) (name : String) (value : Json)
    : List Char → Prop :=
  if name = "patterns" then DescribesEntries dialect.patterns omission.entryParts
  else Writes value

/-- A text that describes the dialect, with nothing around it. -/
def Describes (dialect : Dialect) (omission : Omission) : List Char → Prop :=
  WritesPart dialect.toJson omission.parts (dialect.PartText omission)

/-- The entry, where the parts that are left out are absent. -/
def PatternEntry.without (entry : PatternEntry) (omitted : Finset String) : PatternEntry where
  kind? := if "kind" ∈ omitted then none else entry.kind?
  regex := entry.regex
  window? := if "window" ∈ omitted then none else entry.window?
  skip := if "skip" ∈ omitted then false else entry.skip

/-- The dialect, where the parts that are left out are those of the standard dialect. -/
def without (dialect : Dialect) (omission : Omission) : Dialect where
  skipBlanks :=
    if "skip_whitespace" ∈ omission.parts then standard.skipBlanks else dialect.skipBlanks
  lineComment? :=
    if "line_comment" ∈ omission.parts then standard.lineComment? else dialect.lineComment?
  numbers := if "numbers" ∈ omission.parts then standard.numbers else dialect.numbers
  words := if "identifiers" ∈ omission.parts then standard.words else dialect.words
  quotes := if "quotes" ∈ omission.parts then standard.quotes else dialect.quotes
  keywords := if "keywords" ∈ omission.parts then standard.keywords else dialect.keywords
  punctuation :=
    if "punctuation" ∈ omission.parts then standard.punctuation else dialect.punctuation
  patterns :=
    if "patterns" ∈ omission.parts then standard.patterns
    else dialect.patterns.mapIdx fun index entry => entry.without (omission.entryParts index)

variable {α : Type} {name other : String} {read names omitted : Finset String} {value default : α}
  {text : List Char} {entry : PatternEntry} {dialect : Dialect} {omission : Omission}

-----------------------------------------------------------------------------------------
-- Parts that have been read
-----------------------------------------------------------------------------------------

/-- A part, if it is among those that have been read. -/
def partOf (read : Finset String) (name : String) (value : α) : Option α :=
  if name ∈ read then some value else none

theorem partOf_empty (name : String) (value : α) : partOf ∅ name value = none :=
  if_neg (Finset.notMem_empty name)

theorem isSome_partOf_of_notMem (unread : name ∉ read)
    : (partOf read name value).isSome = false :=
  congrArg Option.isSome (if_neg unread)

@[simp]
theorem partOf_insert_self : partOf (insert name read) name value = some value :=
  if_pos (Finset.mem_insert_self name read)

@[simp]
theorem partOf_insert_of_ne (differ : name ≠ other)
    : partOf (insert other read) name value = partOf read name value := by
  simp only [partOf, Finset.mem_insert, differ, false_or]

/-- A part that is left out is replaced, and any other is kept. -/
theorem getD_partOf (known : name ∈ names)
    : (partOf (names \ omitted) name value).getD default
      = if name ∈ omitted then default else value := by
  by_cases left : name ∈ omitted
  · simp [partOf, left]
  · simp [partOf, left, known]

/-- What has been read of an entry when the named parts have. -/
def entryDraft (entry : PatternEntry) (read : Finset String) : EntryDraft where
  kind := partOf read "kind" entry.kind?
  regex := partOf read "regex" entry.regex
  window := partOf read "window" entry.window?
  skip := partOf read "skip" entry.skip

/-- What has been read of a dialect when the named parts have. -/
def draft (dialect : Dialect) (read : Finset String) : Draft where
  skipBlanks := partOf read "skip_whitespace" dialect.skipBlanks
  lineComment := partOf read "line_comment" dialect.lineComment?
  numbers := partOf read "numbers" dialect.numbers
  words := partOf read "identifiers" dialect.words
  quotes := partOf read "quotes" dialect.quotes
  keywords := partOf read "keywords" dialect.keywords
  punctuation := partOf read "punctuation" dialect.punctuation
  patterns := partOf read "patterns" dialect.patterns

theorem entryDraft_empty (entry : PatternEntry) : entryDraft entry ∅ = {} := by
  simp only [entryDraft, partOf_empty]

theorem draft_empty (dialect : Dialect) : draft dialect ∅ = {} := by
  simp only [draft, partOf_empty]

-----------------------------------------------------------------------------------------
-- Entries for patterns
-----------------------------------------------------------------------------------------

theorem takes_optional_string {value? : Option String}
    (written : Writes (Json.optional .string value?) text)
    : Takes (Json.Reader.optional Json.Reader.string) text value? := by
  refine Json.takes_optional written fun value _ written => ?_
  refine ⟨Json.takes_string written, ?_⟩
  cases written with
  | string written =>
      cases written
      rintro ⟨⟩

theorem takes_optional_natural {value? : Option Nat}
    (fits : ∀ value ∈ value?, value < 2 ^ 64)
    (written : Writes (Json.optional .natural value?) text)
    : Takes (Json.Reader.optional Json.Reader.natural) text value? := by
  refine Json.takes_optional written fun value present written => ?_
  refine ⟨Json.takes_natural written (fits value present), ?_⟩
  cases written with
  | natural whole _ =>
      obtain ⟨c, others, rfl, isDigit⟩ := whole.exists_digit
      rintro ⟨⟩
      cases isDigit

theorem fillsStage_entry (fits : ∀ width ∈ entry.window?, width < 2 ^ 64)
    : ∀ member ∈ entry.toJson.memberList,
        FillsStage entryShape (entryDraft entry) (member.1, Writes member.2) := by
  have hkind
      : FillsStage entryShape (entryDraft entry)
          ("kind", Writes (Json.optional .string entry.kind?)) :=
    Json.fillsStage_of_takes (fun draft kind => { draft with kind := some kind }) rfl
      (fun _ => rfl) (fun _ => isSome_partOf_of_notMem) (fun _ => by simp [entryDraft])
      (fun _ => takes_optional_string)
  have hregex : FillsStage entryShape (entryDraft entry) ("regex", Writes (.string entry.regex)) :=
    Json.fillsStage_of_takes (fun draft regex => { draft with regex := some regex }) rfl
      (fun _ => rfl) (fun _ => isSome_partOf_of_notMem) (fun _ => by simp [entryDraft])
      (fun _ => Json.takes_string)
  have hwindow
      : FillsStage entryShape (entryDraft entry)
          ("window", Writes (Json.optional .natural entry.window?)) :=
    Json.fillsStage_of_takes (fun draft window => { draft with window := some window }) rfl
      (fun _ => rfl) (fun _ => isSome_partOf_of_notMem) (fun _ => by simp [entryDraft])
      (fun _ => takes_optional_natural fits)
  have hskip : FillsStage entryShape (entryDraft entry) ("skip", Writes (.bool entry.skip)) :=
    Json.fillsStage_of_takes (fun draft skip => { draft with skip := some skip }) rfl
      (fun _ => rfl) (fun _ => isSome_partOf_of_notMem) (fun _ => by simp [entryDraft])
      (fun _ => Json.takes_bool)
  simp only [PatternEntry.toJson, Json.memberList, List.forall_mem_cons]
  exact ⟨hkind, hregex, hwindow, hskip, List.forall_mem_nil _⟩

theorem PatternEntry.Describes.takes (described : entry.Describes omitted text)
    (fits : ∀ width ∈ entry.window?, width < 2 ^ 64) (keepsRegex : "regex" ∉ omitted)
    : Takes readEntry text (entry.without omitted) := by
  have complete
      : entryShape.fields.find? (fun field =>
          field.required
          && !field.isSet
            (entryDraft entry ((entryShape.fields.map (·.name)).toFinset \ omitted)))
        = none := by
    simp [entryShape, entryDraft, partOf, keepsRegex]
  have htakes := WritesPart.takes described rfl (by decide) (fillsStage_entry fits) complete
  have hentry
      : (entryDraft entry ((entryShape.fields.map (·.name)).toFinset \ omitted)).toEntry
        = entry.without omitted := by
    simp [entryShape, entryDraft, EntryDraft.toEntry, PatternEntry.without, getD_partOf,
      keepsRegex]
  rw [entryDraft_empty] at htakes
  rw [readEntry, map_eq_pure_bind, ← hentry]
  exact htakes.map EntryDraft.toEntry

-----------------------------------------------------------------------------------------
-- Dialects
-----------------------------------------------------------------------------------------

theorem takes_quotes {quotes : List Char} (written : Writes (.list (quotes.map charToJson)) text)
    : Takes (Json.Reader.list Json.Reader.char) text quotes :=
  Json.takes_list_of_writes written fun _ _ _ => Json.takes_char

theorem takes_strings {values : List String} (written : Writes (.list (values.map .string)) text)
    : Takes (Json.Reader.list Json.Reader.string) text values :=
  Json.takes_list_of_writes written fun _ _ _ => Json.takes_string

/-- Entries for patterns are taken in their order, each of them without what is left out there. -/
theorem takes_entries {entries : List PatternEntry}
    (fits : ∀ entry ∈ entries, ∀ width ∈ entry.window?, width < 2 ^ 64) (omission : Omission)
    (described : DescribesEntries entries omission.entryParts text)
    : Takes (Json.Reader.list readEntry) text
        (entries.mapIdx fun index entry => entry.without (omission.entryParts index)) := by
  obtain ⟨texts, hentries, layout⟩ := described
  rw [List.mapIdx_eq_zipIdx_map]
  refine Json.takes_list layout (List.Forall₂.flip ?_)
  rw [List.forall₂_map_left_iff]
  have hitems := (List.forall₂_and_left entries.zipIdx texts).2
    ⟨fun item listed => fits item.1 (List.fst_mem_of_mem_zipIdx listed), hentries⟩
  exact hitems.imp fun item text h => h.2.takes h.1 (omission.keepsRegex item.2)

/-- The dialect, where the entries for patterns are without what is left out of them. -/
def withEntries (dialect : Dialect) (omission : Omission) : Dialect :=
  { dialect with
    patterns := dialect.patterns.mapIdx fun index entry =>
      entry.without (omission.entryParts index) }

theorem fillsStage_dialect
    (fits : ∀ entry ∈ dialect.patterns, ∀ width ∈ entry.window?, width < 2 ^ 64)
    : ∀ member ∈ dialect.toJson.memberList,
        FillsStage shape (draft (dialect.withEntries omission))
          (member.1, dialect.PartText omission member.1 member.2) := by
  simp only [toJson, Json.memberList, List.forall_mem_cons]
  refine ⟨?skip_whitespace, ?line_comment, ?numbers, ?identifiers, ?quotes, ?keywords,
    ?punctuation, ?patterns, List.forall_mem_nil _⟩
  case skip_whitespace =>
    exact Json.fillsStage_of_takes (fun draft value => { draft with skipBlanks := some value }) rfl
      (fun _ => rfl) (fun _ => isSome_partOf_of_notMem) (fun _ => by simp [draft, withEntries])
      (fun _ => Json.takes_bool)
  case line_comment =>
    exact Json.fillsStage_of_takes (fun draft value => { draft with lineComment := some value }) rfl
      (fun _ => rfl) (fun _ => isSome_partOf_of_notMem) (fun _ => by simp [draft, withEntries])
      (fun _ => takes_optional_string)
  case numbers =>
    exact Json.fillsStage_of_takes (fun draft value => { draft with numbers := some value }) rfl
      (fun _ => rfl) (fun _ => isSome_partOf_of_notMem) (fun _ => by simp [draft, withEntries])
      (fun _ => Json.takes_bool)
  case identifiers =>
    exact Json.fillsStage_of_takes (fun draft value => { draft with words := some value }) rfl
      (fun _ => rfl) (fun _ => isSome_partOf_of_notMem) (fun _ => by simp [draft, withEntries])
      (fun _ => Json.takes_bool)
  case quotes =>
    exact Json.fillsStage_of_takes (fun draft value => { draft with quotes := some value }) rfl
      (fun _ => rfl) (fun _ => isSome_partOf_of_notMem) (fun _ => by simp [draft, withEntries])
      (fun _ => takes_quotes)
  case keywords =>
    exact Json.fillsStage_of_takes (fun draft value => { draft with keywords := some value }) rfl
      (fun _ => rfl) (fun _ => isSome_partOf_of_notMem) (fun _ => by simp [draft, withEntries])
      (fun _ => takes_strings)
  case punctuation =>
    exact Json.fillsStage_of_takes (fun draft value => { draft with punctuation := some value }) rfl
      (fun _ => rfl) (fun _ => isSome_partOf_of_notMem) (fun _ => by simp [draft, withEntries])
      (fun _ => takes_strings)
  case patterns =>
    exact Json.fillsStage_of_takes (fun draft value => { draft with patterns := some value }) rfl
      (fun _ => rfl) (fun _ => isSome_partOf_of_notMem) (fun _ => by simp [draft, withEntries])
      (fun _ => takes_entries fits omission)

theorem Describes.takes (described : dialect.Describes omission text)
    (fits : ∀ entry ∈ dialect.patterns, ∀ width ∈ entry.window?, width < 2 ^ 64)
    : Takes reader text (dialect.without omission) := by
  have complete
      : shape.fields.find? (fun field =>
          field.required
          && !field.isSet
            (draft (dialect.withEntries omission)
              ((shape.fields.map (·.name)).toFinset \ omission.parts)))
        = none := by
    simp [shape]
  have htakes := WritesPart.takes described rfl (by decide) (fillsStage_dialect fits) complete
  have hdialect
      : (draft (dialect.withEntries omission)
            ((shape.fields.map (·.name)).toFinset \ omission.parts)).toDialect
        = dialect.without omission := by
    simp [shape, draft, Draft.toDialect, without, withEntries, getD_partOf]
  rw [draft_empty] at htakes
  rw [reader, map_eq_pure_bind, ← hdialect]
  exact htakes.map Draft.toDialect

-----------------------------------------------------------------------------------------
-- Rendered dialects
-----------------------------------------------------------------------------------------

theorem PatternEntry.describes_of_writes (written : Writes entry.toJson text)
    : entry.Describes ∅ text :=
  written.writesPart fun _ _ _ h => h

theorem describesEntries_of_writes {entries : List PatternEntry}
    (written : Writes (.list (entries.map PatternEntry.toJson)) text)
    : DescribesEntries entries Omission.none.entryParts text := by
  cases written with
  | @list _ texts _ written layout =>
      refine ⟨texts, ?_, layout⟩
      rw [← List.zipIdx_map_fst 0 entries, List.map_map, List.forall₂_map_left_iff] at written
      exact written.imp fun _ _ => PatternEntry.describes_of_writes

theorem describes_of_writes (written : Writes dialect.toJson text)
    : dialect.Describes .none text := by
  refine written.writesPart ?_
  simp only [List.forall_mem_cons]
  exact ⟨fun _ => id, fun _ => id, fun _ => id, fun _ => id, fun _ => id, fun _ => id,
    fun _ => id, fun _ => describesEntries_of_writes, List.forall_mem_nil _⟩

theorem PatternEntry.without_empty (entry : PatternEntry) : entry.without ∅ = entry := by
  simp [PatternEntry.without]

theorem without_none (dialect : Dialect) : dialect.without .none = dialect := by
  simp [without, Omission.none, PatternEntry.without_empty, List.mapIdx_eq_zipIdx_map]

/-- A dialect is read off its own JSON text, and off every text that describes it: parts that are
left out are those of the standard dialect, and parts of entries for patterns are absent.
-/
theorem dialects_survive_json (dialect : Dialect)
    (fits : ∀ entry ∈ dialect.patterns, ∀ width ∈ entry.window?, width < 2 ^ 64)
    : load dialect.toJson.render = .ok dialect
      ∧ ∀ omission inner text,
          dialect.Describes omission inner
          → Padded inner text
          → load (String.ofList text) = .ok (dialect.without omission) := by
  have hload (omission : Omission) (inner text : List Char)
      (described : dialect.Describes omission inner) (padded : Padded inner text)
      : load (String.ofList text) = .ok (dialect.without omission) := by
    rw [load, ofJson, (described.takes fits).whole padded]
    rfl
  refine ⟨?_, hload⟩
  have hrendered := describes_of_writes (Json.writes_renderValue dialect.toJson)
  rw [Json.render, hload _ _ _ hrendered (Json.padded_self _), without_none]

/-- An entry whose lexemes are skipped. -/
def skippedWord : PatternEntry :=
  { kind? := some "word", regex := "a+", window? := some 8, skip := true }

/-- A dialect of one pattern and nothing else. -/
def skippedWords : Dialect :=
  { bare with patterns := [skippedWord] }

/-- Nothing stays but the mark for comments, and of the entries the pattern and the window. -/
def Omission.most : Omission where
  parts := {"skip_whitespace", "numbers", "identifiers", "quotes", "keywords", "punctuation"}
  entryParts _ := {"kind", "skip"}
  keepsRegex _ := by decide

/-- A description in another order, with a part that no dialect has, and with a mark for comments
that is absent rather than left out.
-/
theorem dialect_survives_sparse_json
    : (∀ entry ∈ skippedWords.patterns, ∀ width ∈ entry.window?, width < 2 ^ 64)
      ∧ load ("\x7b\"later\":\x7b\x7d,\"patterns\":[\x7b\"window\":8,\"regex\":\"a+\"\x7d],"
            ++ "\"line_comment\":null\x7d\n")
        = .ok { standard with
            lineComment? := none, patterns := [{ regex := "a+", window? := some 8 }] } := by
  have fits : ∀ entry ∈ skippedWords.patterns, ∀ width ∈ entry.window?, width < 2 ^ 64 := by
    decide
  have hlater : Json.WellFormed "\x7b\x7d".toList :=
    .object (List.forall_mem_nil _) (List.forall_mem_nil _) (.empty Json.blanks_nil)
  have hregex : Writes (.string "a+") "\"a+\"".toList := Json.writes_renderValue (.string "a+")
  have hwindow : Writes (.natural 8) "8".toList := Json.writes_renderValue (.natural 8)
  have hentries
      : DescribesEntries skippedWords.patterns Omission.most.entryParts
          "[\x7b\"window\":8,\"regex\":\"a+\"\x7d]".toList := by
    have layout
        : Enclosed .object (Json.Member WritesString)
            [("window", "8".toList), ("regex", "\"a+\"".toList)]
            "\x7b\"window\":8,\"regex\":\"a+\"\x7d".toList :=
      .filled (.cons (Json.member_render "window" _) (.last (Json.member_render "regex" _)))
    have hown
        : List.Forall₂ Json.Admits
            [("regex", Writes (.string "a+")), ("window", Writes (.natural 8))]
            [("regex", "\"a+\"".toList), ("window", "8".toList)] :=
      .cons ⟨rfl, hregex⟩ (.cons ⟨rfl, hwindow⟩ .nil)
    have hentry
        : skippedWord.Describes (Omission.most.entryParts 0)
            "\x7b\"window\":8,\"regex\":\"a+\"\x7d".toList :=
      .intro hown (List.forall_mem_nil _) (List.reverse_perm _) layout
    exact ⟨_, .cons hentry .nil, .filled (.last (Json.padded_self _))⟩
  have hforeign
      : ∀ item ∈ [("later", "\x7b\x7d".toList)],
          item.1 ∉ skippedWords.toJson.memberList.map Prod.fst ∧ Json.WellFormed item.2 :=
    List.forall_mem_singleton.2 ⟨by decide, hlater⟩
  have hown
      : List.Forall₂ Json.Admits
          [("line_comment", Writes .null),
            ("patterns", DescribesEntries skippedWords.patterns Omission.most.entryParts)]
          [("line_comment", "null".toList),
            ("patterns", "[\x7b\"window\":8,\"regex\":\"a+\"\x7d]".toList)] :=
    .cons ⟨rfl, .null⟩ (.cons ⟨rfl, hentries⟩ .nil)
  have layout
      : Enclosed .object (Json.Member WritesString)
          [("later", "\x7b\x7d".toList),
            ("patterns", "[\x7b\"window\":8,\"regex\":\"a+\"\x7d]".toList),
            ("line_comment", "null".toList)] _ :=
    .filled (.cons (Json.member_render "later" _)
      (.cons (Json.member_render "patterns" _) (.last (Json.member_render "line_comment" _))))
  have hdescribed : skippedWords.Describes .most _ :=
    .intro hown hforeign (List.reverse_perm _) layout
  have trailing : Blanks ['\n'] := List.forall_mem_singleton.2 (by decide)
  have hloaded := (dialects_survive_json skippedWords fits).2 .most _ _ hdescribed
    (.intro Json.blanks_nil trailing)
  exact ⟨fits, hloaded⟩

end Lexical.Dialect
