import Lexical.Proofs.Json.Taking

/-! Records that are taken off the members of an object. Members that are fields fill these one
after the other, in any order as long as none comes twice; members of other names are passed over.
-/

namespace Lexical.Json

open Reader

variable {σ : Type} {shape : Shape σ} {record result : σ} {text rest before lead : List Char}
  {first : Bool} {written : List (String × List Char)}

/-- What a member, given by its name and the text of its value, does to a record that is being read:
nothing if it is no field, and else it fills a field that is not set yet.
-/
inductive Fills (shape : Shape σ) (record : σ) : String × List Char → σ → Prop
  | foreign {name text} (unknown : shape.fields.find? (·.name == name) = none)
    (wellFormed : WellFormed text)
    : Fills shape record (name, text) record
  | field {name text field next} (known : shape.fields.find? (·.name == name) = some field)
    (unset : field.isSet record = false) (takes : Takes (field.read record) text next)
    : Fills shape record (name, text) next

-----------------------------------------------------------------------------------------
-- Members in a row
-----------------------------------------------------------------------------------------

theorem run_hasMember (leads : Lead first lead) (blanks : Blanks before)
    : (hasMember first).run (lead ++ (before ++ '"' :: rest)) = .ok (true, '"' :: rest) := by
  cases leads with
  | first =>
      have hpeek : (peekIn .object).run (before ++ '"' :: rest) = .ok ('"', '"' :: rest) := by
        rw [ignoresBlanks_peekIn .object before _ blanks, run_peekIn .object rfl]
      rw [List.nil_append, hasMember, run_bind_of_run hpeek]
      rfl
  | later =>
      have hpeek : (peekIn .value).run (before ++ '"' :: rest) = .ok ('"', '"' :: rest) := by
        rw [ignoresBlanks_peekIn .value before _ blanks, run_peekIn .value rfl]
      rw [List.cons_append, List.nil_append, hasMember, run_bind_of_run (run_peekIn .object rfl),
        if_neg (by decide), if_neg (by decide), if_pos rfl, run_bind_of_run run_skip,
        run_bind_of_run hpeek]
      rfl

theorem run_hasMember_closing (first : Bool) (rest : List Char)
    : (hasMember first).run ('\x7d' :: rest) = .ok (false, '\x7d' :: rest) := by
  rw [hasMember, run_bind_of_run (run_peekIn .object rfl)]
  rfl

theorem members_goesThrough (shape : Shape σ)
    : GoesThrough .object (Member WritesString) (Fills shape) id (members shape) := by
  have ignores (fuel : Nat) (first : Bool) (record : σ)
      : IgnoresBlanks (members shape (fuel + 1) first record) :=
    ((ignoresBlanks_peekIn .object).bind _).bind _
  refine ⟨ignores, ?step, ?close⟩
  case step =>
    intro record member next text first lead rest fuel fills layout leads ends
    obtain @⟨before, key, between, value, leading, named, middle, padded⟩ := layout
    obtain ⟨body, rfl, hbody⟩ := named.exists_body
    obtain @⟨before', after, leading', trailing⟩ := padded
    have hcolon (rest : List Char) : colon.run (between ++ ':' :: rest) = .ok ((), rest) := by
      rw [ignoresBlanks_colon between _ middle, run_colon]
    have hbehind (record : σ) := ignores fuel false record after rest trailing
    simp only [List.append_assoc, List.cons_append]
    rw [members, run_bind_of_run (run_hasMember leads leading), if_pos rfl,
      run_bind_of_run run_skip, run_bind_of_run (hbody _)]
    cases fills with
    | foreign unknown wellFormed =>
        have hvalue := wellFormed.run_skipValue leading' (trailing.numberEnds ends)
        simp only [unknown]
        rw [run_bind_of_run (hcolon _), run_bind_of_run hvalue, hbehind]
    | field known unset takes =>
        have hvalue := takes.run _ (trailing.numberEnds ends)
        rw [← takes.ignoresBlanks before' _ leading'] at hvalue
        simp only [known, unset, Bool.false_eq_true, if_false]
        rw [run_bind_of_run (hcolon _), run_bind_of_run hvalue, hbehind]
  case close =>
    intro fuel first record rest
    rw [members]
    exact run_bind_of_run (run_hasMember_closing first rest)

theorem run_endObject (rest : List Char) : endObject.run ('\x7d' :: rest) = .ok ((), rest) := by
  rw [endObject, run_bind_of_run (run_peekIn .object rfl)]
  rfl

/-- An object is taken as a record if its members fill it and no required field is missing. -/
theorem takes_record (enclosed : Enclosed .object (Member WritesString) written text)
    (fills : Steps (Fills shape) record written result)
    (complete : shape.fields.find? (fun field => field.required && !field.isSet result) = none)
    : Takes (Reader.record shape record) text result := by
  obtain ⟨body, rfl, hmembers⟩ := (members_goesThrough shape).exists_body enclosed fills
  refine ⟨⟨'\x7b', body, rfl, by decide⟩, (ignoresBlanks_peekIn .value).bind _, fun rest _ => ?_⟩
  rw [List.cons_append]
  refine (run_bind_of_run (run_peekIn .value rfl)).trans ?_
  refine (run_bind_of_run run_skip).trans ?_
  rw [run_bind_of_run (run_get _), run_bind_of_run (hmembers rest)]
  simp only [id_eq, complete]
  exact run_bind_of_run (run_endObject rest)

-----------------------------------------------------------------------------------------
-- Objects in any order
-----------------------------------------------------------------------------------------

/-- Reading the member fills the field of its name, whatever other fields have been read. The record
is given by the names of the fields that have.
-/
def FillsStage (shape : Shape σ) (stage : Finset String → σ)
    (member : String × (List Char → Prop))
    : Prop :=
  ∃ field,
    shape.fields.find? (·.name == member.1) = some field
    ∧ ∀ read,
        member.1 ∉ read
        → field.isSet (stage read) = false
          ∧ ∀ text,
              member.2 text → Takes (field.read (stage read)) text (stage (insert member.1 read))

/-- A field that is read by one reader and set to what that takes. -/
theorem fillsStage_of_takes {stage : Finset String → σ} {α : Type} {reader : Reader α} {value : α}
    {name : String} {Text : List Char → Prop} {field : Reader.Field σ} (set : σ → α → σ)
    (known : shape.fields.find? (·.name == name) = some field)
    (reads : ∀ record, field.read record = do pure (set record (← reader)))
    (unset : ∀ read, name ∉ read → field.isSet (stage read) = false)
    (next : ∀ read, set (stage read) value = stage (insert name read))
    (takes : ∀ text, Text text → Takes reader text value)
    : FillsStage shape stage (name, Text) := by
  refine ⟨field, known, fun read fresh => ⟨unset read fresh, fun text written => ?_⟩⟩
  rw [reads, ← next]
  exact (takes text written).map (set (stage read))

/-- The names among the members that are those of fields. -/
def ownNames (shape : Shape σ) (written : List (String × List Char)) : List String :=
  (written.map Prod.fst).filter (· ∈ shape.fields.map Field.name)

variable {stage : Finset String → σ} {members : List (String × (List Char → Prop))}

theorem FillsStage.mem_names {member : String × (List Char → Prop)}
    (h : FillsStage shape stage member)
    : member.1 ∈ shape.fields.map Field.name := by
  obtain ⟨field, known, -⟩ := h
  have hname : field.name = member.1 := by
    simpa using List.find?_some known
  exact hname ▸ List.mem_map_of_mem (List.mem_of_find?_eq_some known)

theorem find?_eq_none_of_notMem {name : String} (unknown : name ∉ shape.fields.map Field.name)
    : shape.fields.find? (·.name == name) = none := by
  rw [List.find?_eq_none]
  intro field member same
  exact unknown (List.mem_map.2 ⟨field, member, by simpa using same⟩)

theorem ownNames_cons_of_mem {name : String} (known : name ∈ shape.fields.map Field.name)
    : ownNames shape ((name, text) :: written) = name :: ownNames shape written :=
  List.filter_cons_of_pos (by simpa using known)

theorem ownNames_cons_of_notMem {name : String} (unknown : name ∉ shape.fields.map Field.name)
    : ownNames shape ((name, text) :: written) = ownNames shape written :=
  List.filter_cons_of_neg (by simpa using unknown)

/-- Members in a row fill the fields of their names, by induction over them, if none of these comes
twice or has been read before.
-/
theorem steps_fills (stages : ∀ member ∈ members, FillsStage shape stage member)
    (items
      : ∀ item ∈ written,
          (∃ member ∈ members, Admits member item)
          ∨ item.1 ∉ shape.fields.map Field.name ∧ WellFormed item.2)
    (read : Finset String) (once : (ownNames shape written).Nodup)
    (fresh : ∀ name ∈ ownNames shape written, name ∉ read)
    : Steps (Fills shape) (stage read) written
        (stage (read ∪ (ownNames shape written).toFinset)) := by
  induction written generalizing read with
  | nil =>
      have hnames : read ∪ (ownNames shape []).toFinset = read := Finset.union_empty read
      rw [hnames]
      exact .nil _
  | cons item others ih =>
      obtain ⟨hitem, hothers⟩ := List.forall_mem_cons.1 items
      obtain ⟨name, text⟩ := item
      rcases hitem with ⟨member, listed, rfl, hvalue⟩ | ⟨unknown, wellFormed⟩
      · have hmember := stages member listed
        rw [ownNames_cons_of_mem hmember.mem_names] at once fresh ⊢
        obtain ⟨first, onceBehind⟩ := List.nodup_cons.1 once
        obtain ⟨freshFirst, freshBehind⟩ := List.forall_mem_cons.1 fresh
        obtain ⟨field, known, hfield⟩ := hmember
        obtain ⟨unset, takes⟩ := hfield read freshFirst
        have freshNext
            : ∀ name ∈ ownNames shape others, name ∉ insert member.1 read := by
          rintro name listed seen
          rcases Finset.mem_insert.1 seen with rfl | seen
          · exact first listed
          · exact freshBehind name listed seen
        have hothers := ih hothers (insert member.1 read) onceBehind freshNext
        rw [List.toFinset_cons, Finset.union_insert, ← Finset.insert_union]
        exact .cons (.field known unset (takes _ hvalue)) hothers
      · rw [ownNames_cons_of_notMem unknown] at once fresh ⊢
        have hforeign : Fills shape (stage read) (name, text) (stage read) :=
          .foreign (find?_eq_none_of_notMem unknown) wellFormed
        exact .cons hforeign (ih hothers read once fresh)

theorem ownNames_of_values {own : List (String × List Char)}
    (values : List.Forall₂ Admits members own)
    (stages : ∀ member ∈ members, FillsStage shape stage member)
    : ownNames shape own = members.map Prod.fst := by
  induction values with
  | nil => rfl
  | @cons member item members own hitem others ih =>
      obtain ⟨hmember, hmembers⟩ := List.forall_mem_cons.1 stages
      obtain ⟨name, text⟩ := item
      obtain ⟨rfl, -⟩ := hitem
      rw [ownNames_cons_of_mem hmember.mem_names, ih hmembers, List.map_cons]

theorem exists_member_of_values {own : List (String × List Char)} {item : String × List Char}
    (values : List.Forall₂ Admits members own)
    (listed : item ∈ own)
    : ∃ member ∈ members, Admits member item := by
  induction values with
  | nil => cases listed
  | cons hitem others ih =>
      rcases List.mem_cons.1 listed with rfl | behind
      · exact ⟨_, List.mem_cons_self, hitem⟩
      · obtain ⟨member, found, hmember⟩ := ih behind
        exact ⟨member, List.mem_cons_of_mem _ found, hmember⟩

/-- An object that is written with members for some of the fields is taken as the record in which
just these are filled, if no required field is left out.
-/
theorem ObjectWith.takes (object : ObjectWith (shape.fields.map Field.name) members text)
    (stages : ∀ member ∈ members, FillsStage shape stage member)
    (once : (members.map Prod.fst).Nodup)
    (complete
      : shape.fields.find? (fun field =>
          field.required && !field.isSet (stage (members.map Prod.fst).toFinset))
        = none)
    : Takes (Reader.record shape (stage ∅)) text (stage (members.map Prod.fst).toFinset) := by
  obtain @⟨own, foreign, written, _, values, unknown, arranged, layout⟩ := object
  have hnames : (ownNames shape written).Perm (members.map Prod.fst) := by
    have hforeign : ownNames shape foreign = [] := by
      simp only [ownNames, List.filter_eq_nil_iff, List.forall_mem_map]
      intro item listed
      simpa using (unknown item listed).1
    have hperm := (arranged.map Prod.fst).filter (· ∈ shape.fields.map Field.name)
    rw [List.map_append, List.filter_append] at hperm
    rw [← ownNames_of_values values stages, ← List.append_nil (ownNames shape own), ← hforeign]
    exact hperm
  have items
      : ∀ item ∈ written,
          (∃ member ∈ members, Admits member item)
          ∨ item.1 ∉ shape.fields.map Field.name ∧ WellFormed item.2 := by
    intro item listed
    rcases List.mem_append.1 (arranged.mem_iff.1 listed) with isOwn | isForeign
    · exact .inl (exists_member_of_values values isOwn)
    · exact .inr (unknown item isForeign)
  have hfills := steps_fills stages items ∅ (hnames.nodup_iff.2 once)
    (fun _ _ => Finset.notMem_empty _)
  rw [Finset.empty_union, List.toFinset_eq_of_perm _ _ hnames] at hfills
  exact takes_record layout hfills complete

/-- An object of which some members are left out is taken as the record in which just the others
are filled, if no required field is left out.
-/
theorem WritesPart.takes {value : Json} {omitted : Finset String}
    {Text : String → Json → List Char → Prop} (written : WritesPart value omitted Text text)
    (named : value.memberList.map Prod.fst = shape.fields.map Field.name)
    (once : (shape.fields.map Field.name).Nodup)
    (stages
      : ∀ member ∈ value.memberList,
          FillsStage shape stage (member.1, Text member.1 member.2))
    (complete
      : shape.fields.find? (fun field =>
          field.required
          && !field.isSet (stage ((shape.fields.map Field.name).toFinset \ omitted)))
        = none)
    : Takes (Reader.record shape (stage ∅)) text
        (stage ((shape.fields.map Field.name).toFinset \ omitted)) := by
  have hnames
      : ((value.memberList.filter (·.1 ∉ omitted)).map fun member =>
            (member.1, Text member.1 member.2)).map Prod.fst
        = (shape.fields.map Field.name).filter (· ∉ omitted) := by
    rw [← named, List.map_map, List.filter_map]
    rfl
  have hkept
      : ((shape.fields.map Field.name).filter (· ∉ omitted)).toFinset
        = (shape.fields.map Field.name).toFinset \ omitted := by
    ext name
    simp
  have hstages
      : ∀ member ∈ (value.memberList.filter (·.1 ∉ omitted)).map fun member =>
            (member.1, Text member.1 member.2),
          FillsStage shape stage member := by
    intro member listed
    obtain ⟨member, kept, rfl⟩ := List.mem_map.1 listed
    exact stages member (List.mem_of_mem_filter kept)
  rw [WritesPart, named] at written
  rw [← hkept, ← hnames] at complete ⊢
  exact written.takes hstages (hnames ▸ once.filter _) complete

end Lexical.Json
