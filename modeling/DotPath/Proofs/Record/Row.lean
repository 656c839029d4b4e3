import DotPath.Proofs.Record.Population
import Mathlib.Data.List.Nodup

/-!
This module contains what extraction does to the rows of a declared schema, one whose columns have
distinct names and whose bound columns hold what is read for them. There a field that is resolved can
always be set, and to set a field touches no other cell. So extraction is one update of all fields at
once, or it fails with the first field that cannot be resolved and does nothing.
-/

namespace DotPath

/-- What declaring a schema by its columns guarantees. -/
structure Schema.Declared (schema : Schema) : Prop where
  names : (schema.columns.map Column.name).Nodup
  -- A bound column can be set, and it holds scalars of the kind that is read for it.
  storage : ∀ column ∈ schema.columns, ∀ binding ∈ column.binding, binding.settable = true
    ∧ ∃ kind, binding.kind = .scalar kind ∧ column.initial.storage? = some kind

theorem Schema.declared_of_columns {columns : List Column} (names : (columns.map Column.name).Nodup)
    (h : ∀ column ∈ columns, (∃ name path initial, column = .bound name path initial)
      ∨ ∃ name initial, column = .plain name initial) : (Schema.mk columns).Declared := by
  refine ⟨names, ?_⟩
  intro column hcolumn binding hbinding
  rcases h column hcolumn with ⟨name, path, initial, rfl⟩ | ⟨name, initial, rfl⟩
  · cases hbinding
    exact ⟨rfl, initial.kind, rfl, rfl⟩
  · cases hbinding

theorem map_filterMap_sublist {α β γ : Type} {pick : α → Option β} {before : α → γ} {after : β → γ}
    (h : ∀ a b, pick a = some b → after b = before a) (as : List α) :
    ((as.filterMap pick).map after).Sublist (as.map before) := by
  induction as with
  | nil => exact List.Sublist.refl []
  | cons a as ih =>
    cases hpick : pick a with
    | none =>
      simp only [List.filterMap_cons, hpick, List.map_cons]
      exact ih.cons (before a)
    | some b =>
      simp only [List.filterMap_cons, hpick, List.map_cons, h a b hpick]
      exact ih.cons_cons (before a)

namespace Row

variable {schema : Schema} {field : Field} {scalar : Scalar}

def put (row : Row schema) (name : String) (cell : Cell) : Row schema :=
  ⟨Keyed.put name cell row.cells⟩

theorem cell?_put (row : Row schema) (name other : String) (cell : Cell) :
    (row.put name cell).cell? other = if name = other then some cell else row.cell? other := by
  apply Keyed.find?_put

theorem find?_column (h : schema.Declared) {column : Column} (hcolumn : column ∈ schema.columns)
    (hsettable : column.settable = true) :
    (schema.columns.find? fun other => other.name = column.name && other.settable)
      = some column := by
  cases hfind : schema.columns.find? fun other => other.name = column.name && other.settable with
  | none =>
    rw [List.find?_eq_none] at hfind
    simpa [hsettable] using hfind column hcolumn
  | some other =>
    have hname := List.find?_some hfind
    simp only [Bool.and_eq_true, decide_eq_true_eq] at hname
    rw [List.inj_on_of_nodup_map h.names (List.mem_of_find?_eq_some hfind) hcolumn hname.1]

/-- The step of an extraction: a scalar of the field's kind goes into the field's cell, as it is. -/
theorem set_of_mem_fields (h : schema.Declared) (hfield : field ∈ Record.fields (Row schema))
    (hkind : field.kind = .scalar scalar.kind) (row : Row schema) :
    Record.set field.name scalar row = .ok () (row.put field.name (.scalar scalar)) := by
  rcases List.mem_filterMap.mp hfield with ⟨column, hcolumn, hbound⟩
  rcases Option.map_eq_some_iff.mp hbound with ⟨binding, hbinding, rfl⟩
  rcases h.storage column hcolumn binding hbinding with ⟨hsettable, kind, hread, hstorage⟩
  have hcolumnSettable : column.settable = true := by
    rw [Column.settable, hbinding]
    exact hsettable
  have hscalar : kind = scalar.kind := by
    rw [hread] at hkind
    cases hkind
    rfl
  show set column.name scalar row = _
  rw [set, find?_column h hcolumn hcolumnSettable]
  simp only [hstorage, hscalar, Scalar.convert_kind]
  rfl

theorem setAll_of_nodup {assignments : List (String × Scalar)}
    (hset : ∀ name scalar, (name, scalar) ∈ assignments → ∀ row : Row schema,
      Record.set name scalar row = .ok () (row.put name (.scalar scalar)))
    (hnames : (assignments.map Prod.fst).Nodup) (row : Row schema) :
    ∃ filled, Record.setAll assignments row = .ok () filled
      ∧ (∀ name scalar, (name, scalar) ∈ assignments → filled.cell? name = some (.scalar scalar))
      ∧ ∀ name, name ∉ assignments.map Prod.fst → filled.cell? name = row.cell? name := by
  induction assignments generalizing row with
  | nil => exact ⟨row, rfl, by simp, fun _ _ => rfl⟩
  | cons assignment rest ih =>
    rcases assignment with ⟨name, scalar⟩
    rw [List.map_cons, List.nodup_cons] at hnames
    have hrest := fun other scalar hmem => hset other scalar (List.mem_cons_of_mem _ hmem)
    rcases ih hrest hnames.2 (row.put name (.scalar scalar)) with ⟨filled, hfilled, hmem, hother⟩
    refine ⟨filled, ?_, ?_, ?_⟩
    · rw [Record.setAll, hset name scalar List.mem_cons_self row]
      exact hfilled
    · intro other scalar' h
      rcases List.mem_cons.mp h with heq | h
      · cases heq
        -- The later assignments have other names, so they leave the first one as it is.
        rw [hother name hnames.1, cell?_put, if_pos rfl]
      · exact hmem other scalar' h
    · intro other h
      rw [List.map_cons, List.mem_cons, not_or] at h
      rw [hother other h.2, cell?_put, if_neg (Ne.symm h.1)]

/--
Every field at once has what it resolves to, as it is. Where that is nothing, and in all other cells,
nothing changes.
-/
structure Updated (value : Json) (row filled : Row schema) : Prop where
  resolved : ∀ field ∈ Record.fields (Row schema), ∀ scalar,
    field.resolve value = .ok (some scalar) →
      field.kind = .scalar scalar.kind ∧ filled.cell? field.name = some (.scalar scalar)
  absent : ∀ field ∈ Record.fields (Row schema), field.resolve value = .ok none →
    filled.cell? field.name = row.cell? field.name
  unbound : ∀ name, name ∉ (Record.fields (Row schema)).map Field.name →
    filled.cell? name = row.cell? name

theorem nodup_names_fields (h : schema.Declared) :
    ((Record.fields (Row schema)).map Field.name).Nodup := by
  refine List.Nodup.sublist (map_filterMap_sublist ?_ schema.columns) h.names
  intro column field hfield
  rcases Option.map_eq_some_iff.mp hfield with ⟨_, _, rfl⟩
  rfl

theorem populate_of_resolved (h : schema.Declared) {value : Json} (row : Row schema)
    (hresolved : ∀ field ∈ Record.fields (Row schema), ∃ found, field.resolve value = .ok found) :
    ∃ filled, Record.populate value row = .ok () filled ∧ row.Updated value filled := by
  let assignments := (Record.fields (Row schema)).filterMap (Field.assignment? · value)
  have hassignments : Field.resolveAll (Record.fields (Row schema)) value = .ok assignments :=
    Field.resolveAll_eq_ok_iff.mpr ⟨hresolved, rfl⟩
  have hmem : ∀ name scalar, (name, scalar) ∈ assignments →
      ∃ field ∈ Record.fields (Row schema), field.name = name
        ∧ field.resolve value = .ok (some scalar) := by
    intro name scalar hmem
    rcases List.mem_filterMap.mp hmem with ⟨field, hfield, hassignment⟩
    exact ⟨field, hfield, Field.resolve_of_assignment? hassignment⟩
  have hnames : (assignments.map Prod.fst).Nodup := by
    refine List.Nodup.sublist (map_filterMap_sublist ?_ _) (nodup_names_fields h)
    intro field assignment hassignment
    rw [(Field.resolve_of_assignment? hassignment).1]
  have hset : ∀ name scalar, (name, scalar) ∈ assignments → ∀ row : Row schema,
      Record.set name scalar row = .ok () (row.put name (.scalar scalar)) := by
    intro name scalar hassignment
    rcases hmem name scalar hassignment with ⟨field, hfield, rfl, hscalar⟩
    exact set_of_mem_fields h hfield (Field.kind_of_resolve hscalar)
  rcases setAll_of_nodup hset hnames row with ⟨filled, hfilled, hassigned, hother⟩
  refine ⟨filled, ?_, ?_, ?_, ?_⟩
  · rw [Record.populate, hassignments]
    exact hfilled
  · intro field hfield scalar hscalar
    refine ⟨Field.kind_of_resolve hscalar, ?_⟩
    apply hassigned
    exact List.mem_filterMap.mpr ⟨field, hfield, Field.assignment?_of_resolve_some hscalar⟩
  · intro field hfield hnone
    apply hother
    intro hname
    rcases List.mem_map.mp hname with ⟨⟨name, scalar⟩, hassignment, rfl⟩
    rcases hmem _ _ hassignment with ⟨other, hotherField, hotherName, hscalar⟩
    have heq := List.inj_on_of_nodup_map (nodup_names_fields h) hotherField hfield hotherName
    rw [heq, hnone] at hscalar
    cases hscalar
  · intro name hname
    apply hother
    intro hassigned
    rcases List.mem_map.mp hassigned with ⟨⟨_, scalar⟩, hassignment, rfl⟩
    rcases hmem _ _ hassignment with ⟨field, hfield, hfieldName, -⟩
    exact hname (List.mem_map.mpr ⟨field, hfield, hfieldName⟩)

/-- What a field resolves to is in its cell after extraction, as it is. -/
theorem exists_extract_of_resolve (h : schema.Declared) {root : Json} (row : Row schema)
    (hresolved : ∀ field ∈ Record.fields (Row schema), ∃ found, field.resolve root = .ok found)
    (hfield : field ∈ Record.fields (Row schema)) (hscalar : field.resolve root = .ok (some scalar)) :
    ∃ filled, (Pipeline.ofRoot root).extract row = .ok () filled
      ∧ filled.cell? field.name = some (.scalar scalar) := by
  rcases populate_of_resolved h row hresolved with ⟨filled, hfilled, hupdated⟩
  refine ⟨filled, ?_, (hupdated.resolved field hfield scalar hscalar).2⟩
  exact (Pipeline.fill_of_values_eq_singleton rfl row).trans hfilled

/--
Extraction into a row of a declared schema is one update of all its fields: it succeeds if every field
can be resolved, and it fails with the first one that cannot, or for want of exactly one value, and
leaves the row as it was. No field that resolves is ever refused by the row.
-/
theorem extract_eq_update (h : schema.Declared) (selection : Selection) (row : Row schema) :
    let fields := Record.fields (Row schema)
    let extracted := (Pipeline.mk (.ok selection)).extract row
    (selection.values = [] → extracted = .error .emptySelection row)
      ∧ (2 ≤ selection.values.length →
        extracted = .error (.multipleResults selection.describe selection.values.length) row)
      ∧ ∀ value, selection.values = [value] →
        ((∃ filled, extracted = .ok () filled)
            ↔ ∀ field ∈ fields, ∃ found, field.resolve value = .ok found)
          ∧ (∀ filled, extracted = .ok () filled → row.Updated value filled)
          ∧ (∀ field ∈ fields, field.resolve value = .ok none ↔ field.Absent value)
          ∧ (∀ field ∈ fields, ∀ scalar, field.resolve value = .ok (some scalar) →
            ∀ reached : Row schema, ∃ next, Record.set field.name scalar reached = .ok () next)
          ∧ ∀ failure, FirstError (Field.resolve · value) fields failure →
            extracted = .error failure row := by
  intro fields extracted
  have hextracted : extracted = Target.fill selection row := Pipeline.extract_of_state_ok rfl row
  rw [hextracted]
  refine ⟨?_, ?_, ?_⟩
  · intro hvalues
    exact Pipeline.fill_of_values_eq_nil hvalues row
  · intro hvalues
    exact Pipeline.fill_of_two_le_length hvalues row
  intro value hvalues
  rw [Pipeline.fill_of_values_eq_singleton hvalues]
  refine ⟨⟨?_, ?_⟩, ?_, ?_, ?_, ?_⟩
  · rintro ⟨filled, hfilled⟩
    exact Record.resolved_of_populate hfilled
  · intro hresolved
    rcases populate_of_resolved h row hresolved with ⟨filled, hfilled, -⟩
    exact ⟨filled, hfilled⟩
  · intro filled hfilled
    rcases populate_of_resolved h row (Record.resolved_of_populate hfilled)
      with ⟨filled', hfilled', hupdated⟩
    rw [hfilled] at hfilled'
    cases hfilled'
    exact hupdated
  · intro field _
    exact field.resolve_eq_ok_none_iff value
  · intro field hfield scalar hscalar reached
    exact ⟨_, set_of_mem_fields h hfield (Field.kind_of_resolve hscalar) reached⟩
  · intro failure hfirst
    exact Record.populate_eq_error_iff.mpr (.inl ⟨hfirst, rfl⟩)

/-- There is one value of each kind, but none for the age, and no path leads to the note. -/
theorem extract_eq_update_of_missing_age :
    let schema := Schema.mk [.bound "name" "name" (.string ""), .plain "note" (.scalar (.string "")),
      .bound "age" "?age" (.integer 0), .bound "level" "level" (.integer 0),
      .bound "score" "score" (.number .zero), .bound "active" "active" (.boolean false)]
    let root := Json.object [("active", .bool true), ("level", .ofInt64 3), ("name", .string "Alice"),
      ("note", .string "ignored"), ("score", .ofInt64 2)]
    let row : Row schema := ⟨[("name", .scalar (.string "")), ("note", .scalar (.string "kept")),
      ("age", .scalar (.integer 7)), ("level", .scalar (.integer 0)),
      ("score", .scalar (.number .zero)), ("active", .scalar (.boolean false))]⟩
    schema.Declared ∧ ∃ filled, (Pipeline.ofRoot root).extract row = .ok () filled
      ∧ filled.cell? "name" = some (.scalar (.string "Alice"))
      ∧ filled.cell? "note" = some (.scalar (.string "kept"))
      ∧ filled.cell? "age" = some (.scalar (.integer 7))
      ∧ filled.cell? "level" = some (.scalar (.integer 3))
      ∧ filled.cell? "score" = some (.scalar (.number ⟨false, 0x4000000000000000, by decide⟩))
      ∧ filled.cell? "active" = some (.scalar (.boolean true)) := by
  intro schema root row
  have hdeclared : schema.Declared := by
    apply Schema.declared_of_columns (by decide)
    intro column hcolumn
    simp only [List.mem_cons, List.not_mem_nil, or_false] at hcolumn
    rcases hcolumn with rfl | rfl | rfl | rfl | rfl | rfl
    · exact .inl ⟨_, _, _, rfl⟩
    · exact .inr ⟨_, _, rfl⟩
    · exact .inl ⟨_, _, _, rfl⟩
    · exact .inl ⟨_, _, _, rfl⟩
    · exact .inl ⟨_, _, _, rfl⟩
    · exact .inl ⟨_, _, _, rfl⟩
  have hname : Field.resolve ⟨"name", "name", .scalar .string⟩ root = .ok (some (.string "Alice")) := by
    decide +kernel
  have hage : Field.resolve ⟨"age", "?age", .scalar .integer⟩ root = .ok none := by
    decide +kernel
  have hlevel : Field.resolve ⟨"level", "level", .scalar .integer⟩ root = .ok (some (.integer 3)) := by
    decide +kernel
  have hscore : Field.resolve ⟨"score", "score", .scalar .number⟩ root
      = .ok (some (.number ⟨false, 0x4000000000000000, by decide⟩)) := by
    decide +kernel
  have hactive : Field.resolve ⟨"active", "active", .scalar .boolean⟩ root
      = .ok (some (.boolean true)) := by
    decide +kernel
  have hfields : Record.fields (Row schema)
      = [⟨"name", "name", .scalar .string⟩, ⟨"age", "?age", .scalar .integer⟩,
        ⟨"level", "level", .scalar .integer⟩, ⟨"score", "score", .scalar .number⟩,
        ⟨"active", "active", .scalar .boolean⟩] := rfl
  rcases (extract_eq_update hdeclared (.ofRoot root) row).2.2 root rfl
    with ⟨hsucceeds, hupdated, -⟩
  have hresolved : ∀ field ∈ Record.fields (Row schema), ∃ found, field.resolve root = .ok found := by
    rw [hfields]
    simp only [List.forall_mem_cons]
    exact ⟨⟨_, hname⟩, ⟨_, hage⟩, ⟨_, hlevel⟩, ⟨_, hscore⟩, ⟨_, hactive⟩, by simp⟩
  rcases hsucceeds.mpr hresolved with ⟨filled, hfilled⟩
  have hrow := hupdated filled hfilled
  refine ⟨hdeclared, filled, hfilled, ?_, ?_, ?_, ?_, ?_, ?_⟩
  · exact (hrow.resolved _ (by rw [hfields]; decide) _ hname).2
  · exact hrow.unbound "note" (by rw [hfields]; decide)
  · exact hrow.absent _ (by rw [hfields]; decide) hage
  · exact (hrow.resolved _ (by rw [hfields]; decide) _ hlevel).2
  · exact (hrow.resolved _ (by rw [hfields]; decide) _ hscore).2
  · exact (hrow.resolved _ (by rw [hfields]; decide) _ hactive).2

end Row

end DotPath
