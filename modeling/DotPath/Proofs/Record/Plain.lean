import DotPath.Proofs.Record.Row
import DotPath.Proofs.Record.Target

/-!
This module contains what extraction does to the cells of a row that no path is bound to. A row is filled in
place, so it keeps them, however the extraction ends. Slots are filled by fresh rows, so a slot has in them
what it has got from its schema, whatever it held before, unless the extraction fails.
-/

namespace DotPath

/-- What the target is like afterwards, whether the update fails or not. -/
def Update.leaves {T : Type} (update : Update T) (target : T) : T :=
  match update target with
  | .ok _ left => left
  | .error _ left => left

theorem Update.leaves_of_eq_ok {T : Type} {update : Update T} {target left : T}
    (h : update target = .ok () left) : update.leaves target = left := by
  rw [leaves, h]

namespace Row

variable {schema : Schema} {name : String}

/-- No path is bound to a column of this name. -/
def Unbound (schema : Schema) (name : String) : Prop :=
  name ∉ (Record.fields (Row schema)).map Field.name

/-- The two lists of rows have the same in their cells of this name, row by row. -/
def SameCells (name : String) (rows others : List (Row schema)) : Prop :=
  rows.map (·.cell? name) = others.map (·.cell? name)

/-- The step of an extraction: to set a column touches no cell of another name. -/
theorem cell?_leaves_set {other : String} (hother : other ≠ name) (scalar : Scalar)
    (row : Row schema) :
    ((Record.set other scalar : Update (Row schema)).leaves row).cell? name = row.cell? name := by
  show (Update.leaves (Row.set other scalar) row).cell? name = row.cell? name
  unfold Update.leaves Row.set
  cases schema.columns.find? fun column => column.name = other && column.settable with
  | none => rfl
  | some column =>
    dsimp only
    cases column.initial.storage? with
    | none => rfl
    | some kind =>
      dsimp only
      cases scalar.convert kind other with
      | error failure => rfl
      | ok converted =>
        have hput := row.cell?_put other name (.scalar converted)
        rw [if_neg hother] at hput
        exact hput

theorem cell?_leaves_setAll {assignments : List (String × Scalar)}
    (h : name ∉ assignments.map Prod.fst) (row : Row schema) :
    ((Record.setAll assignments : Update (Row schema)).leaves row).cell? name = row.cell? name := by
  induction assignments generalizing row with
  | nil => rfl
  | cons assignment rest ih =>
    rcases assignment with ⟨other, scalar⟩
    rw [List.map_cons, List.mem_cons, not_or] at h
    have hset := cell?_leaves_set (Ne.symm h.1) scalar row
    unfold Update.leaves at hset ⊢
    rw [Record.setAll]
    cases hfirst : Record.set other scalar row with
    | ok _ next =>
      rw [hfirst] at hset
      rw [← hset]
      exact ih h.2 next
    | error failure left =>
      rw [hfirst] at hset
      exact hset

theorem cell?_leaves_populate (h : Unbound schema name) (value : Json) (row : Row schema) :
    ((Record.populate value : Update (Row schema)).leaves row).cell? name = row.cell? name := by
  cases hresolved : Field.resolveAll (Record.fields (Row schema)) value with
  | error failure =>
    unfold Update.leaves
    rw [Record.populate, hresolved]
  | ok assignments =>
    have hnames : name ∉ assignments.map Prod.fst := by
      -- Only fields are assigned to, and none of them has this name.
      intro hassigned
      rcases List.mem_map.mp hassigned with ⟨⟨_, scalar⟩, hassignment, rfl⟩
      rw [(Field.resolveAll_eq_ok_iff.mp hresolved).2] at hassignment
      rcases List.mem_filterMap.mp hassignment with ⟨field, hfield, hassignment⟩
      have hname := (Field.resolve_of_assignment? hassignment).1
      exact h (List.mem_map.mpr ⟨field, hfield, hname⟩)
    have hset := cell?_leaves_setAll hnames row
    unfold Update.leaves at hset ⊢
    rw [Record.populate, hresolved]
    exact hset

theorem cell?_of_build (h : Unbound schema name) {value : Json} {built : Row schema}
    (hbuild : Record.build value = .ok built) : built.cell? name = (initial schema).cell? name := by
  rw [Record.build_eq_ok_iff, Record.extractAlone_eq] at hbuild
  rw [← Update.leaves_of_eq_ok hbuild]
  exact cell?_leaves_populate h value (initial schema)

theorem map_cell?_of_mapM_build (h : Unbound schema name) {values : List Json}
    {built : List (Row schema)} (hbuild : values.mapM Record.build = .ok built) :
    built.map (·.cell? name) = List.replicate values.length ((initial schema).cell? name) := by
  rw [mapM_eq_ok_iff] at hbuild
  induction hbuild with
  | nil => rfl
  | cons hrow _ ih =>
    rw [List.map_cons, ih, cell?_of_build h hrow]
    rfl

theorem extract_slots_cases (h : Unbound schema name) (pipeline : Pipeline)
    (slots : Slots (Row schema)) :
    (∃ failure, pipeline.extract slots = .error failure slots)
      ∨ ∃ filled, pipeline.extract slots = .ok () filled
        ∧ filled.records.map (·.cell? name)
          = List.replicate slots.records.length ((initial schema).cell? name) := by
  rcases pipeline with ⟨stopped | selection⟩
  · exact .inl ⟨stopped, rfl⟩
  · by_cases hlength : slots.records.length = selection.values.length
    · rw [Pipeline.extract_slots hlength]
      cases hbuild : selection.values.mapM (Record.build (R := Row schema)) with
      | error failure => exact .inl ⟨failure, rfl⟩
      | ok built =>
        refine .inr ⟨⟨built⟩, rfl, ?_⟩
        rw [hlength]
        exact map_cell?_of_mapM_build h hbuild
    · exact .inl ⟨_, Pipeline.extract_slots_of_length_ne hlength⟩

theorem cell?_leaves_extract (h : Unbound schema name) (pipeline : Pipeline) (row : Row schema) :
    ((pipeline.extract : Update (Row schema)).leaves row).cell? name = row.cell? name := by
  rcases pipeline with ⟨stopped | selection⟩
  · rfl
  · have hstate : (Pipeline.mk (.ok selection)).state = .ok selection := rfl
    unfold Update.leaves
    rw [Pipeline.extract_of_state_ok hstate]
    cases hvalues : selection.values with
    | nil => rw [Pipeline.fill_of_values_eq_nil hvalues]
    | cons value rest =>
      cases rest with
      | nil =>
        rw [Pipeline.fill_of_values_eq_singleton hvalues]
        exact cell?_leaves_populate h value row
      | cons second rest =>
        have hlength : 2 ≤ selection.values.length := by simp [hvalues]
        rw [Pipeline.fill_of_two_le_length hlength]

/--
A row keeps the cells that no path is bound to, whether extraction into it succeeds or not. Slots keep them
if extraction fails. If it succeeds, every slot has the initial cells of its schema there, so the slots keep
them only if they had the initial ones before.
-/
theorem extract_unbound_cells (h : Unbound schema name) (pipeline : Pipeline) :
    (∀ row : Row schema,
      ((pipeline.extract : Update (Row schema)).leaves row).cell? name = row.cell? name)
      ∧ ∀ slots : Slots (Row schema),
        (∀ failure left, pipeline.extract slots = .error failure left → left = slots)
          ∧ ∀ filled, pipeline.extract slots = .ok () filled →
            filled.records.length = slots.records.length
              ∧ (∀ row ∈ filled.records, row.cell? name = (initial schema).cell? name)
              ∧ (SameCells name slots.records filled.records
                ↔ ∀ row ∈ slots.records, row.cell? name = (initial schema).cell? name) := by
  refine ⟨cell?_leaves_extract h pipeline, ?_⟩
  intro slots
  rcases extract_slots_cases h pipeline slots with ⟨failure, hfails⟩ | ⟨filled, hfills, hcells⟩
  · rw [hfails]
    constructor
    · rintro _ _ ⟨⟩
      rfl
    · rintro _ ⟨⟩
  · rw [hfills]
    constructor
    · rintro _ _ ⟨⟩
    · rintro _ ⟨⟩
      have hlength : filled.records.length = slots.records.length := by
        simpa using congrArg List.length hcells
      refine ⟨hlength, ?_, ?_⟩
      · intro row hrow
        have hcell := List.mem_map_of_mem (f := (·.cell? name)) hrow
        rw [hcells] at hcell
        exact List.eq_of_mem_replicate hcell
      · rw [SameCells, hcells, List.eq_replicate_iff, List.length_map, List.forall_mem_map]
        exact and_iff_right rfl

/-- The name is extracted, and the note of the row is kept. -/
theorem extract_unbound_cells_of_kept_note :
    let schema := Schema.mk [.bound "name" "name" (.string ""), .plain "note" (.scalar (.string ""))]
    let root := Json.object [("name", .string "Alice")]
    let row : Row schema := ⟨[("name", .scalar (.string "")), ("note", .scalar (.string "kept"))]⟩
    Unbound schema "note"
      ∧ (((Pipeline.ofRoot root).extract : Update (Row schema)).leaves row).cell? "note"
        = some (.scalar (.string "kept")) := by
  intro schema root row
  have hunbound : Unbound schema "note" := by
    unfold Unbound
    decide
  exact ⟨hunbound, (extract_unbound_cells hunbound (.ofRoot root)).1 row⟩

/-- The slot has held the note "kept", and it is filled by a row whose note is the initial one. -/
theorem extract_resets_note_of_slot :
    let schema := Schema.mk [.bound "name" "name" (.string ""), .plain "note" (.scalar (.string ""))]
    let root := Json.object [("name", .string "Alice")]
    let row : Row schema := ⟨[("name", .scalar (.string "")), ("note", .scalar (.string "kept"))]⟩
    let filled : Row schema := ⟨[("name", .scalar (.string "Alice")), ("note", .scalar (.string ""))]⟩
    Unbound schema "note"
      ∧ (Pipeline.ofRoot root).extract (Slots.mk [row]) = .ok () ⟨[filled]⟩
      ∧ filled.cell? "note" ≠ row.cell? "note" := by
  intro schema root row filled
  refine ⟨by unfold Unbound; decide, ?_, ?_⟩
  · have hresolved : Field.resolveAll (Record.fields (Row schema)) root
        = .ok [("name", .string "Alice")] := by
      decide +kernel
    have hbuild : Record.build root = .ok filled := by
      rw [Record.build, Record.populate, hresolved]
      rfl
    have hextract : (Pipeline.ofRoot root).extract (Slots.mk [row]) = _ := Pipeline.extract_slots rfl
    rw [hextract]
    have hmap : (Selection.ofRoot root).values.mapM Record.build = .ok [filled] := by
      rw [mapM_eq_ok_iff]
      exact .cons hbuild .nil
    rw [hmap]
  · intro hcell
    have hnote : some (Cell.scalar (.string "")) = some (.scalar (.string "kept")) := hcell
    simp at hnote

end Row

end DotPath
