import ProtoCrud.Proofs.Handler.RowLayout

/-!
# Locals with the name of the cursor

The cursor of a row has one of two names, and gets the second one if a field has the first. Fields
are compared by their names as they are declared, while the locals have these names in snake case,
and no field is compared with the second name. So a field may still be read into a local that hides
the cursor. The texts of enums and the audit columns are held in locals of other names.
-/

namespace ProtoCrud.Handler

open Schema
open Text (snakeCase)

/-- No local hides the cursor, and so every read takes its column from the row. -/
structure KeepsCursor (reading : RowReading) : Prop where
  target_ne_cursor : ∀ read ∈ reading.reads, read.target ≠ reading.cursor
  taken_eq_reads : reading.taken = reading.reads

/-- A field hides the cursor in neither of the two ways in which its local can have the name. -/
structure SparesCursor (entity : Entity) (field : Field) : Prop where
  /-- It is spelt as the usual name only if this is its name. -/
  usual : snakeCase field.name = "columns" → field.name = "columns"
  /-- It is spelt as the second name only if no field has the usual one. -/
  second : snakeCase field.name = "row_columns" → ∀ other ∈ entity.fields, other.name ≠ "columns"

variable {entity : Entity}

theorem cursorName_of_mem {field : Field} (hfield : field ∈ entity.fields)
    (hname : field.name = "columns") : cursorName entity = "row_columns" :=
  if_pos (List.any_eq_true.mpr ⟨field, hfield, decide_eq_true hname⟩)

theorem cursorName_of_forall_ne (h : ∀ field ∈ entity.fields, field.name ≠ "columns") :
    cursorName entity = "columns" :=
  if_neg fun hany ↦ by
    obtain ⟨field, hfield, hname⟩ := List.any_eq_true.mp hany
    exact h field hfield (of_decide_eq_true hname)

theorem keepsCursor_iff_forall_ne :
    KeepsCursor (rowReading entity) ↔
      ∀ field ∈ storedFields entity, entity.codecOf? field = none →
        snakeCase field.name ≠ cursorName entity := by
  rw [← forall_target_ne_iff]
  exact ⟨fun h ↦ h.target_ne_cursor, fun h ↦ ⟨h, (taken_eq_reads_iff_forall_ne entity).mpr h⟩⟩

/-- A field without a codec is spelt as the cursor in one of two ways. -/
theorem ne_cursorName_iff (hdistinct : (entity.fields.map fun field ↦ snakeCase field.name).Nodup)
    {field : Field} (hfield : field ∈ entity.fields) :
    snakeCase field.name ≠ cursorName entity ↔ SparesCursor entity field := by
  by_cases husual : ∃ other ∈ entity.fields, other.name = "columns"
  · obtain ⟨other, hother, hname⟩ := husual
    rw [cursorName_of_mem hother hname]
    -- Both fields would have one name in snake case.
    have hsame (hspelt : snakeCase field.name = "columns") : field = other := by
      have hcolumns : snakeCase "columns" = "columns" := by decide +kernel
      refine List.inj_on_of_nodup_map hdistinct hfield hother ?_
      rw [hspelt, hname, hcolumns]
    exact
      ⟨fun hne ↦ ⟨fun hspelt ↦ hsame hspelt ▸ hname, fun hspelt ↦ absurd hspelt hne⟩,
        fun hspares hspelt ↦ hspares.second hspelt other hother hname⟩
  · have hnone : ∀ other ∈ entity.fields, other.name ≠ "columns" :=
      fun other hother hname ↦ husual ⟨other, hother, hname⟩
    rw [cursorName_of_forall_ne hnone]
    exact
      ⟨fun hne ↦ ⟨fun hspelt ↦ absurd hspelt hne, fun _ ↦ hnone⟩,
        fun hspares hspelt ↦ hnone field hfield (hspares.usual hspelt)⟩

/--
In the code that reads a row, no local has the name of the cursor, and every read reaches the row,
if and only if each stored field without a codec spares the cursor: if it is `columns` in snake
case, it is `columns` as it stands, and if it is `row_columns` in snake case, no field is `columns`.
The reading is the one that the code of the entity spells out. The names of the fields are distinct
in snake case.
-/
theorem keepsCursor_rowReading_iff
    (hdistinct : (entity.fields.map fun field ↦ snakeCase field.name).Nodup) :
    (KeepsCursor (rowReading entity) ↔
      ∀ field ∈ storedFields entity, entity.codecOf? field = none →
        SparesCursor entity field) ∧
      ∀ options text, Generate.entityCode options entity = .ok text →
        ∃ file : Generate.EntityText, file.IsReadFrom text ∧
          file.record.reading = .ofReading (rowReading entity) := by
  refine ⟨?_, fun options text htext ↦ ?_⟩
  · rw [keepsCursor_iff_forall_ne]
    exact forall₂_congr fun field hfield ↦ imp_congr_right fun _ ↦
      ne_cursorName_iff hdistinct (List.mem_of_mem_filter hfield)
  · obtain ⟨file, hfile, hread⟩ := Generate.exists_entityText htext
    exact ⟨file, hread, by rw [hfile.record_eq]; rfl⟩

/-- A sheet keeps its cursor although a field is called as the cursor usually is. -/
theorem keepsCursor_sheetWithColumns :
    ∃ schema entity, resolve [sheetFile "columns"] ["sheets.proto"] = .ok schema ∧
      entity ∈ schema.entities ∧ (entity.fields.map fun field ↦ snakeCase field.name).Nodup ∧
      KeepsCursor (rowReading entity) := by
  obtain ⟨schema, entity, -, hschema, hentity, hfields, -⟩ :=
    exists_sheet "columns" rfl (by decide +kernel) (by decide +kernel)
  have hdistinct : (entity.fields.map fun field ↦ snakeCase field.name).Nodup := by
    rw [hfields]
    exact List.nodup_singleton _
  refine ⟨schema, entity, hschema, hentity, hdistinct,
    (keepsCursor_rowReading_iff hdistinct).1.mpr fun field hfield _ ↦ ?_⟩
  have hmem := List.mem_of_mem_filter hfield
  rw [hfields, List.mem_singleton] at hmem
  subst hmem
  exact ⟨fun _ ↦ rfl, fun hspelt ↦ absurd hspelt (by decide +kernel)⟩

def gridFile : Descriptor.File where
  name := "grids.proto"
  package := "shop"
  messages :=
    [.mk "Grid"
        [plainField "id" .string "", plainField "columns" .int32 "",
          plainField "row_columns" .int32 ""] [] [],
      .mk "GetGridRequest" [plainField "id" .string ""] [] []]
  enums := []
  services :=
    [⟨"Grids", [⟨"GetGrid", ".shop.GetGridRequest", ".shop.Grid", false, false⟩]⟩]

/-- The numbers of a grid are read into locals of which one hides the cursor. -/
theorem not_forall_target_ne_cursor :
    ¬ ∀ (files : List Descriptor.File) (requested : List String) (schema : Resolution),
      resolve files requested = .ok schema → ∀ entity ∈ schema.entities,
        (entity.fields.map fun field ↦ snakeCase field.name).Nodup →
          (∀ field ∈ entity.fields, snakeCase field.name ∉ idColumn :: auditTail) →
            ∀ read ∈ (rowReading entity).reads, read.target ≠ (rowReading entity).cursor := by
  intro hall
  let usual : Field := ⟨"columns", "columns", .scalar .int32, false⟩
  let other : Field := ⟨"row_columns", "row_columns", .scalar .int32, false⟩
  obtain ⟨schema, entity, hschema, hentities, hfields⟩ :
      ∃ schema entity, resolve [gridFile] ["grids.proto"] = .ok schema ∧
        schema.entities = [entity] ∧ entity.fields = [usual, other] :=
    exists_entity (by decide +kernel)
  have hentity : entity ∈ schema.entities := by
    rw [hentities]
    exact List.mem_cons_self
  have husual : usual ∈ entity.fields := by
    rw [hfields]
    exact List.mem_cons_self
  have hother : other ∈ storedFields entity := by
    rw [storedFields, hfields]
    exact List.mem_cons_of_mem _ List.mem_cons_self
  have htarget := hall _ _ schema hschema entity hentity
    (by rw [hfields]; decide +kernel) (by rw [hfields]; decide +kernel)
  have hspelt : snakeCase other.name ≠ cursorName entity :=
    (forall_target_ne_iff entity).mp htarget other hother rfl
  rw [cursorName_of_mem husual rfl] at hspelt
  exact hspelt (by decide +kernel)

end ProtoCrud.Handler
