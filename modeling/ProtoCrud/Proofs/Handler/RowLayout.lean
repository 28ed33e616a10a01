import ProtoCrud.Proofs.Code.FieldIdentifier
import ProtoCrud.Proofs.Schema.HolderNames
import ProtoCrud.Proofs.Schema.MessageFields
import ProtoCrud.Proofs.Sql.ColumnShape

/-!
# The layout of a row

The columns of a row are listed five times: in the select list, in the shapes the store is told, in
the reads of a row, in the insertion and in the values of a create. All lists follow the stored
fields of the entity, and the record has every field of the message. One thing can go wrong: a
local that has the name of the cursor hides it, and the reads behind it do not reach the row.
-/

namespace ProtoCrud.Handler

open Code (fieldIdentifier)
open Descriptor (Message)
open Generate Schema Sql
open Text (snakeCase)

def storedFields (entity : Entity) : List Field :=
  entity.fields.filter (!·.isTimestamp)

/-- The reads that reach the row: those up to the first local with the name of the cursor. -/
def takenFrom (cursor : String) : List ColumnRead → List ColumnRead
  | [] => []
  | read :: rest => if read.target = cursor then [read] else read :: takenFrom cursor rest

def RowReading.taken (reading : RowReading) : List ColumnRead :=
  takenFrom reading.cursor reading.reads

structure IsLaidOut (entity : Entity) (message : Message) : Prop where
  /-- The stored fields are the fields of the message but audit columns and points in time. -/
  stored : (storedFields entity).map (·.name) =
    (message.fields.filter fun field ↦ !isAuditColumn field.name && !isPointInTime field).map
      (·.name)
  /-- The select list has the id, the stored fields and the audit columns. -/
  selected : listedNames (commaList entity.recordTable.selected) =
    idColumn :: (storedFields entity).map (·.name) ++ auditTail
  /-- The columns that are scanned are those of the select list. -/
  scanned : entity.classify.scanTargets.map ScanTarget.column =
    listedNames (commaList entity.recordTable.selected)
  /-- The shapes of the scanned columns are those the store is told. -/
  scanned_kind : entity.classify.scanTargets.map ScanTarget.kind = entity.recordTable.shape
  /-- The shapes are those of the fields in the order of the select list. -/
  shape : entity.recordTable.shape =
    .text :: (storedFields entity).map (·.type.columnKind) ++ auditTail.map auditKind
  /-- A row is read by one read for each column of the select list. -/
  read : (rowReading entity).reads.map ColumnRead.column =
    listedNames (commaList entity.recordTable.selected)
  /-- Each read is of a type that reads the shape of its column. -/
  read_kind : List.Forall₂ ReadsKind entity.recordTable.shape
    ((rowReading entity).reads.map ColumnRead.type)
  /-- The insertion lists the stored fields. -/
  inserted : listedNames (commaList entity.recordTable.columns) =
    (storedFields entity).map (·.name)
  /-- It has a placeholder for each of them. -/
  placeholders : listedNames (commaList (entity.recordTable.columns.map fun _ ↦ "?")) =
    (storedFields entity).map fun _ ↦ "?"
  /-- A create has a value for each of them. -/
  values : ∀ request, (createPlan entity request).values = (storedFields entity).map fun field ↦
    createValue entity field (request.field? field.name)
  /-- The record sets the fields of the message, but for points in time that are not audited. -/
  inits : ((rowReading entity).inits.map FieldInit.field).Perm
    ((message.fields.filter fun field ↦ isAuditColumn field.name || !isPointInTime field).map
      fun field ↦ fieldIdentifier field.name)
  /-- It sets no field twice. -/
  inits_nodup : ((rowReading entity).inits.map FieldInit.field).Nodup
  /-- The other fields have their defaults, if there are any. -/
  hasRest_iff : (rowReading entity).hasRest = true ↔
    ∃ field ∈ message.fields, isAuditColumn field.name = false ∧ isPointInTime field = true

/-! ## Scanned columns -/

section Targets

variable (entity : Entity) (taken : List String) (fields : List Field)

theorem map_column_fieldTargets :
    (fieldTargets entity taken fields).map ScanTarget.column = fields.map (·.column) := by
  induction fields generalizing taken with
  | nil => rfl
  | cons field rest ih =>
    rw [fieldTargets]
    split
    · rw [List.map_cons, List.map_cons, ih]
      rfl
    · rw [List.map_cons, List.map_cons, ih]
      rfl

/-- A field with a codec is an enum, which is stored as a text. -/
theorem columnKind_of_codecOf? {field : Field} {codec : String}
    (h : entity.codecOf? field = some codec) : field.type.columnKind = .text := by
  obtain ⟨name, hname, -⟩ := Option.bind_eq_some_iff.mp h
  rw [enumName?_eq_some.mp hname]
  rfl

theorem map_kind_fieldTargets :
    (fieldTargets entity taken fields).map ScanTarget.kind =
      fields.map (·.type.columnKind) := by
  induction fields generalizing taken with
  | nil => rfl
  | cons field rest ih =>
    rw [fieldTargets]
    split
    · next codec hcodec =>
      rw [List.map_cons, List.map_cons, ih, columnKind_of_codecOf? entity hcodec]
      rfl
    · rw [List.map_cons, List.map_cons, ih]
      rfl

/-- The columns that a create writes are those of the stored fields. -/
theorem columns_recordTable :
    entity.recordTable.columns = (storedFields entity).map (·.column) := by
  change ((storedFields entity).map entity.classifyField).map (·.field.column) = _
  rw [List.map_map]
  rfl

/-- The scanned columns are those of the select list. -/
theorem map_column_scanTargets :
    entity.classify.scanTargets.map ScanTarget.column = entity.recordTable.selected := by
  have haudit : (auditTail.map fun column ↦
      ScanTarget.audit column (auditKind column) (entity.audit.get column)).map
        ScanTarget.column = auditTail := by
    rw [List.map_map]
    exact List.map_id auditTail
  change idColumn :: List.map _ (fieldTargets entity _ (storedFields entity) ++ _) =
    idColumn :: entity.recordTable.columns ++ auditTail
  rw [List.map_append, haudit, map_column_fieldTargets, columns_recordTable]
  rfl

theorem shape_recordTable : entity.recordTable.shape =
    .text :: (storedFields entity).map (·.type.columnKind) ++ auditTail.map auditKind := by
  change ColumnKind.text :: List.map _ (fieldTargets entity _ (storedFields entity) ++ _) = _
  rw [List.map_append, map_kind_fieldTargets, List.map_map]
  rfl

theorem column_readTarget (target : ScanTarget) :
    (readTarget target).1.column = target.column := by
  cases target with
  | slot field => rfl
  | enumHolder field holder codec => rfl
  | audit column kind declared =>
    cases declared with
    | none => rfl
    | some optional =>
      unfold readTarget
      dsimp only
      split <;> rfl

end Targets

/-! ## Reads -/

section Reads

variable (entity : Entity)

theorem map_column_reads :
    (rowReading entity).reads.map ColumnRead.column = entity.recordTable.selected := by
  rw [← map_column_scanTargets, rowReading]
  simp only [List.map_map]
  exact List.map_congr_left fun target _ ↦ column_readTarget target

theorem ReadsKind.optionalIf {kind : ColumnKind} {type : ColumnType} (h : ReadsKind kind type)
    (optional : Bool) : ReadsKind kind (optionalIf optional type) := by
  cases optional with
  | false => exact h
  | true => exact h.optional

/-- A stored field is read as a type that reads the shape of its column. -/
theorem readsKind_readType {field : Field} (hstored : field.isTimestamp = false)
    (hcodec : (entity.codecOf? field).isSome = field.isEnum) :
    ReadsKind field.type.columnKind (readType entity field) := by
  unfold readType
  rw [hcodec]
  refine ReadsKind.optionalIf ?_ field.optional
  unfold Field.isEnum
  unfold Field.isTimestamp at hstored
  cases htype : field.type with
  | scalar scalar => exact readsKind_scalar scalar
  | enum name => exact readsKind_text
  | timestamp => simp [htype] at hstored

theorem forall₂_readsKind
    (hcodec : ∀ field ∈ entity.fields, (entity.codecOf? field).isSome = field.isEnum) :
    List.Forall₂ ReadsKind entity.recordTable.shape
      ((rowReading entity).reads.map ColumnRead.type) := by
  rw [shape_recordTable, map_type_reads]
  refine .cons readsKind_text (List.rel_append ?_ ?_)
  · change List.Forall₂ ReadsKind _ ((storedFields entity).map (readType entity))
    rw [List.forall₂_map_left_iff, List.forall₂_map_right_iff, List.forall₂_same]
    intro field hfield
    obtain ⟨hmem, hstored⟩ := List.mem_filter.mp hfield
    exact readsKind_readType entity (by simpa using hstored) (hcodec field hmem)
  · exact .cons readsKind_timestamp.optional (.cons readsKind_timestamp.optional
      (.cons readsKind_text.optional (.cons readsKind_text.optional .nil)))

/-! ## The cursor -/

theorem takenFrom_eq_self_iff {cursor : String} {reads : List ColumnRead}
    (hlast : ∀ read ∈ reads.getLast?, read.target ≠ cursor) :
    takenFrom cursor reads = reads ↔ ∀ read ∈ reads, read.target ≠ cursor := by
  induction reads with
  | nil => simp [takenFrom]
  | cons read rest ih =>
    cases rest with
    | nil => simpa [takenFrom] using hlast read rfl
    | cons next rest =>
      have hrest := ih fun last hmem ↦ hlast last (by rwa [List.getLast?_cons_cons])
      rw [takenFrom, List.forall_mem_cons, ← hrest]
      split
      · next heq => simp [heq]
      · next hne => simp [hne]

theorem target_readTarget_slot (field : Field) :
    (readTarget (.slot field)).1.target = fieldIdentifier field.name := by
  rw [readTarget]

theorem target_readTarget_enumHolder (field : Field) (holder codec : String) :
    (readTarget (.enumHolder field holder codec)).1.target = holder := by
  rw [readTarget]

/-- The locals of stored fields miss the cursor if those of the fields without a codec do. -/
theorem forall_fieldTargets_ne_iff {cursor : String} (hcursor : 't' ∉ cursor.toList)
    (taken : List String) (fields : List Field) :
    (∀ target ∈ fieldTargets entity taken fields, (readTarget target).1.target ≠ cursor) ↔
      ∀ field ∈ fields, entity.codecOf? field = none → fieldIdentifier field.name ≠ cursor := by
  induction fields generalizing taken with
  | nil => exact ⟨fun _ ↦ List.forall_mem_nil _, fun _ ↦ List.forall_mem_nil _⟩
  | cons field rest ih =>
    rw [fieldTargets]
    split
    · next codec hcodec =>
      have hholder : holderName field taken ≠ cursor := by
        intro heq
        exact hcursor (heq ▸ mem_holderName (by decide) field taken)
      rw [List.forall_mem_cons, List.forall_mem_cons, ih, target_readTarget_enumHolder]
      exact and_congr (iff_of_true hholder fun hnone ↦ by rw [hcodec] at hnone; cases hnone) .rfl
    · next hcodec =>
      rw [List.forall_mem_cons, List.forall_mem_cons, ih, target_readTarget_slot]
      exact and_congr ⟨fun h _ ↦ h, fun h ↦ h hcodec⟩ .rfl

theorem cursorName_cases : cursorName entity = "columns" ∨ cursorName entity = "row_columns" := by
  unfold cursorName
  split
  · exact .inr rfl
  · exact .inl rfl

theorem isUnescaped_cursorName : Code.IsUnescaped (cursorName entity) where
  hash_notMem := by
    rcases cursorName_cases entity with h | h <;> rw [h] <;> decide
  getLast?_ne := by
    rintro c hc rfl
    rcases cursorName_cases entity with h | h <;> rw [h] at hc <;> exact absurd hc (by decide)

/-- No local of the id or of an audit column has the name of a cursor. -/
theorem target_audit_ne {cursor : String} (hcursor : cursor = "columns" ∨ cursor = "row_columns")
    {column : String} (hcolumn : column ∈ idColumn :: auditTail) (kind : ColumnKind)
    (declared : Option Bool) : (readTarget (.audit column kind declared)).1.target ≠ cursor := by
  have hnames : ∀ column ∈ idColumn :: auditTail, ∀ cursor ∈ ["columns", "row_columns"],
      "_" ++ column ≠ cursor ∧ fieldIdentifier column ≠ cursor := by
    decide +kernel
  obtain ⟨hunused, hlocal⟩ := hnames column hcolumn cursor (by simpa using hcursor)
  cases declared with
  | none => exact hunused
  | some optional =>
    unfold readTarget
    dsimp only
    split <;> exact hlocal

def auditTargets : List ScanTarget :=
  auditTail.map fun column ↦ .audit column (auditKind column) (entity.audit.get column)

/-- The reads of a row: those of the id and the stored fields, and behind them the audit columns. -/
theorem reads_rowReading : (rowReading entity).reads =
    (.audit idColumn .text (some false) ::
        fieldTargets entity (entity.fields.map fun field ↦ snakeCase field.name)
          (storedFields entity) ++
      auditTargets entity).map fun target ↦ (readTarget target).1 :=
  List.map_map

/-- No local of an audit column has the name of the cursor. -/
theorem target_auditTargets_ne :
    ∀ target ∈ auditTargets entity, (readTarget target).1.target ≠ cursorName entity := by
  intro target htarget
  obtain ⟨column, hcolumn, rfl⟩ := List.mem_map.mp htarget
  exact target_audit_ne (cursorName_cases entity) (List.mem_cons_of_mem _ hcolumn) _ _

/-- Every read reaches the row if and only if no local hides the cursor. -/
theorem taken_eq_reads_iff_forall_ne :
    (rowReading entity).taken = (rowReading entity).reads ↔
      ∀ read ∈ (rowReading entity).reads, read.target ≠ cursorName entity := by
  refine takenFrom_eq_self_iff fun read hread ↦ ?_
  rw [reads_rowReading, List.map_append,
    List.getLast?_append_of_ne_nil _ (by simp [auditTargets, auditTail])] at hread
  obtain ⟨target, htarget, rfl⟩ := List.mem_map.mp (List.mem_of_getLast? hread)
  exact target_auditTargets_ne entity target htarget

/-- The cursor is hidden only by stored fields without a codec that are spelt as it is. -/
theorem forall_target_ne_iff :
    (∀ read ∈ (rowReading entity).reads, read.target ≠ cursorName entity) ↔
      ∀ field ∈ storedFields entity, entity.codecOf? field = none →
        snakeCase field.name ≠ cursorName entity := by
  have hcursor := cursorName_cases entity
  have hletter : 't' ∉ (cursorName entity).toList := by
    rcases hcursor with h | h <;> rw [h] <;> decide
  have hescaped : Code.escaped (cursorName entity) = cursorName entity := by
    rcases hcursor with h | h <;> rw [h] <;> decide +kernel
  have hid : (readTarget (.audit idColumn .text (some false))).1.target ≠ cursorName entity :=
    target_audit_ne hcursor List.mem_cons_self _ _
  have hidentifier (field : Field) :
      fieldIdentifier field.name = cursorName entity ↔ snakeCase field.name = cursorName entity :=
    Code.fieldIdentifier_eq_iff (isUnescaped_cursorName entity) hescaped
  rw [reads_rowReading, List.forall_mem_map, List.forall_mem_append,
    and_iff_left (target_auditTargets_ne entity), List.forall_mem_cons, and_iff_right hid,
    forall_fieldTargets_ne_iff entity hletter]
  exact forall₂_congr fun field _ ↦ imp_congr_right fun _ ↦ not_congr (hidentifier field)

/-- Every read reaches the row if no field that is no enum is spelt as the cursor. -/
theorem taken_eq_reads_iff
    (hcodec : ∀ field ∈ entity.fields, (entity.codecOf? field).isSome = field.isEnum) :
    (rowReading entity).taken = (rowReading entity).reads ↔
      ∀ field ∈ storedFields entity, field.isEnum = false →
        snakeCase field.name ≠ cursorName entity := by
  rw [taken_eq_reads_iff_forall_ne, forall_target_ne_iff]
  refine forall₂_congr fun field hfield ↦ ?_
  rw [← Option.isNone_iff_eq_none, ← Option.not_isSome,
    hcodec field (List.mem_of_mem_filter hfield), Bool.not_eq_true']

end Reads

/-! ## The record -/

section Record

/-- The field of the record that a scanned column sets. -/
def setField? (target : ScanTarget) : Option String :=
  (readTarget target).2.map FieldInit.field

/-- The names of the fields that the record sets: the id, the stored fields and declared columns. -/
def initNames (entity : Entity) : List String :=
  idColumn :: (storedFields entity).map (·.name) ++
    auditTail.filter fun column ↦ (entity.audit.get column).isSome

theorem setField?_slot (field : Field) :
    setField? (.slot field) = some (fieldIdentifier field.name) := by
  rw [setField?, readTarget, Option.map_some]

theorem setField?_enumHolder (field : Field) (holder codec : String) :
    setField? (.enumHolder field holder codec) = some (fieldIdentifier field.name) := by
  rw [setField?, readTarget, Option.map_some]

/-- A stored field is set in the record. -/
theorem filterMap_setField?_fieldTargets (entity : Entity) (taken : List String)
    (fields : List Field) :
    (fieldTargets entity taken fields).filterMap setField? =
      fields.map fun field ↦ fieldIdentifier field.name := by
  induction fields generalizing taken with
  | nil => rfl
  | cons field rest ih =>
    rw [fieldTargets]
    split
    · rw [List.filterMap_cons_some (setField?_enumHolder ..), ih, List.map_cons]
    · rw [List.filterMap_cons_some (setField?_slot ..), ih, List.map_cons]

theorem setField?_audit {column : String} (hcolumn : column ≠ idColumn) (kind : ColumnKind)
    (declared : Option Bool) :
    setField? (.audit column kind declared) = declared.map fun _ ↦ fieldIdentifier column := by
  unfold setField? readTarget
  cases declared with
  | none => rfl
  | some optional =>
    dsimp only
    rw [if_neg hcolumn]
    rfl

/-- An audit column is set in the record if the entity declares it. -/
theorem filterMap_setField?_audits (audit : AuditFields) {columns : List String}
    (hid : idColumn ∉ columns) :
    (columns.map fun column ↦
      ScanTarget.audit column (auditKind column) (audit.get column)).filterMap setField? =
        (columns.filter fun column ↦ (audit.get column).isSome).map fieldIdentifier := by
  induction columns with
  | nil => rfl
  | cons column rest ih =>
    rw [List.mem_cons, not_or] at hid
    have hset := setField?_audit (Ne.symm hid.1) (auditKind column) (audit.get column)
    rw [List.map_cons]
    cases hdeclared : audit.get column with
    | none =>
      rw [hdeclared] at hset
      rw [List.filterMap_cons_none hset, List.filter_cons_of_neg (by simp [hdeclared]), ih hid.2]
    | some optional =>
      rw [hdeclared] at hset
      rw [List.filterMap_cons_some hset, List.filter_cons_of_pos (by simp [hdeclared]),
        List.map_cons, ih hid.2]

theorem map_field_inits (entity : Entity) :
    (rowReading entity).inits.map FieldInit.field = (initNames entity).map fieldIdentifier := by
  have hscanned : (rowReading entity).inits.map FieldInit.field =
      entity.classify.scanTargets.filterMap setField? := by
    unfold rowReading
    dsimp only
    rw [List.filterMap_map, List.map_filterMap]
    rfl
  have hid : setField? (.audit idColumn .text (some false)) = some (fieldIdentifier idColumn) := rfl
  rw [hscanned]
  change List.filterMap setField? (.audit idColumn .text (some false) ::
    (fieldTargets entity _ (storedFields entity) ++ List.map _ auditTail)) = _
  rw [List.filterMap_cons_some hid, List.filterMap_append, filterMap_setField?_fieldTargets,
    filterMap_setField?_audits entity.audit (by decide)]
  unfold initNames
  rw [List.map_append, List.map_cons, List.map_map]
  rfl

/-- Fields with their descriptors have the same names and the same points in time. -/
theorem names_of_forall₂ {descriptors : List Descriptor.Field} {fields : List Field}
    (h : List.Forall₂ (fun descriptor field ↦ Field.ofDescriptor descriptor = .ok field)
      descriptors fields) :
    fields.map (fun field ↦ (field.name, field.isTimestamp)) =
      descriptors.map fun descriptor ↦ (descriptor.name, isPointInTime descriptor) := by
  induction h with
  | nil => rfl
  | cons hfield _ ih =>
    rw [List.map_cons, List.map_cons, ih, (column_ofDescriptor hfield).1,
      isTimestamp_ofDescriptor hfield]

variable {entity : Entity} {descriptors : List Descriptor.Field}

theorem map_name_storedFields (h : entity.HasFieldsOf descriptors) :
    (storedFields entity).map (·.name) =
      (descriptors.filter fun field ↦ !isAuditColumn field.name && !isPointInTime field).map
        (·.name) := by
  let own := descriptors.filter fun field ↦ !isAuditColumn field.name
  calc (storedFields entity).map (·.name)
    _ = ((entity.fields.map fun field ↦ (field.name, field.isTimestamp)).filter (!·.2)).map
        Prod.fst := by
      rw [List.filter_map, List.map_map]
      rfl
    _ = ((own.map fun field ↦ (field.name, isPointInTime field)).filter (!·.2)).map Prod.fst := by
      rw [names_of_forall₂ h.fields]
    _ = (own.filter fun field ↦ !isPointInTime field).map (·.name) := by
      rw [List.filter_map, List.map_map]
      rfl
    _ = _ := by
      rw [List.filter_filter]
      exact congrArg _ (List.filter_congr fun field _ ↦ Bool.and_comm _ _)

theorem hasRest_eq_true_iff (h : entity.HasFieldsOf descriptors) :
    (rowReading entity).hasRest = true ↔
      ∃ field ∈ descriptors, isAuditColumn field.name = false ∧ isPointInTime field = true := by
  have hskipped : (rowReading entity).hasRest = (entity.fields.map fun field ↦
      (field.name, field.isTimestamp)).any Prod.snd := by
    change (!((entity.fields.filter (·.isTimestamp)).map (·.name)).isEmpty) = _
    rw [Bool.eq_iff_iff]
    simp
  rw [hskipped, names_of_forall₂ h.fields]
  simp

/-- The audit columns of a message are the id and the declared ones. -/
theorem audits_perm (h : entity.HasFieldsOf descriptors)
    (hnodup : (descriptors.map (·.name)).Nodup) :
    ((descriptors.filter fun field ↦ isAuditColumn field.name).map (·.name)).Perm
      (idColumn :: auditTail.filter fun column ↦ (entity.audit.get column).isSome) := by
  have htail : (idColumn :: auditTail).Nodup := by decide
  rw [List.nodup_cons] at htail
  have hleft : ((descriptors.filter fun field ↦ isAuditColumn field.name).map (·.name)).Nodup :=
    hnodup.sublist (List.filter_sublist.map _)
  have hright : (idColumn :: auditTail.filter fun column ↦
      (entity.audit.get column).isSome).Nodup :=
    List.nodup_cons.mpr ⟨fun hmem ↦ htail.1 (List.mem_of_mem_filter hmem), htail.2.filter _⟩
  refine (List.perm_ext_iff_of_nodup hleft hright).mpr fun name ↦ ?_
  rw [List.mem_cons, List.mem_filter]
  constructor
  · intro hname
    obtain ⟨field, hfield, rfl⟩ := List.mem_map.mp hname
    obtain ⟨hmem, haudit⟩ := List.mem_filter.mp hfield
    rcases isAuditColumn_iff.mp haudit with hid | hcolumn
    · exact .inl hid
    · exact .inr ⟨hcolumn, (h.audit_iff _ hcolumn).mpr (List.mem_map_of_mem hmem)⟩
  · intro hname
    have haudit : isAuditColumn name = true ∧ name ∈ descriptors.map (·.name) := by
      rcases hname with rfl | ⟨hcolumn, hdeclared⟩
      · exact ⟨isAuditColumn_iff.mpr (.inl rfl), h.id_mem⟩
      · exact ⟨isAuditColumn_iff.mpr (.inr hcolumn), (h.audit_iff _ hcolumn).mp hdeclared⟩
    obtain ⟨field, hfield, rfl⟩ := List.mem_map.mp haudit.2
    exact List.mem_map_of_mem (List.mem_filter.mpr ⟨hfield, haudit.1⟩)

/-- Those names are the audit columns of the message, and its other fields but points in time. -/
theorem initNames_perm (h : entity.HasFieldsOf descriptors)
    (hnodup : (descriptors.map (·.name)).Nodup) :
    (initNames entity).Perm
      ((descriptors.filter fun field ↦ isAuditColumn field.name || !isPointInTime field).map
        (·.name)) := by
  let audits := descriptors.filter fun field ↦ isAuditColumn field.name
  let own := descriptors.filter fun field ↦ !isAuditColumn field.name && !isPointInTime field
  let kept := descriptors.filter fun field ↦ isAuditColumn field.name || !isPointInTime field
  have haudits : kept.filter (fun field ↦ isAuditColumn field.name) = audits := by
    rw [List.filter_filter]
    exact List.filter_congr fun field _ ↦ by cases isAuditColumn field.name <;> simp
  have hown : kept.filter (fun field ↦ !isAuditColumn field.name) = own := by
    rw [List.filter_filter]
    exact List.filter_congr fun field _ ↦ by cases isAuditColumn field.name <;> simp
  have hkept : (audits ++ own).Perm kept := by
    rw [← haudits, ← hown]
    exact List.filter_append_perm _ kept
  calc (initNames entity)
    _ = idColumn :: ((storedFields entity).map (·.name) ++
        auditTail.filter fun column ↦ (entity.audit.get column).isSome) := rfl
    List.Perm _ (idColumn :: (auditTail.filter (fun column ↦
        (entity.audit.get column).isSome) ++ (storedFields entity).map (·.name))) :=
      List.perm_append_comm.cons idColumn
    List.Perm _ (audits.map (·.name) ++ own.map (·.name)) := by
      rw [map_name_storedFields h]
      exact (audits_perm h hnodup).symm.append_right _
    _ = (audits ++ own).map (·.name) := List.map_append.symm
    List.Perm _ (kept.map (·.name)) := hkept.map _

end Record

/-! ## Resolved entities -/

theorem isListable_of_isFieldName {name : List Char} (h : Text.isFieldName name = true) :
    IsListable name where
  ne_nil heq := by
    rw [heq] at h
    cases h
  comma_notMem hmem := absurd (Text.isPlainChar_of_isFieldName h _ hmem) (by decide)
  blank_notMem hmem := absurd (Text.isPlainChar_of_isFieldName h _ hmem) (by decide)

section Resolved

variable {files : List Descriptor.File} {requested : List String} {schema : Resolution}
  {entity : Entity} {message : Message}

/-- A resolved entity writes its stored fields under their own names. -/
theorem columns_eq_names (hschema : resolve files requested = .ok schema)
    (hentity : entity ∈ schema.entities) :
    entity.recordTable.columns = (storedFields entity).map (·.name) := by
  rw [columns_recordTable]
  exact List.map_congr_left fun field hfield ↦
    column_eq_name hschema hentity (List.mem_of_mem_filter hfield)

theorem selected_eq_names (hschema : resolve files requested = .ok schema)
    (hentity : entity ∈ schema.entities) :
    entity.recordTable.selected = idColumn :: (storedFields entity).map (·.name) ++ auditTail := by
  rw [← columns_eq_names hschema hentity]
  rfl

theorem isListable_storedFields (hmessage : entity.HasFieldsOf message.fields)
    (hnames : ∀ field ∈ message.fields, Text.isFieldName field.name.toList) :
    ∀ name ∈ (storedFields entity).map (·.name), IsListable name.toList := by
  intro name hname
  rw [map_name_storedFields hmessage] at hname
  obtain ⟨field, hfield, rfl⟩ := List.mem_map.mp hname
  exact isListable_of_isFieldName (hnames field (List.mem_of_mem_filter hfield))

/-- The columns of the select list can be read off its text. -/
theorem listedNames_selected (hschema : resolve files requested = .ok schema)
    (hentity : entity ∈ schema.entities) (hmessage : entity.HasFieldsOf message.fields)
    (hnames : ∀ field ∈ message.fields, Text.isFieldName field.name.toList) :
    listedNames (commaList entity.recordTable.selected) = entity.recordTable.selected := by
  have hplain : ∀ name ∈ idColumn :: auditTail, Text.isFieldName name.toList = true := by
    decide
  obtain ⟨hid, htail⟩ := List.forall_mem_cons.mp fun name hname ↦
    isListable_of_isFieldName (hplain name hname)
  refine listedNames_commaList ?_
  rw [selected_eq_names hschema hentity, List.forall_mem_append, List.forall_mem_cons]
  exact ⟨⟨hid, isListable_storedFields hmessage hnames⟩, htail⟩

theorem listedNames_placeholders {α : Type*} (columns : List α) :
    listedNames (commaList (columns.map fun _ ↦ "?")) = columns.map fun _ ↦ "?" := by
  have hplaceholder : IsListable "?".toList := ⟨by decide, by decide, by decide⟩
  refine listedNames_commaList fun name hname ↦ ?_
  obtain ⟨column, -, rfl⟩ := List.mem_map.mp hname
  exact hplaceholder

/-- The record sets the audit columns of the message, and its other fields but points in time. -/
theorem inits_perm (hmessage : entity.HasFieldsOf message.fields)
    (hdistinct : (message.fields.map fun field ↦ snakeCase field.name).Nodup) :
    ((rowReading entity).inits.map FieldInit.field).Perm
      ((message.fields.filter fun field ↦ isAuditColumn field.name || !isPointInTime field).map
        fun field ↦ fieldIdentifier field.name) := by
  have hnodup : (message.fields.map (·.name)).Nodup := by
    refine List.Nodup.of_map snakeCase ?_
    rwa [List.map_map]
  have hperm := (initNames_perm hmessage hnodup).map fieldIdentifier
  rw [List.map_map, Function.comp_def] at hperm
  rwa [map_field_inits]

/-- The lists of an entity agree with each other and with the message of the entity. -/
theorem isLaidOut_of_resolve (hschema : resolve files requested = .ok schema)
    (hentity : entity ∈ schema.entities) (hmessage : entity.HasFieldsOf message.fields)
    (hnames : ∀ field ∈ message.fields, Text.isFieldName field.name.toList)
    (hdistinct : (message.fields.map fun field ↦ snakeCase field.name).Nodup) :
    IsLaidOut entity message := by
  have hcolumns := columns_eq_names hschema hentity
  have hread := listedNames_selected hschema hentity hmessage hnames
  have hinits := inits_perm hmessage hdistinct
  exact
    { stored := map_name_storedFields hmessage
      selected := hread.trans (selected_eq_names hschema hentity)
      scanned := (map_column_scanTargets entity).trans hread.symm
      scanned_kind := rfl
      shape := shape_recordTable entity
      read := (map_column_reads entity).trans hread.symm
      read_kind := forall₂_readsKind entity fun field hfield ↦
        codecOf?_isSome hschema hentity hfield
      inserted := by
        rw [hcolumns]
        exact listedNames_commaList (isListable_storedFields hmessage hnames)
      placeholders := by
        rw [listedNames_placeholders, hcolumns, List.map_map]
        rfl
      values := fun request ↦ by
        change ((storedFields entity).map entity.classifyField).map _ = _
        rw [List.map_map]
        rfl
      inits := hinits
      inits_nodup := hinits.nodup_iff.mpr
        ((Code.nodup_fieldIdentifiers hdistinct).sublist (List.filter_sublist.map _))
      hasRest_iff := hasRest_eq_true_iff hmessage }

/-- Every read of a resolved entity reaches the row if no plain field is spelt as the cursor. -/
theorem taken_eq_reads_of_resolve (hschema : resolve files requested = .ok schema)
    (hentity : entity ∈ schema.entities) :
    (rowReading entity).taken = (rowReading entity).reads ↔
      ∀ field ∈ storedFields entity, field.isEnum = false →
        snakeCase field.name ≠ cursorName entity :=
  taken_eq_reads_iff entity fun _ hfield ↦ codecOf?_isSome hschema hentity hfield

/--
The columns of a resolved entity are listed in one order wherever they are listed, are read as types
that fit their shapes, and fill the record. All of them are taken from the row if and only if no
stored field that is no enum has the name of the cursor in snake case. The table, the values of a
create and the reading are those that the code of the entity spells out. The names of the fields are
identifiers that are distinct in snake case.
-/
theorem isLaidOut_and_taken_iff (hschema : resolve files requested = .ok schema)
    (hentity : entity ∈ schema.entities) (hmessage : entity.message? files = some message)
    (hnames : ∀ field ∈ message.fields, Text.isFieldName field.name.toList)
    (hdistinct : (message.fields.map fun field ↦ snakeCase field.name).Nodup) :
    IsLaidOut entity message ∧
      ((rowReading entity).taken = (rowReading entity).reads ↔
        ∀ field ∈ storedFields entity, field.isEnum = false →
          snakeCase field.name ≠ cursorName entity) ∧
      ∀ options text, Generate.entityCode options entity = .ok text →
        ∃ file : Generate.EntityText, file.IsReadFrom text ∧
          file.record.table = .ofTable entity.recordTable ∧
          file.record.reading = .ofReading (rowReading entity) ∧
          ∀ operation, entity.methods.at? .create = some operation → ∃ request,
            file.Defines (Code.fieldIdentifier operation.method.name) request
              (.create (createPlan entity operation.request)) := by
  obtain ⟨own, hown, hfields⟩ := exists_message hschema hentity
  obtain rfl := Option.some.inj (hown.symm.trans hmessage)
  refine ⟨isLaidOut_of_resolve hschema hentity hfields hnames hdistinct,
    taken_eq_reads_of_resolve hschema hentity, fun options text htext ↦ ?_⟩
  obtain ⟨file, hfile, hread⟩ := Generate.exists_entityText htext
  refine ⟨file, hread, by rw [hfile.record_eq]; rfl, by rw [hfile.record_eq]; rfl,
    fun operation hcreate ↦ ?_⟩
  obtain ⟨request, -, hdefines⟩ := hfile.exists_defines hcreate
  exact ⟨request, hdefines⟩

end Resolved

/-! ## Sheets with a number of columns -/

def sheetFile (field : String) : Descriptor.File where
  name := "sheets.proto"
  package := "shop"
  messages :=
    [.mk "Sheet" [plainField "id" .string "", plainField field .int32 ""] [] [],
      .mk "GetSheetRequest" [plainField "id" .string ""] [] []]
  enums := []
  services :=
    [⟨"Sheets", [⟨"GetSheet", ".shop.GetSheetRequest", ".shop.Sheet", false, false⟩]⟩]

theorem exists_sheet (field : String) (hfield : Text.isFieldName field.toList = true)
    (hne : snakeCase "id" ≠ snakeCase field)
    (h : (resolve [sheetFile field] ["sheets.proto"]).toOption.map (fun schema ↦
      schema.entities.map fun entity ↦
        (entity.fields, (entity.message? [sheetFile field]).map Message.fields)) =
          some [([⟨field, field, .scalar .int32, false⟩],
            some [plainField "id" .string "", plainField field .int32 ""])]) :
    ∃ schema entity message, resolve [sheetFile field] ["sheets.proto"] = .ok schema ∧
      entity ∈ schema.entities ∧ entity.fields = [⟨field, field, .scalar .int32, false⟩] ∧
      entity.message? [sheetFile field] = some message ∧
      (∀ field ∈ message.fields, Text.isFieldName field.name.toList) ∧
      (message.fields.map fun field ↦ snakeCase field.name).Nodup := by
  obtain ⟨schema, entity, hschema, hentity, hparts⟩ := exists_entity h
  obtain ⟨hfields, hmessage⟩ := Prod.mk.inj hparts
  obtain ⟨message, hfound, hdescriptors⟩ := Option.map_eq_some_iff.mp hmessage
  refine ⟨schema, entity, message, hschema, hentity ▸ List.mem_cons_self, hfields, hfound, ?_, ?_⟩
  · rw [hdescriptors, List.forall_mem_cons, List.forall_mem_singleton]
    exact ⟨rfl, hfield⟩
  · rw [hdescriptors]
    exact List.nodup_cons.mpr ⟨fun h ↦ hne (List.mem_singleton.mp h), List.nodup_singleton _⟩

/-- A field named `Columns` is read into a local that hides the cursor. -/
theorem not_forall_taken :
    ¬ ∀ (files : List Descriptor.File) (requested : List String) (schema : Resolution),
      resolve files requested = .ok schema → ∀ entity ∈ schema.entities, ∀ message,
        entity.message? files = some message →
          (∀ field ∈ message.fields, Text.isFieldName field.name.toList) →
            (message.fields.map fun field ↦ snakeCase field.name).Nodup →
              IsLaidOut entity message ∧ (rowReading entity).taken = (rowReading entity).reads := by
  intro hall
  obtain ⟨schema, entity, message, hschema, hentity, hfields, hmessage, hnames, hdistinct⟩ :=
    exists_sheet "Columns" rfl (by decide +kernel) (by decide +kernel)
  have htaken := (hall _ _ schema hschema entity hentity message hmessage hnames hdistinct).2
  rw [taken_eq_reads_of_resolve hschema hentity] at htaken
  have hstored : storedFields entity = [⟨"Columns", "Columns", .scalar .int32, false⟩] := by
    rw [storedFields, hfields]
    rfl
  rw [cursorName, hfields, hstored] at htaken
  refine htaken _ List.mem_cons_self rfl ?_
  decide +kernel

/-- A sheet with a width is laid out as it should be, and every read of it reaches the row. -/
theorem isLaidOut_sheetWithWidth :
    ∃ schema entity message, resolve [sheetFile "width"] ["sheets.proto"] = .ok schema ∧
      entity ∈ schema.entities ∧ entity.message? [sheetFile "width"] = some message ∧
      IsLaidOut entity message ∧ (rowReading entity).taken = (rowReading entity).reads := by
  obtain ⟨schema, entity, message, hschema, hentity, hfields, hmessage, hnames, hdistinct⟩ :=
    exists_sheet "width" rfl (by decide +kernel) (by decide +kernel)
  obtain ⟨hlaidOut, htaken, -⟩ :=
    isLaidOut_and_taken_iff hschema hentity hmessage hnames hdistinct
  refine ⟨schema, entity, message, hschema, hentity, hmessage, hlaidOut, htaken.mpr ?_⟩
  intro field hfield _
  rw [storedFields, hfields, List.filter_cons_of_pos rfl, List.filter_nil, List.mem_singleton]
    at hfield
  rw [hfield, cursorName, hfields]
  decide +kernel

end ProtoCrud.Handler
