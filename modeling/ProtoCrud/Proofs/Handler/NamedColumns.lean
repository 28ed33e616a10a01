import ProtoCrud.Proofs.Handler.UpdateChanges
import ProtoCrud.Proofs.Record.SentText

/-!
# Columns that statements name

Which columns there are is decided more than once: the generated code lists those that are written,
selected and filtered on, and the operations on records add the audit columns and those that every
list may be sorted on. For a resolved entity the lists fit each other, so that no statement names a
column that is not selected, sets a column twice, or touches a point in time that is not audited.
-/

namespace ProtoCrud.Record

open Query Sql

def assignedColumns : Statement → List String
  | .insert _ assignments => assignments.map Prod.fst
  | .update _ assignments => assignments.map Prod.fst
  | _ => []

/-- The columns that a statement sets, reads, puts conditions on or sorts on. -/
def namedColumns : Statement → List String
  | .insert _ assignments => assignments.map Prod.fst
  | .select _ columns => columns ++ ["id"]
  | .update _ assignments => assignments.map Prod.fst ++ ["id"]
  | .delete _ => ["id"]
  | .count _ filter => allColumns filter
  | .page _ columns filter order _ => columns ++ allColumns filter ++ [order]

/-- The statements that an operation may send. -/
def Operation.statements (table : Table) : Operation → List Statement
  | .create _ => [table.insertion, table.selection]
  | .get _ => [table.selection]
  | .update _ changes => [table.alteration (changes.assignments.map Prod.fst), table.selection]
  | .delete _ => [table.removal]
  | .list query => [table.counting query, table.paging query]

section Sent

variable {α σ : Type} (mapping : Mapping α) (backend : Backend σ) (state : σ)

/-- An operation sends no other statements, whatever the store answers. -/
theorem statement_mem_statements (operation : Operation) :
    ∀ event ∈ (operation.session mapping).events backend state,
      event.call.statement ∈ operation.statements mapping.table := by
  intro event hevent
  have hwithin := (events_session_within mapping backend state operation).subset hevent
  have hstatements :
      (operation.script mapping.table (backend.freshId state).1).map (·.call.statement) =
        operation.statements mapping.table := by
    cases operation <;> rfl
  rw [← hstatements]
  exact List.mem_map_of_mem hwithin

end Sent

structure Table.IsCoherent (table : Table) : Prop where
  nodup : table.columns.Nodup
  notMem_standardColumns : ∀ column ∈ table.columns, column ∉ standardColumns
  mem_selected_iff : ∀ column,
    column ∈ table.selected ↔ column ∈ table.columns ∨ column ∈ standardColumns
  filterable_subset : table.filterable ⊆ table.selected

/-- An update sets columns of the table, each at most once; the other operations set none. -/
def Operation.SetsColumnsOf (table : Table) : Operation → Prop
  | .update _ changes => (changes.assignments.map Prod.fst).Sublist table.columns
  | _ => True

/-- A statement names selected columns only, and sets no column twice. -/
structure KeepsToColumns (table : Table) (statement : Statement) : Prop where
  named_subset : namedColumns statement ⊆ table.selected
  assigned_nodup : (assignedColumns statement).Nodup

section Coherent

variable {table : Table}

theorem Table.IsCoherent.standardColumns_subset (h : table.IsCoherent) :
    standardColumns ⊆ table.selected :=
  fun column hcolumn ↦ (h.mem_selected_iff column).mpr (.inr hcolumn)

theorem Table.IsCoherent.columns_subset (h : table.IsCoherent) :
    table.columns ⊆ table.selected :=
  fun column hcolumn ↦ (h.mem_selected_iff column).mpr (.inl hcolumn)

theorem Table.IsCoherent.id_subset (h : table.IsCoherent) : ["id"] ⊆ table.selected :=
  List.Subset.trans (by decide) h.standardColumns_subset

/-- Columns of a table are distinct from further columns that every table carries. -/
theorem Table.IsCoherent.nodup_append (h : table.IsCoherent) {columns others : List String}
    (hcolumns : columns.Sublist table.columns) (hothers : others.Nodup)
    (hstandard : others ⊆ standardColumns) : (columns ++ others).Nodup := by
  refine List.nodup_append.mpr ⟨hcolumns.nodup h.nodup, hothers, ?_⟩
  rintro column hcolumn other hother rfl
  exact h.notMem_standardColumns column (hcolumns.subset hcolumn) (hstandard hother)

theorem Table.IsCoherent.keeps_insertion (h : table.IsCoherent) :
    KeepsToColumns table table.insertion := by
  have hassigned : assignedColumns table.insertion =
      "id" :: (table.columns ++ ["created_by", "created_at", "updated_at"]) := by
    simp [assignedColumns, Table.insertion, Function.comp_def]
  refine ⟨?_, ?_⟩
  · change assignedColumns table.insertion ⊆ _
    rw [hassigned, List.cons_subset, List.append_subset]
    refine ⟨h.standardColumns_subset (by decide), h.columns_subset, ?_⟩
    exact List.Subset.trans (by decide) h.standardColumns_subset
  · rw [hassigned, List.nodup_cons, List.mem_append, not_or]
    refine ⟨⟨fun hid ↦ ?_, by decide⟩, ?_⟩
    · exact h.notMem_standardColumns "id" hid (by decide)
    · exact h.nodup_append (List.Sublist.refl _) (by decide) (by decide)

theorem Table.IsCoherent.keeps_alteration (h : table.IsCoherent) {columns : List String}
    (hcolumns : columns.Sublist table.columns) :
    KeepsToColumns table (table.alteration columns) := by
  have hassigned : assignedColumns (table.alteration columns) =
      columns ++ ["updated_by", "updated_at"] := by
    simp [assignedColumns, Table.alteration, Function.comp_def]
  refine ⟨?_, ?_⟩
  · change assignedColumns (table.alteration columns) ++ ["id"] ⊆ _
    rw [hassigned, List.append_subset, List.append_subset]
    refine ⟨⟨List.Subset.trans hcolumns.subset h.columns_subset, ?_⟩, h.id_subset⟩
    exact List.Subset.trans (by decide) h.standardColumns_subset
  · rw [hassigned]
    exact h.nodup_append hcolumns (by decide) (by decide)

theorem Table.IsCoherent.keeps_selection (h : table.IsCoherent) :
    KeepsToColumns table table.selection := by
  refine ⟨?_, List.nodup_nil⟩
  change table.selected ++ ["id"] ⊆ _
  exact List.append_subset.mpr ⟨List.Subset.refl _, h.id_subset⟩

/-- The columns of a condition may be filtered on, and the column of the order sorted on. -/
theorem Table.IsCoherent.keeps_list (h : table.IsCoherent) (query : ListQuery) :
    KeepsToColumns table (table.counting query) ∧ KeepsToColumns table (table.paging query) := by
  have hfilter : allColumns (table.condition query.filters) ⊆ table.selected :=
    List.Subset.trans (allColumns_predicates_subset table.filterable query.filters)
      h.filterable_subset
  have horder : query.pagination.sortColumn table.filterable ∈ table.selected := by
    rcases isSortable_sortColumn query.pagination table.filterable with hallowed | hstandard
    · exact h.filterable_subset hallowed
    · exact h.standardColumns_subset hstandard
  refine ⟨⟨hfilter, List.nodup_nil⟩, ⟨?_, List.nodup_nil⟩⟩
  change table.selected ++ allColumns (table.condition query.filters) ++ [_] ⊆ _
  rw [List.append_subset, List.append_subset]
  exact ⟨⟨List.Subset.refl _, hfilter⟩, List.cons_subset.mpr ⟨horder, List.nil_subset _⟩⟩

/-- Every statement that an operation on a coherent table may send keeps to its columns. -/
theorem Table.IsCoherent.keepsToColumns (h : table.IsCoherent) {operation : Operation}
    (hsets : operation.SetsColumnsOf table) :
    ∀ statement ∈ operation.statements table, KeepsToColumns table statement := by
  cases operation with
  | create row =>
    exact List.forall_mem_cons.mpr
      ⟨h.keeps_insertion, List.forall_mem_singleton.mpr h.keeps_selection⟩
  | get id => exact List.forall_mem_singleton.mpr h.keeps_selection
  | update id changes =>
    exact List.forall_mem_cons.mpr
      ⟨h.keeps_alteration hsets, List.forall_mem_singleton.mpr h.keeps_selection⟩
  | delete id => exact List.forall_mem_singleton.mpr ⟨h.id_subset, List.nodup_nil⟩
  | list query =>
    obtain ⟨hcount, hpage⟩ := h.keeps_list query
    exact List.forall_mem_cons.mpr ⟨hcount, List.forall_mem_singleton.mpr hpage⟩

end Coherent

end ProtoCrud.Record

namespace ProtoCrud.Schema

/-- A point in time under the name of an audit column is one of creation or of change. -/
theorem Fields.add_isTimestamp {index : TypeIndex} {fields next : Fields} {field : Field}
    (h : fields.add index field = .ok next) (htime : field.isTimestamp = true)
    (haudit : isAuditColumn field.name = true) : field.name ∈ ["created_at", "updated_at"] := by
  have htype : field.type = .timestamp := of_decide_eq_true htime
  unfold Fields.add at h
  simp only [htype, reduceCtorEq, false_and, if_false] at h
  split at h
  · cases h
  · next hid =>
    split at h
    · next hname => simpa using hname
    · next hname =>
      split at h
      · cases h
      · next hauthor =>
        rw [not_or] at hname hauthor
        rcases isAuditColumn_iff.mp haudit with heq | hmem
        · exact absurd heq hid
        · simp [auditTail, hname, hauthor] at hmem

theorem Fields.addAll_isPointInTime {index : TypeIndex} {fields last : Fields}
    {descriptors : List Descriptor.Field} (h : fields.addAll index descriptors = .ok last) :
    ∀ descriptor ∈ descriptors, isPointInTime descriptor = true →
      isAuditColumn descriptor.name = true → descriptor.name ∈ ["created_at", "updated_at"] := by
  intro descriptor hmem htime haudit
  obtain ⟨before, next, field, hfield, hnext⟩ := Fields.exists_add h descriptor hmem
  rw [← (column_ofDescriptor hfield).1] at haudit ⊢
  exact Fields.add_isTimestamp hnext ((isTimestamp_ofDescriptor hfield).trans htime) haudit

end ProtoCrud.Schema

namespace ProtoCrud.Handler

open Descriptor (Message)
open Query Record Schema Sql

/-- A call of an operation that the code of an entity can make: an update makes its own changes. -/
def IsBuilt (entity : Entity) : Operation → Prop
  | .update _ changes => ∃ operation data, entity.methods.at? .update = some operation ∧
    changes? entity operation.request data = some changes
  | _ => True

theorem mem_standardColumns_iff {column : String} :
    column ∈ standardColumns ↔ isAuditColumn column = true := by
  rw [isAuditColumn_iff]
  simp [standardColumns, idColumn, auditTail]

theorem IsBuilt.setsColumnsOf {entity : Entity} {operation : Operation}
    (h : IsBuilt entity operation) : operation.SetsColumnsOf entity.recordTable := by
  cases operation with
  | update id changes =>
    obtain ⟨_, _, -, hchanges⟩ := h
    have hcolumns := columns_sublist hchanges
    rwa [← columns_recordTable] at hcolumns
  | _ => trivial

section Resolved

variable {files : List Descriptor.File} {requested : List String} {schema : Resolution}
  {entity : Entity} {message : Message}

/-- The table of a resolved entity is coherent if no two of its fields have the same name. -/
theorem isCoherent_recordTable (hschema : resolve files requested = .ok schema)
    (hentity : entity ∈ schema.entities) (hmessage : entity.HasFieldsOf message.fields)
    (hnames : (message.fields.map (·.name)).Nodup) : entity.recordTable.IsCoherent := by
  have hcolumns : entity.recordTable.columns = (message.fields.filter fun field ↦
      !isAuditColumn field.name && !isPointInTime field).map (·.name) := by
    rw [columns_eq_names hschema hentity, map_name_storedFields hmessage]
  have hselected : entity.recordTable.selected =
      idColumn :: entity.recordTable.columns ++ auditTail := rfl
  refine ⟨?_, fun column hcolumn hstandard ↦ ?_, fun column ↦ ?_, ?_⟩
  · rw [hcolumns]
    exact hnames.sublist (List.filter_sublist.map _)
  · rw [hcolumns] at hcolumn
    obtain ⟨field, hfield, rfl⟩ := List.mem_map.mp hcolumn
    have hown := (List.mem_filter.mp hfield).2
    rw [mem_standardColumns_iff.mp hstandard] at hown
    cases hown
  · rw [hselected, mem_standardColumns_iff, isAuditColumn_iff, List.mem_append, List.mem_cons]
    tauto
  · change idColumn :: entity.recordTable.columns ++ ["created_by", "updated_by"] ⊆ _
    rw [hselected, List.append_subset]
    refine ⟨List.subset_append_left _ _, List.Subset.trans ?_ (List.subset_append_right _ _)⟩
    decide

/-- A point in time that is selected is that of the creation or of the last change. -/
theorem notMem_selected_of_isPointInTime (hschema : resolve files requested = .ok schema)
    (hentity : entity ∈ schema.entities) (hmessage : entity.message? files = some message)
    (hnames : (message.fields.map (·.name)).Nodup) {field : Descriptor.Field}
    (hfield : field ∈ message.fields) (htime : isPointInTime field = true)
    (hother : field.name ∉ ["created_at", "updated_at"]) :
    field.name ∉ entity.recordTable.selected := by
  obtain ⟨package, name, methods, hresolve⟩ := exists_resolveEntity hschema hentity
  obtain ⟨own, fields, _, hown, hfields, -, -, hmade⟩ := resolveEntity_cases hresolve
  have hsame : own = message := by
    subst hmade
    exact Option.some.inj (hown.symm.trans hmessage)
  subst hsame
  have hsorted : entity.HasFieldsOf own.fields := hasFieldsOf_of_resolveEntity hresolve hown
  have haudit : isAuditColumn field.name = false := by
    rw [Bool.eq_false_iff]
    exact fun haudit ↦ hother (Fields.addAll_isPointInTime hfields field hfield htime haudit)
  have hcoherent := isCoherent_recordTable hschema hentity hsorted hnames
  rw [hcoherent.mem_selected_iff, mem_standardColumns_iff, haudit, not_or]
  refine ⟨fun hcolumn ↦ ?_, Bool.false_ne_true⟩
  rw [columns_eq_names hschema hentity, map_name_storedFields hsorted] at hcolumn
  obtain ⟨stored, hstored, hname⟩ := List.mem_map.mp hcolumn
  obtain ⟨hmem, hkept⟩ := List.mem_filter.mp hstored
  obtain rfl := List.inj_on_of_nodup_map hnames hmem hfield hname
  simp [htime] at hkept

/--
Every statement that an operation on a resolved entity sends names columns of the select list only,
in what it sets and reads, in its conditions and in its order; it sets no column twice; and it names
no point in time of the message but those of creation and of change. This holds of every create,
get, delete and list, and of every update with changes that the code makes. The names of the fields
are distinct.
-/
theorem events_keepToColumns (hschema : resolve files requested = .ok schema)
    (hentity : entity ∈ schema.entities) (hmessage : entity.message? files = some message)
    (hnames : (message.fields.map (·.name)).Nodup) {operation : Operation}
    (hbuilt : IsBuilt entity operation) {α σ : Type} (fromRow : Row → Except RowError α)
    (backend : Backend σ) (state : σ) :
    ∀ event ∈ (operation.session ⟨entity.recordTable, fromRow⟩).events backend state,
      KeepsToColumns entity.recordTable event.call.statement ∧
        ∀ field ∈ message.fields, isPointInTime field = true →
          field.name ∉ ["created_at", "updated_at"] →
            field.name ∉ namedColumns event.call.statement := by
  obtain ⟨own, hown, hsorted⟩ := exists_message hschema hentity
  obtain rfl := Option.some.inj (hown.symm.trans hmessage)
  have hcoherent := isCoherent_recordTable hschema hentity hsorted hnames
  intro event hevent
  have hsent := statement_mem_statements ⟨entity.recordTable, fromRow⟩ backend state operation
    event hevent
  have hkept := hcoherent.keepsToColumns hbuilt.setsColumnsOf _ hsent
  refine ⟨hkept, fun field hfield htime hother hnamed ↦ ?_⟩
  exact notMem_selected_of_isPointInTime hschema hentity hmessage hnames hfield htime hother
    (hkept.named_subset hnamed)

end Resolved

/-- An update of a parcel and a hostile search for parcels never name the time that it is due. -/
theorem events_keepToColumns_parcel :
    ∃ schema entity changes, resolve [parcelFile] ["parcels.proto"] = .ok schema ∧
      entity ∈ schema.entities ∧ IsBuilt entity (.update "7" changes) ∧
      ∀ (fromRow : Row → Except RowError Unit) (script : Script),
        ∀ operation ∈ [Operation.update "7" changes, .list hostileSearch],
          ∀ event ∈ (operation.session ⟨entity.recordTable, fromRow⟩).events Script.backend script,
            KeepsToColumns entity.recordTable event.call.statement ∧
              "due" ∉ namedColumns event.call.statement := by
  obtain ⟨schema, entity, operation, hschema, hentity, hfields, hmessage, hupdate, -, hrequest⟩ :=
    exists_parcel
  have hnames : (entity.fields.map (·.name)).Nodup := by
    rw [hfields]
    decide
  obtain ⟨input, -, hinput⟩ := exists_input hschema hentity hnames (by decide) hupdate
  obtain ⟨changes, hchanges⟩ :=
    exists_changes hschema hentity hupdate hinput (holdsFields_parcel hrequest)
  obtain ⟨message, hfound, hdeclared⟩ := Option.map_eq_some_iff.mp hmessage
  have hdistinct : (message.fields.map (·.name)).Nodup := by
    rw [hdeclared]
    decide
  have hbuilt : IsBuilt entity (.update "7" changes) :=
    ⟨operation, parcelData, hupdate, hchanges⟩
  refine ⟨schema, entity, changes, hschema, hentity, hbuilt, fun fromRow script ↦ ?_⟩
  intro called hcalled event hevent
  have hcall : IsBuilt entity called := by
    simp only [List.mem_cons, List.not_mem_nil, or_false] at hcalled
    rcases hcalled with rfl | rfl
    · exact hbuilt
    · trivial
  obtain ⟨hkept, htimes⟩ := events_keepToColumns hschema hentity hfound hdistinct hcall fromRow
    Script.backend script event hevent
  refine ⟨hkept, htimes (plainField "due" .message timestampName) ?_ rfl (by decide)⟩
  rw [hdeclared]
  decide

end ProtoCrud.Handler
