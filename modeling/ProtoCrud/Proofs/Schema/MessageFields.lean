import Mathlib.Data.List.Forall2
import ProtoCrud.Proofs.Schema.Resolution

/-!
# The fields of a message, sorted

A message that could be resolved as an entity has its fields sorted by their names alone: one is
the id, four may be audit columns, and the others are the fields of the entity, in the order of
declaration.
-/

namespace ProtoCrud.Schema

open Descriptor (File Message)

theorem isAuditColumn_iff {name : String} :
    isAuditColumn name = true ↔ name = idColumn ∨ name ∈ auditTail := by
  rw [isAuditColumn, Bool.or_eq_true, beq_iff_eq, List.contains_iff_mem]

theorem isAuditColumn_eq_false_iff {name : String} :
    isAuditColumn name = false ↔ name ≠ idColumn ∧ name ∉ auditTail := by
  rw [← Bool.not_eq_true, isAuditColumn_iff, not_or]

theorem idColumn_notMem_auditTail : idColumn ∉ auditTail := by
  decide

def isPointInTime (descriptor : Descriptor.Field) : Bool :=
  descriptor.type = .message && descriptor.typeName = timestampName

theorem timestamp_eq_isPointInTime {descriptor : Descriptor.Field} {type : FieldType}
    (h : fieldType descriptor = .ok type) :
    decide (type = .timestamp) = isPointInTime descriptor := by
  unfold fieldType at h
  unfold isPointInTime
  split at h
  · next henum =>
    cases h
    simp [henum]
  · next hmessage =>
    split at h
    · next hname =>
      cases h
      simp [hmessage, hname]
    · cases h
  · next hmessage =>
    split at h
    · cases h
      simpa using fun heq ↦ (hmessage heq).elim
    · cases h

/-- A field is a point in time if it is declared as one. -/
theorem isTimestamp_ofDescriptor {descriptor : Descriptor.Field} {field : Field}
    (h : Field.ofDescriptor descriptor = .ok field) :
    field.isTimestamp = isPointInTime descriptor := by
  unfold Field.ofDescriptor at h
  split at h
  · cases h
  split at h
  · cases h
  cases htype : fieldType descriptor with
  | error reason =>
    rw [htype] at h
    cases h
  | ok type =>
    rw [htype] at h
    cases h
    exact timestamp_eq_isPointInTime htype

/-- What one field adds to the account of a message, by its name. -/
theorem Fields.add_sorted {index : TypeIndex} {fields next : Fields} {field : Field}
    (h : fields.add index field = .ok next) :
    field.name = idColumn ∧ next = { fields with hasId := true } ∨
      field.name ∈ auditTail ∧
        next = { fields with audit := fields.audit.declare field.name field.optional } ∨
      isAuditColumn field.name = false ∧ next.hasId = fields.hasId ∧ next.audit = fields.audit ∧
        next.stored = fields.stored ++ [field] := by
  unfold Fields.add at h
  split at h
  · next hid =>
    split at h <;> cases h
    exact .inl ⟨hid, rfl⟩
  next hid =>
  split at h
  · next hname =>
    split at h <;> cases h
    refine .inr (.inl ⟨?_, rfl⟩)
    rcases hname with hname | hname <;> rw [hname] <;> decide
  next htime =>
  split at h
  · next hname =>
    split at h <;> cases h
    refine .inr (.inl ⟨?_, rfl⟩)
    rcases hname with hname | hname <;> rw [hname] <;> decide
  next hauthor =>
  have haudit : isAuditColumn field.name = false := by
    refine isAuditColumn_eq_false_iff.mpr ⟨hid, ?_⟩
    rw [not_or] at htime hauthor
    simp [auditTail, htime, hauthor]
  refine .inr (.inr ⟨haudit, ?_⟩)
  split at h
  · cases h
    exact ⟨rfl, rfl, rfl⟩
  · split at h
    · cases h
    · split at h <;> cases h
      exact ⟨rfl, rfl, rfl⟩

/-- The audit columns that are declared once one more of them is. -/
theorem isSome_get_declare {audit : AuditFields} {column other : String} {optional : Bool}
    (hcolumn : column ∈ auditTail) :
    ((audit.declare column optional).get other).isSome = true ↔
      (audit.get other).isSome = true ∨ other = column := by
  simp only [auditTail, List.mem_cons, List.not_mem_nil, or_false] at hcolumn
  unfold AuditFields.declare AuditFields.get
  rcases hcolumn with rfl | rfl | rfl | rfl <;> simp only [String.reduceEq, if_true, if_false] <;>
    split_ifs <;> simp_all

/-- The account of a message: its fields by the parts that they have in an entity. -/
structure Fields.AreThoseOf (fields : Fields) (descriptors : List Descriptor.Field) : Prop where
  /-- The fields that are no audit columns, in order. -/
  stored : List.Forall₂ (fun descriptor field ↦ Field.ofDescriptor descriptor = .ok field)
    (descriptors.filter fun descriptor ↦ !isAuditColumn descriptor.name) fields.stored
  hasId_iff : fields.hasId = true ↔ idColumn ∈ descriptors.map (·.name)
  audit_iff : ∀ column ∈ auditTail,
    (fields.audit.get column).isSome = true ↔ column ∈ descriptors.map (·.name)

theorem Fields.areThoseOf_nil : ({} : Fields).AreThoseOf [] where
  stored := .nil
  hasId_iff := ⟨nofun, nofun⟩
  audit_iff column hcolumn := by
    simp only [auditTail, List.mem_cons, List.not_mem_nil, or_false] at hcolumn
    rcases hcolumn with rfl | rfl | rfl | rfl <;> exact ⟨nofun, nofun⟩

/-- One more field is sorted in. -/
theorem Fields.AreThoseOf.add {index : TypeIndex} {fields next : Fields}
    {descriptors : List Descriptor.Field} {descriptor : Descriptor.Field} {field : Field}
    (h : fields.AreThoseOf descriptors) (hfield : Field.ofDescriptor descriptor = .ok field)
    (hadd : fields.add index field = .ok next) :
    next.AreThoseOf (descriptors ++ [descriptor]) := by
  have hname := (column_ofDescriptor hfield).1
  have hmem (column : String) : column ∈ (descriptors ++ [descriptor]).map (·.name) ↔
      column ∈ descriptors.map (·.name) ∨ column = field.name := by
    rw [List.map_append, List.mem_append, List.map_singleton, List.mem_singleton, hname]
  have hkept (haudit : isAuditColumn field.name = true) :
      (descriptors ++ [descriptor]).filter (fun descriptor ↦ !isAuditColumn descriptor.name) =
        descriptors.filter fun descriptor ↦ !isAuditColumn descriptor.name := by
    rw [hname] at haudit
    simp [haudit]
  rcases Fields.add_sorted hadd with ⟨hid, rfl⟩ | ⟨haudit, rfl⟩ | ⟨hown, hid, haudit, hstored⟩
  · refine ⟨?_, ?_, fun column hcolumn ↦ ?_⟩
    · rw [hkept (isAuditColumn_iff.mpr (.inl hid))]
      exact h.stored
    · rw [hmem]
      exact iff_of_true rfl (.inr hid.symm)
    · rw [hmem, h.audit_iff column hcolumn, hid]
      refine (or_iff_left ?_).symm
      rintro rfl
      exact idColumn_notMem_auditTail hcolumn
  · refine ⟨?_, ?_, fun column hcolumn ↦ ?_⟩
    · rw [hkept (isAuditColumn_iff.mpr (.inr haudit))]
      exact h.stored
    · rw [hmem, h.hasId_iff]
      refine (or_iff_left ?_).symm
      intro hid
      exact idColumn_notMem_auditTail (hid ▸ haudit)
    · rw [hmem, ← h.audit_iff column hcolumn]
      exact isSome_get_declare haudit
  · obtain ⟨hneId, hnotAudit⟩ := isAuditColumn_eq_false_iff.mp hown
    refine ⟨?_, ?_, fun column hcolumn ↦ ?_⟩
    · rw [List.filter_append, List.filter_singleton, ← hname, hown, hstored]
      exact List.rel_append h.stored (.cons hfield .nil)
    · rw [hmem, hid, h.hasId_iff]
      exact (or_iff_left hneId.symm).symm
    · rw [hmem, haudit, h.audit_iff column hcolumn]
      refine (or_iff_left ?_).symm
      rintro rfl
      exact hnotAudit hcolumn

/-- The account that a whole message leaves is that of its fields. -/
theorem Fields.AreThoseOf.addAll {index : TypeIndex} {fields last : Fields}
    {done rest : List Descriptor.Field} (h : fields.AreThoseOf done)
    (hadd : fields.addAll index rest = .ok last) : last.AreThoseOf (done ++ rest) := by
  induction rest generalizing fields done with
  | nil =>
    cases hadd
    rwa [List.append_nil]
  | cons descriptor rest ih =>
    rw [Fields.addAll] at hadd
    obtain ⟨field, hfield, hadd⟩ := bind_eq_ok.mp hadd
    obtain ⟨next, hnext, hadd⟩ := bind_eq_ok.mp hadd
    have hrest := ih (h.add hfield hnext) hadd
    rwa [List.append_assoc] at hrest

def Entity.message? (files : List File) (entity : Entity) : Option Message :=
  (TypeIndex.ofFiles files).message? (qualified (packageScope entity.package) entity.name)

/-- The fields of an entity are those of its message, and one of them is the id. -/
structure Entity.HasFieldsOf (entity : Entity) (descriptors : List Descriptor.Field) : Prop where
  fields : List.Forall₂ (fun descriptor field ↦ Field.ofDescriptor descriptor = .ok field)
    (descriptors.filter fun descriptor ↦ !isAuditColumn descriptor.name) entity.fields
  id_mem : idColumn ∈ descriptors.map (·.name)
  audit_iff : ∀ column ∈ auditTail,
    (entity.audit.get column).isSome = true ↔ column ∈ descriptors.map (·.name)

theorem hasFieldsOf_of_resolveEntity {index : TypeIndex} {package name : String}
    {methods : Slots Method} {entity : Entity}
    (h : resolveEntity index package name methods = .ok entity) {message : Message}
    (hmessage : index.message? (qualified (packageScope package) name) = some message) :
    entity.HasFieldsOf message.fields := by
  obtain ⟨found, fields, _, hfound, hfields, hid, -, rfl⟩ := resolveEntity_cases h
  obtain rfl := Option.some.inj (hfound.symm.trans hmessage)
  have hsorted := Fields.areThoseOf_nil.addAll hfields
  exact ⟨hsorted.stored, hsorted.hasId_iff.mp hid, hsorted.audit_iff⟩

/-- Every entity of a resolved schema has a message, and its fields are those of the message. -/
theorem exists_message {files : List File} {requested : List String} {schema : Resolution}
    (h : resolve files requested = .ok schema) {entity : Entity}
    (hentity : entity ∈ schema.entities) :
    ∃ message, entity.message? files = some message ∧ entity.HasFieldsOf message.fields := by
  obtain ⟨package, name, methods, hresolve⟩ := exists_resolveEntity h hentity
  obtain ⟨message, _, _, hmessage, -, -, -, rfl⟩ := resolveEntity_cases hresolve
  exact ⟨message, hmessage, hasFieldsOf_of_resolveEntity hresolve hmessage⟩

end ProtoCrud.Schema
