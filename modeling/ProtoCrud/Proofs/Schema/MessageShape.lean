import ProtoCrud.Proofs.Schema.MessageFields

/-!
# What is read from the messages of an entity

A field maps onto a column by its own declaration alone. A message stands for an entity only if all
of its fields do; a request is read for those that do and passes over the others, so its fields are
known from the declaration, and so is the field in which a response carries entities.
-/

namespace ProtoCrud.Schema

open Descriptor (Message)

/-- A field that one column can hold. -/
structure MapsOntoColumn (descriptor : Descriptor.Field) : Prop where
  singular : descriptor.label ≠ .repeated
  /-- The member of a choice is a synthetic one, made for a field with presence. -/
  optional_of_inOneof : descriptor.inOneof = true → descriptor.optional = true
  ne_group : descriptor.type ≠ .group
  timestamp_of_message : descriptor.type = .message → descriptor.typeName = timestampName

structure IsPlainText (descriptor : Descriptor.Field) : Prop where
  type_eq : descriptor.type = .string
  singular : descriptor.label ≠ .repeated
  notInOneof : descriptor.inOneof = false
  notOptional : descriptor.optional = false

theorem isSingular_iff {descriptor : Descriptor.Field} :
    isSingular descriptor = true ↔ descriptor.label ≠ .repeated := by
  rw [isSingular, bne_iff_ne]

/-- The checks that a field has passed once it has a column, and what it holds there. -/
theorem ofDescriptor_eq_ok {descriptor : Descriptor.Field} {field : Field} :
    Field.ofDescriptor descriptor = .ok field ↔
      descriptor.label ≠ .repeated ∧ (descriptor.inOneof = true → descriptor.optional = true) ∧
        ∃ type, fieldType descriptor = .ok type ∧
          field = ⟨descriptor.name, descriptor.name, type,
            descriptor.optional || type = .timestamp⟩ := by
  rw [Field.ofDescriptor, ← isSingular_iff]
  cases hsingular : isSingular descriptor with
  | false => simp
  | true =>
    cases hmember : descriptor.inOneof && !descriptor.optional with
    | true =>
      have hrefused : ¬(descriptor.inOneof = true → descriptor.optional = true) := by
        simpa using hmember
      simp [hrefused]
    | false =>
      have hallowed : descriptor.inOneof = true → descriptor.optional = true := by
        simpa using hmember
      cases fieldType descriptor with
      | error reason => simp [Except.map]
      | ok type => simpa [Except.map, eq_comm (b := field)] using fun _ ↦ hallowed

theorem exists_fieldType_iff {descriptor : Descriptor.Field} :
    (∃ type, fieldType descriptor = .ok type) ↔
      descriptor.type ≠ .group ∧
        (descriptor.type = .message → descriptor.typeName = timestampName) := by
  unfold fieldType
  cases descriptor.type with
  | message =>
    by_cases hname : descriptor.typeName = timestampName <;> simp [hname]
  | _ => simp [scalarType?]

/-- The fields that have a column are those that one column can hold. -/
theorem exists_ofDescriptor_iff {descriptor : Descriptor.Field} :
    (∃ field, Field.ofDescriptor descriptor = .ok field) ↔ MapsOntoColumn descriptor := by
  constructor
  · rintro ⟨field, hfield⟩
    obtain ⟨hsingular, hmember, type, htype, -⟩ := ofDescriptor_eq_ok.mp hfield
    obtain ⟨hgroup, hmessage⟩ := exists_fieldType_iff.mp ⟨type, htype⟩
    exact ⟨hsingular, hmember, hgroup, hmessage⟩
  · intro h
    obtain ⟨type, htype⟩ :=
      exists_fieldType_iff.mpr ⟨h.ne_group, h.timestamp_of_message⟩
    exact ⟨_, ofDescriptor_eq_ok.mpr ⟨h.singular, h.optional_of_inOneof, type, htype, rfl⟩⟩

theorem type_eq_string {descriptor : Descriptor.Field}
    (h : fieldType descriptor = .ok (.scalar .string)) : descriptor.type = .string := by
  unfold fieldType at h
  cases htype : descriptor.type <;> simp_all [scalarType?]
  split at h <;> cases h

theorem isPlainText_of_ofDescriptor {descriptor : Descriptor.Field} {field : Field}
    (h : Field.ofDescriptor descriptor = .ok field) (htype : field.type = .scalar .string)
    (hplain : field.optional = false) : IsPlainText descriptor := by
  obtain ⟨hsingular, hmember, type, hdescribed, rfl⟩ := ofDescriptor_eq_ok.mp h
  obtain ⟨hoptional, -⟩ := Bool.or_eq_false_iff.mp hplain
  refine ⟨type_eq_string (htype ▸ hdescribed), hsingular, ?_, hoptional⟩
  by_contra hinside
  rw [Bool.not_eq_false] at hinside
  cases hoptional.symm.trans (hmember hinside)

/-- Every field of a message that could be taken into account has a column, and an id is a text. -/
theorem Fields.addAll_forall {index : TypeIndex} {fields last : Fields}
    {descriptors : List Descriptor.Field} (h : fields.addAll index descriptors = .ok last) :
    ∀ descriptor ∈ descriptors, MapsOntoColumn descriptor ∧
      (descriptor.name = idColumn → IsPlainText descriptor) := by
  intro descriptor hmem
  obtain ⟨before, next, field, hfield, hnext⟩ := Fields.exists_add h descriptor hmem
  refine ⟨exists_ofDescriptor_iff.mp ⟨field, hfield⟩, fun hid ↦ ?_⟩
  rw [← (column_ofDescriptor hfield).1] at hid
  rw [Fields.add, if_pos hid] at hnext
  split at hnext
  · next hplain => exact isPlainText_of_ofDescriptor hfield hplain.1 (by simpa using hplain.2)
  · cases hnext

/-- The fields of a request that have a column of their own, in the order of declaration. -/
def columnFields (descriptors : List Descriptor.Field) : List Field :=
  descriptors.filterMap fun descriptor ↦
    if isAuditColumn descriptor.name then none else (Field.ofDescriptor descriptor).toOption

section Requests

variable {kind : MethodKind} {descriptors : List Descriptor.Field}

theorem needsId_iff : needsId kind = true ↔ kind ∈ [MethodKind.get, .update, .delete] := by
  cases kind <;> decide

theorem writesFields_iff : writesFields kind = true ↔ kind ∈ [MethodKind.create, .update] := by
  cases kind <;> decide

theorem isAuditColumn_of_authorColumn? {column : String} (h : authorColumn? kind = some column) :
    isAuditColumn column = true := by
  cases kind <;> cases h <;> decide

/-- A search message is no column. -/
theorem toOption_ofDescriptor_search {descriptor : Descriptor.Field}
    (htype : descriptor.type = .message)
    (hname : (Text.beforeEnd? searchEnding.toList descriptor.typeName.toList).isSome = true) :
    (Field.ofDescriptor descriptor).toOption = none := by
  cases hfield : Field.ofDescriptor descriptor with
  | error reason => rfl
  | ok field =>
    have htimestamp := (exists_ofDescriptor_iff.mp ⟨field, hfield⟩).timestamp_of_message htype
    rw [htimestamp] at hname
    exact absurd hname (by decide)

theorem fields_add (shape : RequestShape) (descriptor : Descriptor.Field) :
    (shape.add kind descriptor).fields = shape.fields ++ columnFields [descriptor] := by
  rw [columnFields, List.filterMap_cons, List.filterMap_nil]
  unfold RequestShape.add
  dsimp only
  split
  · next hid => simp [hid, isAuditColumn_iff]
  split
  · next hauthor => simp [isAuditColumn_of_authorColumn? hauthor.1]
  split
  · next hsearch => simp [toOption_ofDescriptor_search hsearch.1 hsearch.2.2]
  split
  · simp
  · cases Field.ofDescriptor descriptor <;> simp [Except.toOption]

/-- The fields of a request are those of its declaration that have a column of their own. -/
theorem fields_foldl_add (shape : RequestShape) :
    (descriptors.foldl (RequestShape.add kind) shape).fields =
      shape.fields ++ columnFields descriptors := by
  induction descriptors generalizing shape with
  | nil => simp [columnFields]
  | cons descriptor rest ih =>
    rw [List.foldl_cons, ih, fields_add, List.append_assoc, columnFields, columnFields,
      columnFields, ← List.filterMap_append, List.singleton_append]

theorem hasId_add (shape : RequestShape) (descriptor : Descriptor.Field) :
    (shape.add kind descriptor).hasId =
      if descriptor.name = idColumn then descriptor.type = .string && isSingular descriptor
      else shape.hasId := by
  unfold RequestShape.add
  dsimp only
  split
  · rfl
  · split_ifs <;> try rfl
    split <;> rfl

/-- A request with an id declares it as a text. -/
theorem exists_id_of_hasId {shape : RequestShape} (hshape : shape.hasId = false)
    (h : (descriptors.foldl (RequestShape.add kind) shape).hasId = true) :
    ∃ descriptor ∈ descriptors, descriptor.name = idColumn ∧ descriptor.type = .string ∧
      descriptor.label ≠ .repeated := by
  induction descriptors generalizing shape with
  | nil => cases hshape.symm.trans h
  | cons descriptor rest ih =>
    -- A later field of the name may take the id back, so any of those that give it will do.
    by_cases hid : (shape.add kind descriptor).hasId = true
    · refine ⟨descriptor, List.mem_cons_self, ?_⟩
      rw [hasId_add] at hid
      split at hid
      · next hname =>
        rw [Bool.and_eq_true, decide_eq_true_eq] at hid
        exact ⟨hname, hid.1, isSingular_iff.mp hid.2⟩
      · cases hshape.symm.trans hid
    · obtain ⟨other, hother, hfound⟩ := ih (Bool.eq_false_iff.mpr hid) h
      exact ⟨other, List.mem_cons_of_mem _ hother, hfound⟩

/-- What the request of an operation was checked for. -/
theorem requestShape_eq_ok {input : Message} {entity : String} {stored : List Field}
    {request : RequestShape} (h : requestShape kind input entity stored = .ok request) :
    request = input.fields.foldl (RequestShape.add kind) {} ∧
      (needsId kind = true → request.hasId = true) ∧
      (writesFields kind = true → mismatch? stored request = none) := by
  rw [requestShape] at h
  split at h
  · cases h
  next hid =>
  have hid (hneeds : needsId kind = true) :
      (input.fields.foldl (RequestShape.add kind) {}).hasId = true := by
    simpa [hneeds] using hid
  split at h
  · split at h
    · cases h
    · next hmatches =>
      cases h
      exact ⟨rfl, hid, fun _ ↦ hmatches⟩
  · next hwrites =>
    cases h
    exact ⟨rfl, hid, fun hwrites' ↦ absurd hwrites' hwrites⟩

theorem mismatch?_eq_none {stored : List Field} {request : RequestShape} :
    mismatch? stored request = none ↔
      ∀ field ∈ request.fields, ∀ target, stored.find? (·.name = field.name) = some target →
        target.type = field.type := by
  rw [mismatch?, List.find?_eq_none]
  refine forall₂_congr fun field _ ↦ ?_
  cases stored.find? (·.name = field.name) <;> simp

end Requests

section Responses

variable {kind : MethodKind} {entityName : String} {descriptors : List Descriptor.Field}

theorem entityField_add (shape : ResponseShape) (descriptor : Descriptor.Field) :
    (shape.add kind entityName descriptor).entityField =
      shape.entityField.or
        (if carriesEntity kind entityName descriptor then some descriptor.name else none) := by
  unfold ResponseShape.add
  split
  · next hcarries => simp [hcarries]
  · next hcarries =>
    have hkept : shape.entityField = shape.entityField.or
        (if carriesEntity kind entityName descriptor then some descriptor.name else none) := by
      cases hfield : shape.entityField with
      | some name => rfl
      | none =>
        have hother : ¬carriesEntity kind entityName descriptor = true :=
          fun h ↦ hcarries ⟨h, hfield⟩
        simp [hother]
    rw [← hkept]
    split <;> try rfl
    split <;> rfl

/-- A response carries entities in the first field that can. -/
theorem entityField_foldl_add (shape : ResponseShape) :
    (descriptors.foldl (ResponseShape.add kind entityName) shape).entityField =
      shape.entityField.or
        ((descriptors.find? (carriesEntity kind entityName)).map (·.name)) := by
  induction descriptors generalizing shape with
  | nil => simp
  | cons descriptor rest ih =>
    rw [List.foldl_cons, ih, entityField_add, Option.or_assoc, List.find?_cons]
    cases carriesEntity kind entityName descriptor <;> simp

/-- A response is the entity itself, or its fields have been taken into account. -/
theorem responseShape_cases {output : Message} {outputName : String} {response : ResponseShape}
    (h : responseShape kind output outputName entityName = .ok response) :
    (outputName = entityName ∧ mayReturnEntity kind = true ∧ response = {}) ∨
      response = output.fields.foldl (ResponseShape.add kind entityName) {} ∧
        (kind ≠ .delete → response.entityField.isSome = true) := by
  rw [responseShape] at h
  split at h
  · next hown =>
    cases h
    exact .inl ⟨hown.1, hown.2, rfl⟩
  · dsimp only at h
    split at h
    · cases h
    · next hcarries =>
      cases h
      refine .inr ⟨rfl, fun hkind ↦ Option.ne_none_iff_isSome.mp fun hnone ↦ hcarries ?_⟩
      exact ⟨Option.isNone_iff_eq_none.mpr hnone, hkind⟩

/-- What the response of an operation was checked for. -/
theorem responseShape_eq_ok {output : Message} {outputName : String} {response : ResponseShape}
    (h : responseShape kind output outputName entityName = .ok response) (hkind : kind ≠ .delete) :
    (outputName = entityName ∧ mayReturnEntity kind = true ∧ response = {}) ∨
      ∃ descriptor ∈ output.fields, carriesEntity kind entityName descriptor = true ∧
        response.entityField = some descriptor.name := by
  refine (responseShape_cases h).imp_right fun ⟨hread, hsome⟩ ↦ ?_
  obtain ⟨name, hname⟩ := Option.isSome_iff_exists.mp (hsome hkind)
  have hfound := hname
  rw [hread, entityField_foldl_add, Option.none_or, Option.map_eq_some_iff] at hfound
  obtain ⟨descriptor, hfound, rfl⟩ := hfound
  exact ⟨descriptor, List.mem_of_find?_eq_some hfound, List.find?_some hfound, hname⟩

theorem carriesEntity_iff {descriptor : Descriptor.Field} :
    carriesEntity kind entityName descriptor = true ↔
      descriptor.type = .message ∧ descriptor.typeName = entityName ∧
        (descriptor.label = .repeated ↔ kind = .list) := by
  rw [carriesEntity, isSingular]
  cases descriptor.label <;> cases kind <;> simp

end Responses

end ProtoCrud.Schema
