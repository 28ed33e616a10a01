import ProtoCrud.Proofs.Generate.WellFormed
import ProtoCrud.Proofs.Handler.RowLayout

/-!
# Request fields as they are declared

What a create or an update does with a stored field is chosen by what its request has under the
name of the field. For a resolved entity this is what the message of the request declares there: a
field that one column can hold, with presence or without, of the type of the stored field.
-/

namespace ProtoCrud.Schema

def CrudMethod.input? (files : List Descriptor.File) (operation : CrudMethod) :
    Option Descriptor.Message :=
  (TypeIndex.ofFiles files).message? operation.method.input.fullName

theorem mem_columnFields {descriptors : List Descriptor.Field} {field : Field} :
    field ∈ columnFields descriptors ↔ ∃ descriptor ∈ descriptors,
      isAuditColumn descriptor.name = false ∧ Field.ofDescriptor descriptor = .ok field := by
  rw [columnFields, List.mem_filterMap]
  refine exists_congr fun descriptor ↦ and_congr_right fun _ ↦ ?_
  cases isAuditColumn descriptor.name with
  | true => simp
  | false => cases Field.ofDescriptor descriptor <;> simp [Except.toOption]

/-- Only a point in time has presence without being declared to have it. -/
theorem optional_ofDescriptor {descriptor : Descriptor.Field} {field : Field}
    (h : Field.ofDescriptor descriptor = .ok field) (htype : field.isTimestamp = false) :
    field.optional = descriptor.optional := by
  obtain ⟨-, -, type, -, rfl⟩ := ofDescriptor_eq_ok.mp h
  have hne : type ≠ .timestamp := by simpa [Field.isTimestamp] using htype
  simp [hne]

end ProtoCrud.Schema

namespace ProtoCrud.Handler

open Code (fieldIdentifier)
open Descriptor (Message)
open Schema Sql

/-- The declaration of a single field with presence. -/
def optionalField (name : String) (type : Descriptor.FieldType) (typeName : String) :
    Descriptor.Field :=
  ⟨name, .optional, type, typeName, true, true⟩

/-- A message declares a field that one column can hold, with presence or without. -/
def Declares (input : Message) (name : String) (optional : Bool) : Prop :=
  ∃ descriptor ∈ input.fields, descriptor.name = name ∧ MapsOntoColumn descriptor ∧
    descriptor.optional = optional

structure IsWritten (entity : Entity) (request : RequestShape) (input : Message) : Prop where
  fields_eq : request.fields = columnFields input.fields
  type_eq : ∀ field ∈ request.fields, ∀ target ∈ entity.fields, target.name = field.name →
    target.type = field.type
  isAuditColumn_eq_false : ∀ target ∈ entity.fields, isAuditColumn target.name = false

def HoldsFields (data : RequestData) (request : RequestShape) : Prop :=
  ∀ field ∈ request.fields, (data (fieldIdentifier field.name)).type = heldType field

theorem optionalIf_injective {type : ColumnType} (h : ∀ inner, type ≠ .optional inner)
    {optional other : Bool} (heq : optionalIf optional type = optionalIf other type) :
    optional = other := by
  cases optional <;> cases other
  · rfl
  · exact absurd heq (h _)
  · exact absurd heq.symm (h _)
  · rfl

theorem mem_storedFields {entity : Entity} {field : Field} :
    field ∈ storedFields entity ↔ field ∈ entity.fields ∧ field.isTimestamp = false := by
  rw [storedFields, List.mem_filter, Bool.not_eq_true']

section Requests

variable {entity : Entity} {request : RequestShape} {input : Message} {data : RequestData}
  {field inRequest : Field}

theorem requestField?_eq {kind : MethodKind} {operation : CrudMethod}
    (hoperation : entity.methods.at? kind = some operation) (name : String) :
    entity.requestField? kind name = operation.request.field? name := by
  rw [Entity.requestField?, Entity.request?, hoperation]
  rfl

theorem name_of_field? {name : String} (h : request.field? name = some inRequest) :
    inRequest.name = name := by
  simpa using List.find?_some h

/-- The type of the data of a request under the name of a field of the entity. -/
theorem IsWritten.type_eq_optionalIf (h : IsWritten entity request input)
    (hdata : HoldsFields data request) (hfield : field ∈ entity.fields)
    (hmem : inRequest ∈ request.fields) (hname : inRequest.name = field.name) :
    (data (fieldIdentifier field.name)).type =
      optionalIf inRequest.optional (fieldColumnType field.type) := by
  rw [← hname, hdata inRequest hmem, heldType, h.type_eq inRequest hmem field hfield hname.symm]

/-- The type of the data of a request for the field that the code looks up. -/
theorem IsWritten.type_eq_of_field? (h : IsWritten entity request input)
    (hdata : HoldsFields data request) (hfield : field ∈ entity.fields)
    (hfound : request.field? field.name = some inRequest) :
    (data (fieldIdentifier field.name)).type =
      optionalIf inRequest.optional (fieldColumnType field.type) :=
  h.type_eq_optionalIf hdata hfield (List.mem_of_find?_eq_some hfound) (name_of_field? hfound)

/-- A field of the declaration is one of the request, with the same presence. -/
theorem IsWritten.declares_iff_mem (h : IsWritten entity request input)
    (hfield : field ∈ storedFields entity) {optional : Bool} :
    Declares input field.name optional ↔
      ∃ inRequest ∈ request.fields, inRequest.name = field.name ∧
        inRequest.optional = optional := by
  obtain ⟨hfield, hstored⟩ := mem_storedFields.mp hfield
  have hkept {inRequest : Field} (hmem : inRequest ∈ request.fields)
      (hname : inRequest.name = field.name) : inRequest.isTimestamp = false := by
    rw [← hstored, Field.isTimestamp, Field.isTimestamp,
      h.type_eq inRequest hmem field hfield hname.symm]
  constructor
  · rintro ⟨descriptor, hdescriptor, hname, hcolumn, hoptional⟩
    obtain ⟨inRequest, hok⟩ := exists_ofDescriptor_iff.mpr hcolumn
    have hsame : inRequest.name = field.name := (column_ofDescriptor hok).1.trans hname
    have haudit : isAuditColumn descriptor.name = false :=
      hname ▸ h.isAuditColumn_eq_false field hfield
    have hmem : inRequest ∈ request.fields :=
      h.fields_eq ▸ mem_columnFields.mpr ⟨descriptor, hdescriptor, haudit, hok⟩
    exact ⟨inRequest, hmem, hsame,
      (optional_ofDescriptor hok (hkept hmem hsame)).trans hoptional⟩
  · rintro ⟨inRequest, hmem, hname, hoptional⟩
    obtain ⟨descriptor, hdescriptor, -, hok⟩ := mem_columnFields.mp (h.fields_eq ▸ hmem)
    exact ⟨descriptor, hdescriptor, (column_ofDescriptor hok).1.symm.trans hname,
      exists_ofDescriptor_iff.mp ⟨inRequest, hok⟩,
      (optional_ofDescriptor hok (hkept hmem hname)).symm.trans hoptional⟩

/-- The field that the code looks up for a stored field is the one that the message declares. -/
theorem IsWritten.declares_iff (h : IsWritten entity request input)
    (hdata : HoldsFields data request) (hfield : field ∈ storedFields entity) {optional : Bool} :
    Declares input field.name optional ↔
      ∃ inRequest, request.field? field.name = some inRequest ∧
        inRequest.optional = optional := by
  have hmember := (mem_storedFields.mp hfield).1
  rw [h.declares_iff_mem hfield]
  constructor
  · rintro ⟨inRequest, hmem, hname, rfl⟩
    have hfound : (request.field? field.name).isSome = true :=
      List.find?_isSome.mpr ⟨inRequest, hmem, by simpa using hname⟩
    obtain ⟨first, hfirst⟩ := Option.isSome_iff_exists.mp hfound
    refine ⟨first, hfirst, ?_⟩
    -- There is one datum for both, and its type tells whether it may be absent.
    have hheld := h.type_eq_optionalIf hdata hmember hmem hname
    rw [h.type_eq_of_field? hdata hmember hfirst] at hheld
    exact optionalIf_injective (fieldColumnType_ne_optional field.type) hheld
  · rintro ⟨inRequest, hfound, hoptional⟩
    exact ⟨inRequest, List.mem_of_find?_eq_some hfound, name_of_field? hfound, hoptional⟩

end Requests

section Resolved

variable {files : List Descriptor.File} {requested : List String} {schema : Resolution}
  {entity : Entity}

/-- No field of a resolved entity is an audit column. -/
theorem isAuditColumn_of_mem_fields (hschema : resolve files requested = .ok schema)
    (hentity : entity ∈ schema.entities) :
    ∀ field ∈ entity.fields, isAuditColumn field.name = false := by
  obtain ⟨message, -, hmessage⟩ := exists_message hschema hentity
  intro field hfield
  have hpair := List.mem_map_of_mem (f := fun field ↦ (field.name, field.isTimestamp)) hfield
  rw [names_of_forall₂ hmessage.fields] at hpair
  obtain ⟨descriptor, hdescriptor, heq⟩ := List.mem_map.mp hpair
  rw [← (Prod.mk.inj heq).1]
  simpa using (List.mem_filter.mp hdescriptor).2

/-- A create or an update of a resolved entity writes the fields of a message. -/
theorem exists_input (hschema : resolve files requested = .ok schema)
    (hentity : entity ∈ schema.entities) (hnames : (entity.fields.map (·.name)).Nodup)
    {kind : MethodKind} (hkind : kind ∈ [MethodKind.create, .update]) {operation : CrudMethod}
    (hoperation : entity.methods.at? kind = some operation) :
    ∃ input, operation.input? files = some input ∧ IsWritten entity operation.request input := by
  have hformed := operation_isWellFormed hschema hentity hoperation
  obtain ⟨input, hinput, hfields, -⟩ := hformed.request
  exact ⟨input, hinput, hfields, hformed.type_eq_of_nodup hkind hnames,
    isAuditColumn_of_mem_fields hschema hentity⟩

end Resolved

end ProtoCrud.Handler
