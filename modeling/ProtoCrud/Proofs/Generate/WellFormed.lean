import ProtoCrud.Proofs.Generate.CodecNames
import ProtoCrud.Proofs.Schema.Marking
import ProtoCrud.Proofs.Schema.MessageShape

/-!
# Resolved entities are well formed

The code of an entity is generated without another look at the descriptors. All that it takes for
granted about the message, its enums and the messages of its operations holds for every entity of a
resolved schema, whatever the descriptors are like.
-/

namespace ProtoCrud.Schema

open Descriptor (File Message)

def Entity.fullName (entity : Entity) : String :=
  qualified (packageScope entity.package) entity.name

/-- A response is read for its field of the type of an entity, which is repeated or is not. -/
def CrudMethod.CarriesEntity (operation : CrudMethod) (index : TypeIndex) (entity : Entity)
    (repeats : Prop) : Prop :=
  ∃ output, index.message? operation.method.output.fullName = some output ∧
    ∃ descriptor ∈ output.fields, operation.response.entityField = some descriptor.name ∧
      descriptor.type = .message ∧ descriptor.typeName = entity.fullName ∧
      (descriptor.label = .repeated ↔ repeats)

/-- What the code of an operation takes for granted about its messages. -/
structure CrudMethod.IsWellFormed (index : TypeIndex) (entity : Entity) (kind : MethodKind)
    (operation : CrudMethod) : Prop where
  kind_eq : operation.method.kind = some kind
  /-- The request is declared, with the id of a row where the operation is on one that exists. -/
  request : ∃ input, index.message? operation.method.input.fullName = some input ∧
    operation.request.fields = columnFields input.fields ∧
    (kind ∈ [MethodKind.get, .update, .delete] → operation.request.hasId = true ∧
      ∃ descriptor ∈ input.fields, descriptor.name = idColumn ∧ descriptor.type = .string ∧
        descriptor.label ≠ .repeated)
  /-- What is written to a field has the type of the first field of that name. -/
  type_eq : kind ∈ [MethodKind.create, .update] → ∀ field ∈ operation.request.fields, ∀ target,
    entity.fields.find? (·.name = field.name) = some target → target.type = field.type
  /-- Without two fields of one name there is but one field that it can be written to. -/
  type_eq_of_nodup : kind ∈ [MethodKind.create, .update] → (entity.fields.map (·.name)).Nodup →
    ∀ field ∈ operation.request.fields, ∀ target ∈ entity.fields,
      target.name = field.name → target.type = field.type
  response_entity : kind ∈ [MethodKind.create, .get, .update] →
    operation.method.output.fullName = entity.fullName ∨
      operation.CarriesEntity index entity False
  response_entities : kind = .list → operation.CarriesEntity index entity True

/-- The response of an operation other than a delete was found to carry what it answers with. -/
theorem returns_or_carriesEntity {index : TypeIndex} {entity : Entity} {kind : MethodKind}
    {operation : CrudMethod} {output : Message} (hkind : kind ≠ .delete)
    (houtput : index.IsResponse operation.method.output.fullName output)
    (hresponse : responseShape kind output operation.method.output.fullName entity.fullName =
      .ok operation.response) :
    (operation.method.output.fullName = entity.fullName ∧ kind ≠ .list) ∨
      operation.CarriesEntity index entity (kind = .list) := by
  rcases responseShape_eq_ok hresponse hkind with
    ⟨hown, hmay, -⟩ | ⟨descriptor, hmem, hcarries, hread⟩
  · refine .inl ⟨hown, ?_⟩
    rintro rfl
    cases hmay
  · rcases houtput with houtput | ⟨-, -, rfl⟩
    · exact .inr ⟨output, houtput, descriptor, hmem, hread, carriesEntity_iff.mp hcarries⟩
    · cases hmem

/-- An operation that could be resolved is well formed for a method of its kind. -/
theorem isWellFormed_of_crudMethod {index : TypeIndex} {entity : Entity} {kind : MethodKind}
    {method : Method} {operation : CrudMethod}
    (h : crudMethod index entity.name entity.fullName entity.fields kind method = .ok operation)
    (hkind : method.kind = some kind) : operation.IsWellFormed index entity kind := by
  obtain ⟨input, output, hinput, houtput, hrequest, hresponse, rfl⟩ := crudMethod_messages h
  obtain ⟨hshape, hid, hmatches⟩ := requestShape_eq_ok hrequest
  have hanswer (hdelete : kind ≠ .delete) := returns_or_carriesEntity hdelete houtput hresponse
  have hfirst (hwrites : kind ∈ [MethodKind.create, .update]) : ∀ field ∈ operation.request.fields,
      ∀ target, entity.fields.find? (·.name = field.name) = some target →
        target.type = field.type :=
    mismatch?_eq_none.mp (hmatches (writesFields_iff.mpr hwrites))
  refine ⟨hkind, ⟨input, hinput, ?_, fun haddresses ↦ ?_⟩, hfirst, ?_, fun hreturns ↦ ?_,
    fun hlist ↦ ?_⟩
  · rw [hshape, fields_foldl_add, List.nil_append]
  · have hgiven : operation.request.hasId = true := hid (needsId_iff.mpr haddresses)
    refine ⟨hgiven, ?_⟩
    rw [hshape] at hgiven
    exact exists_id_of_hasId rfl hgiven
  · intro hwrites hnodup field hfield target htarget hname
    exact hfirst hwrites field hfield target
      ((find?_name_eq_some_iff hnodup).mpr ⟨htarget, hname⟩)
  · have hne : kind ≠ .delete ∧ kind ≠ .list := by
      constructor <;> rintro rfl <;> simp at hreturns
    have hcarries := (hanswer hne.1).imp_left And.left
    rwa [eq_false hne.2] at hcarries
  · obtain ⟨-, hother⟩ | hcarries := hanswer (hlist ▸ nofun)
    · exact absurd hlist hother
    · rwa [eq_true hlist] at hcarries

/-- What the code of an entity takes for granted about its declaration. -/
structure Entity.IsWellFormed (files : List File) (entity : Entity) : Prop where
  /-- The fields are those of a message, all of which one column can hold. -/
  message : ∃ message, entity.message? files = some message ∧
    entity.HasFieldsOf message.fields ∧
    ∀ descriptor ∈ message.fields, MapsOntoColumn descriptor ∧
      (descriptor.name = idColumn → IsPlainText descriptor)
  /-- An enum field has an enum with values, and a codec that is defined. -/
  enums : ∀ field ∈ entity.fields, ∀ name, field.type = .enum name →
    (∃ definition, entity.enums.lookup name = some definition ∧
      (TypeIndex.ofFiles files).enum? name = some definition ∧ definition.variants ≠ []) ∧
    ∃ codec, entity.codecOf? field = some codec ∧
      codec ∈ (Generate.codecs entity).map Prod.fst
  /-- No codec that is defined is empty. -/
  codecs_ne_nil : ∀ codec ∈ Generate.codecs entity, codec.2.variants ≠ []
  exists_operation : ∃ kind operation, entity.methods.at? kind = some operation
  operations : ∀ kind operation, entity.methods.at? kind = some operation →
    operation.IsWellFormed (TypeIndex.ofFiles files) entity kind

section Schemas

variable {files : List File} {requested : List String} {schema : Resolution} {entity : Entity}

/-- The descriptors of an entity were all checked. -/
theorem exists_checkedMessage (h : resolve files requested = .ok schema)
    (hentity : entity ∈ schema.entities) :
    ∃ message, entity.message? files = some message ∧ entity.HasFieldsOf message.fields ∧
      ∀ descriptor ∈ message.fields, MapsOntoColumn descriptor ∧
        (descriptor.name = idColumn → IsPlainText descriptor) := by
  obtain ⟨package, name, methods, hresolve⟩ := exists_resolveEntity h hentity
  obtain ⟨message, fields, _, hmessage, hfields, -, -, rfl⟩ := resolveEntity_cases hresolve
  exact ⟨message, hmessage, hasFieldsOf_of_resolveEntity hresolve hmessage,
    Fields.addAll_forall hfields⟩

/-- Every codec that the code of an entity defines is that of an enum with values. -/
theorem codecs_ne_nil (h : resolve files requested = .ok schema)
    (hentity : entity ∈ schema.entities) :
    ∀ codec ∈ Generate.codecs entity, codec.2.variants ≠ [] := by
  intro codec hcodec
  rw [Generate.codecs_eq, List.mem_filterMap] at hcodec
  obtain ⟨name, -, hfound⟩ := hcodec
  obtain ⟨definition, hdefinition, rfl⟩ := Option.map_eq_some_iff.mp hfound
  obtain ⟨field, -, enumName, -, -, hlookup⟩ :=
    Generate.mem_namedEnums.mp (mem_of_lookup hdefinition)
  exact (resolve_enums h hentity _ (mem_of_lookup hlookup)).2

/-- Every entity of a resolved schema has an operation. -/
theorem exists_operation (h : resolve files requested = .ok schema)
    (hentity : entity ∈ schema.entities) :
    ∃ kind operation, entity.methods.at? kind = some operation := by
  obtain ⟨targets, walk, services, -, hwalk, hentities, -⟩ := resolve_cases h
  have hwalked := walked_walkFiles (keepsNames_ofFiles files) targets
  rw [hwalk] at hwalked
  obtain ⟨package, name, hmem, hresolve⟩ := exists_of_mem_resolveEntities (hentities ▸ hentity)
  rw [Walk.entities, List.mem_eraseDups] at hmem
  obtain ⟨⟨_, _, kind, method⟩, hplace, heq⟩ := List.mem_map.mp hmem
  obtain ⟨rfl, rfl⟩ := Prod.mk.inj heq
  have hperforms : entity.Performs kind method :=
    (performs_iff_at? hresolve).mpr ((at?_methodsOf hwalked.nodup_keys).mpr hplace)
  obtain ⟨operation, hoperation, -⟩ := hperforms
  exact ⟨kind, operation, hoperation⟩

/-- Every operation of a resolved entity is well formed. -/
theorem operation_isWellFormed (h : resolve files requested = .ok schema)
    (hentity : entity ∈ schema.entities) {kind : MethodKind} {operation : CrudMethod}
    (hoperation : entity.methods.at? kind = some operation) :
    operation.IsWellFormed (TypeIndex.ofFiles files) entity kind := by
  obtain ⟨targets, _, _, htargets, -, -, -⟩ := resolve_cases h
  have hmarked : operation.method.kind = some kind :=
    ((resolve_reflects h htargets).performs_iff entity hentity kind operation.method).mp
      ⟨operation, hoperation, rfl⟩ |>.2.1
  obtain ⟨package, name, methods, hresolve⟩ := exists_resolveEntity h hentity
  obtain ⟨_, fields, operations, -, -, -, hoperations, rfl⟩ := resolveEntity_cases hresolve
  obtain ⟨method, -, hmade⟩ := crudMethods_at? hoperations hoperation
  obtain ⟨_, -, -, hmethod⟩ := crudMethod_cases hmade
  exact isWellFormed_of_crudMethod hmade (hmethod ▸ hmarked)

/--
Every entity of a resolved schema is well formed, and no two of them have the same name and
package.
-/
theorem resolve_isWellFormed (h : resolve files requested = .ok schema) :
    (∀ entity ∈ schema.entities, entity.IsWellFormed files) ∧
      (schema.entities.map Entity.key).Nodup := by
  refine ⟨fun entity hentity ↦ ?_, nodup_keys h⟩
  refine ⟨exists_checkedMessage h hentity, fun field hfield name htype ↦ ?_,
    codecs_ne_nil h hentity, exists_operation h hentity,
    fun kind operation ↦ operation_isWellFormed h hentity⟩
  refine ⟨Generate.exists_enum h hentity hfield htype, ?_⟩
  obtain ⟨codec, hcodec, -, hdefined⟩ := Generate.exists_codec h hentity hfield htype
  refine ⟨codec, ?_, List.count_pos_iff.mp (by rw [hdefined]; decide)⟩
  rw [Entity.codecOf?, enumName?_eq_some.mpr htype, Option.bind_some, hcodec]

end Schemas

/--
A file with tickets in stages. One message is the request of all operations, with a list of labels
that no column holds, and the responses carry a ticket in all the ways there are.
-/
def ticketFile : File where
  name := "tickets.proto"
  package := "shop"
  messages :=
    [.mk "Ticket"
        [plainField "id" .string "", plainField "title" .string "",
          plainField "stage" .enum ".shop.Stage", plainField "due" .message timestampName,
          plainField "created_by" .string ""] [] [],
      .mk "TicketRequest"
        [plainField "id" .string "", ⟨"labels", .repeated, .string, "", false, false⟩,
          plainField "title" .string "", plainField "stage" .enum ".shop.Stage"] [] [],
      .mk "TicketAnswer" [plainField "ticket" .message ".shop.Ticket"] [] [],
      .mk "TicketList"
        [⟨"tickets", .repeated, .message, ".shop.Ticket", false, false⟩,
          plainField "total" .int32 ""] [] []]
  enums := [⟨"Stage", [⟨"STAGE_NEW", 0⟩, ⟨"STAGE_DONE", 1⟩]⟩]
  services :=
    [⟨"Tickets",
      [⟨"CreateTicket", ".shop.TicketRequest", ".shop.Ticket", false, false⟩,
        ⟨"UpdateTicket", ".shop.TicketRequest", ".shop.TicketAnswer", false, false⟩,
        ⟨"DeleteTicket", ".shop.TicketRequest", emptyName, false, false⟩,
        ⟨"ListTickets", ".shop.TicketRequest", ".shop.TicketList", false, false⟩]⟩]

/-- Tickets are resolved, with all operations but one, and well formed. -/
theorem isWellFormed_ticket :
    ∃ schema entity, resolve [ticketFile] ["tickets.proto"] = .ok schema ∧
      schema.entities = [entity] ∧ entity.name = "Ticket" ∧ entity.missingMethods = [.get] ∧
      entity.IsWellFormed [ticketFile] := by
  have hread : (resolve [ticketFile] ["tickets.proto"]).toOption.map (fun schema ↦
      schema.entities.map fun entity ↦ (entity.name, entity.missingMethods)) =
      some [("Ticket", [.get])] := by
    decide +kernel
  obtain ⟨schema, entity, hschema, hentity, hparts⟩ := exists_entity hread
  obtain ⟨hname, hmissing⟩ := Prod.mk.inj hparts
  have hmem : entity ∈ schema.entities := hentity ▸ List.mem_cons_self
  exact ⟨schema, entity, hschema, hentity, hname, hmissing,
    (resolve_isWellFormed hschema).1 entity hmem⟩

/-- A create and an update only have fields of the types of all fields of the same names. -/
def Entity.RequestTypesMatch (index : TypeIndex) (entity : Entity) : Prop :=
  ∀ kind ∈ [MethodKind.create, .update], ∀ operation, entity.methods.at? kind = some operation →
    ∀ input, index.message? operation.method.input.fullName = some input →
      ∀ descriptor ∈ input.fields, ∀ target ∈ entity.fields, target.name = descriptor.name →
        ∃ field, Field.ofDescriptor descriptor = .ok field ∧ field.type = target.type

def thingsFile (stored requested : List Descriptor.Field) : File where
  name := "things.proto"
  package := "shop"
  messages :=
    [.mk "Thing" (plainField "id" .string "" :: stored) [] [],
      .mk "CreateThingRequest" requested [] []]
  enums := []
  services :=
    [⟨"Things", [⟨"CreateThing", ".shop.CreateThingRequest", ".shop.Thing", false, false⟩]⟩]

/-- Two fields of one name and a request with a field of that name and of the type of the first. -/
def twinFile : File :=
  thingsFile [plainField "title" .string "", plainField "title" .int32 ""]
    [plainField "title" .string ""]

/-- A text, and a request with a list of texts of the same name. -/
def listFile : File :=
  thingsFile [plainField "title" .string ""] [⟨"title", .repeated, .string, "", false, false⟩]

/-- An entity of things whose creates have a field of another type. -/
theorem exists_not_requestTypesMatch {stored requested : List Descriptor.Field}
    (fields : List Field)
    (hread : (resolve [thingsFile stored requested] ["things.proto"]).toOption.map (fun schema ↦
      schema.entities.map fun entity ↦
        (entity.fields, (entity.methods.at? .create).map (·.method.input.fullName))) =
      some [(fields, some ".shop.CreateThingRequest")])
    (descriptor : Descriptor.Field) (hdescriptor : descriptor ∈ requested) (target : Field)
    (htarget : target ∈ fields) (hname : target.name = descriptor.name)
    (htype : (Field.ofDescriptor descriptor).toOption.map (·.type) ≠ some target.type) :
    ∃ schema, resolve [thingsFile stored requested] ["things.proto"] = .ok schema ∧
      ∃ entity ∈ schema.entities,
        ¬entity.RequestTypesMatch (TypeIndex.ofFiles [thingsFile stored requested]) := by
  obtain ⟨schema, entity, hschema, hentity, hparts⟩ := exists_entity hread
  obtain ⟨rfl, hcreate⟩ := Prod.mk.inj hparts
  obtain ⟨operation, hoperation, hinput⟩ := Option.map_eq_some_iff.mp hcreate
  have hmessage : (TypeIndex.ofFiles [thingsFile stored requested]).message?
      operation.method.input.fullName = some (.mk "CreateThingRequest" requested [] []) := by
    rw [hinput]
    rfl
  refine ⟨schema, hschema, entity, hentity ▸ List.mem_cons_self, fun hmatch ↦ htype ?_⟩
  obtain ⟨field, hfield, hsame⟩ := hmatch .create (by decide) operation hoperation _ hmessage
    descriptor hdescriptor target htarget hname
  rw [hfield, Except.toOption, Option.map_some, hsame]

/--
A request may have a field of another type than a field of the same name: if that is not the first
field of the name, and if the request field has no column and is passed over.
-/
theorem not_requestTypesMatch :
    (∃ schema, resolve [twinFile] ["things.proto"] = .ok schema ∧
      ∃ entity ∈ schema.entities, ¬entity.RequestTypesMatch (TypeIndex.ofFiles [twinFile])) ∧
    ∃ schema, resolve [listFile] ["things.proto"] = .ok schema ∧
      ∃ entity ∈ schema.entities, ¬entity.RequestTypesMatch (TypeIndex.ofFiles [listFile]) := by
  let text : Field := ⟨"title", "title", .scalar .string, false⟩
  let number : Field := ⟨"title", "title", .scalar .int32, false⟩
  constructor
  · exact exists_not_requestTypesMatch [text, number] (by decide +kernel)
      (plainField "title" .string "") List.mem_cons_self number (by decide) rfl (by decide)
  · exact exists_not_requestTypesMatch [text] (by decide +kernel)
      ⟨"title", .repeated, .string, "", false, false⟩ List.mem_cons_self text
      List.mem_cons_self rfl (by decide)

end ProtoCrud.Schema
