import ProtoCrud.Schema.Failure
import ProtoCrud.Schema.TypeIndex

/-!
# Entities and the shapes of their requests and responses

Reading the descriptor of an entity and of the messages of its methods. An entity field must map
onto one column; a request field that does not is passed over, and a response is read only for the
fields that an operation can fill in.
-/

namespace ProtoCrud.Schema

open Descriptor (Message)

/-- The full name of the message for points in time. -/
def timestampName : String := ".google.protobuf.Timestamp"

/-- The full name of the message without fields. -/
def emptyName : String := ".google.protobuf.Empty"

/-- How the full name of a search message ends. -/
def searchEnding : String := ".SearchRequest"

def scalarType? : Descriptor.FieldType → Option ScalarType
  | .bool => some .bool
  | .int32 => some .int32
  | .sint32 => some .int32
  | .sfixed32 => some .int32
  | .int64 => some .int64
  | .sint64 => some .int64
  | .sfixed64 => some .int64
  | .uint32 => some .uint32
  | .fixed32 => some .uint32
  | .uint64 => some .uint64
  | .fixed64 => some .uint64
  | .float => some .float
  | .double => some .double
  | .string => some .string
  | .bytes => some .bytes
  | .enum => none
  | .message => none
  | .group => none

/-- Whether a field occurs at most once. -/
def isSingular (field : Descriptor.Field) : Bool :=
  field.label != .repeated

/-- The type of a field that maps onto one column. -/
def fieldType (field : Descriptor.Field) : Except Reason FieldType :=
  match field.type with
  | .enum => .ok (.enum field.typeName)
  | .message =>
    if field.typeName = timestampName then .ok .timestamp
    else .error (.messageField field.name field.typeName)
  | type =>
    match scalarType? type with
    | some scalar => .ok (.scalar scalar)
    | none => .error (.groupField field.name)

/-- A field that maps onto one column. -/
def Field.ofDescriptor (field : Descriptor.Field) : Except Reason Field :=
  if !isSingular field then .error (.repeatedField field.name)
  else if field.inOneof && !field.optional then .error (.oneofMember field.name)
  else (fieldType field).map fun type ↦
    ⟨field.name, field.name, type, field.optional || type = .timestamp⟩

/-- What the fields of an entity have told so far. -/
structure Fields where
  hasId : Bool := false
  audit : AuditFields := {}
  /-- The fields that are no audit columns. -/
  stored : List Field := []
  enums : List (String × EnumDef) := []

/-- A list of named enums with one more; a name that is there already keeps its place. -/
def declareEnum (enums : List (String × EnumDef)) (name : String) (definition : EnumDef) :
    List (String × EnumDef) :=
  if (enums.lookup name).isSome then enums else enums ++ [(name, definition)]

/-- Takes one more field of an entity into account. -/
def Fields.add (index : TypeIndex) (fields : Fields) (field : Field) : Except Reason Fields :=
  if field.name = idColumn then
    if field.type = .scalar .string ∧ !field.optional then .ok { fields with hasId := true }
    else .error .idNotString
  else if field.name = "created_at" ∨ field.name = "updated_at" then
    if field.isTimestamp then
      .ok { fields with audit := fields.audit.declare field.name field.optional }
    else .error (.notTimestamp field.name)
  else if field.name = "created_by" ∨ field.name = "updated_by" then
    if field.type = .scalar .string then
      .ok { fields with audit := fields.audit.declare field.name field.optional }
    else .error (.notString field.name)
  else
    match field.enumName? with
    | none => .ok { fields with stored := fields.stored ++ [field] }
    | some name =>
      match index.enum? name with
      | none => .error (.enumNotFound name field.name)
      | some definition =>
        if definition.variants.isEmpty then .error (.enumWithoutValues name)
        else .ok { fields with
          stored := fields.stored ++ [field]
          enums := declareEnum fields.enums name definition }

/-- Takes the fields of an entity into account, in order. -/
def Fields.addAll (index : TypeIndex) (fields : Fields) :
    List Descriptor.Field → Except Reason Fields
  | [] => .ok fields
  | descriptor :: rest => do
    let field ← Field.ofDescriptor descriptor
    let next ← fields.add index field
    next.addAll index rest

/-- The audit column that names the author of an operation of the kind. -/
def authorColumn? : MethodKind → Option String
  | .create => some "created_by"
  | .update => some "updated_by"
  | _ => none

/-- Takes one more field of a request into account. -/
def RequestShape.add (kind : MethodKind) (shape : RequestShape) (field : Descriptor.Field) :
    RequestShape :=
  let isString : Bool := field.type = .string && isSingular field
  if field.name = idColumn then { shape with hasId := isString }
  else if authorColumn? kind = some field.name ∧ isString then
    { shape with author := some field.optional }
  else if field.type = .message ∧ isSingular field ∧
      (Text.beforeEnd? searchEnding.toList field.typeName.toList).isSome then
    { shape with searchField := some field.name }
  else if isAuditColumn field.name then shape
  else
    match Field.ofDescriptor field with
    | .ok converted => { shape with fields := shape.fields ++ [converted] }
    | .error _ => shape

/-- Operations that address a row by its id. -/
def needsId : MethodKind → Bool
  | .get => true
  | .update => true
  | .delete => true
  | _ => false

/-- Operations that write the fields of their request. -/
def writesFields : MethodKind → Bool
  | .create => true
  | .update => true
  | _ => false

/-- The first request field whose type differs from that of the entity field of the same name. -/
def mismatch? (stored : List Field) (shape : RequestShape) : Option Field :=
  shape.fields.find? fun field ↦
    (stored.find? (·.name = field.name)).any fun target ↦ target.type != field.type

def requestShape (kind : MethodKind) (input : Message) (entity : String) (stored : List Field) :
    Except Reason RequestShape :=
  let shape := input.fields.foldl (RequestShape.add kind) {}
  if needsId kind && !shape.hasId then .error (.requestWithoutId input.name)
  else if writesFields kind then
    match mismatch? stored shape with
    | some field => .error (.typeMismatch input.name field.name entity)
    | none => .ok shape
  else .ok shape

def integerType? (field : Descriptor.Field) : Option ScalarType :=
  if isSingular field && !field.optional then
    (scalarType? field.type).filter ScalarType.isInteger
  else none

/-- Whether a field carries entities: many of them in a list, one elsewhere. -/
def carriesEntity (kind : MethodKind) (entityName : String) (field : Descriptor.Field) : Bool :=
  field.type = .message && field.typeName = entityName && (isSingular field != (kind = .list))

/-- Takes one more field of a response into account. -/
def ResponseShape.add (kind : MethodKind) (entityName : String) (shape : ResponseShape)
    (field : Descriptor.Field) : ResponseShape :=
  if carriesEntity kind entityName field ∧ shape.entityField = none then
    { shape with entityField := some field.name }
  else
    match field.name, integerType? field with
    | "total", some type => { shape with total := some type }
    | "page", some type => { shape with page := some type }
    | "page_size", some type => { shape with pageSize := some type }
    | name, _ =>
      if name = "success" ∧ field.type = .bool ∧ isSingular field then
        { shape with success := true }
      else { shape with hasOther := true }

/-- Operations that may answer with the entity itself. -/
def mayReturnEntity : MethodKind → Bool
  | .create => true
  | .get => true
  | .update => true
  | _ => false

def lastPart (fullName : String) : String :=
  match Text.splitLast? '.' fullName.toList with
  | some (_, name) => String.ofList name
  | none => fullName

def responseShape (kind : MethodKind) (output : Message) (outputName entityName : String) :
    Except Reason ResponseShape :=
  if outputName = entityName ∧ mayReturnEntity kind then .ok {}
  else
    let shape := output.fields.foldl (ResponseShape.add kind entityName) {}
    if shape.entityField.isNone ∧ kind ≠ .delete then
      .error (.responseWithoutEntity output.name (lastPart entityName))
    else .ok shape

/-- The message without fields, which schemas refer to without declaring it. -/
def emptyMessage : Message :=
  .mk "Empty" [] [] []

/-- An operation with the shapes of its request and response. -/
def crudMethod (index : TypeIndex) (entity entityName : String) (stored : List Field)
    (kind : MethodKind) (method : Method) : Except Reason CrudMethod := do
  let input ← match index.message? method.input.fullName with
    | some message => .ok message
    | none => .error (.requestNotFound method.input.fullName)
  let output ← match index.message? method.output.fullName with
    | some message => .ok message
    | none =>
      if method.output.fullName = emptyName then .ok emptyMessage
      else .error (.responseNotFound method.output.fullName)
  let request ← requestShape kind input entity stored
  let response ← responseShape kind output method.output.fullName entityName
  pure ⟨method, request, response⟩

/-- The operations of an entity with their shapes, in canonical order. -/
def crudMethods (index : TypeIndex) (entity entityName : String) (stored : List Field) :
    List (MethodKind × Method) → Except Reason (Slots CrudMethod)
  | [] => .ok {}
  | (kind, method) :: rest => do
    let first ← crudMethod index entity entityName stored kind method
    let others ← crudMethods index entity entityName stored rest
    pure (others.fill kind first)

/-- The entity that a message of a package stands for, with the given operations. -/
def resolveEntity (index : TypeIndex) (package name : String) (methods : Slots Method) :
    Except Reason Entity := do
  let fullName := qualified (packageScope package) name
  let message ← match index.message? fullName with
    | some message => .ok message
    | none => .error .undefined
  let fields ← ({} : Fields).addAll index message.fields
  if !fields.hasId then .error .noId
  let operations ← crudMethods index name fullName fields.stored methods.toList
  pure
    { name, package, table := name
      fields := fields.stored
      audit := fields.audit
      methods := operations
      enums := fields.enums }

end ProtoCrud.Schema
