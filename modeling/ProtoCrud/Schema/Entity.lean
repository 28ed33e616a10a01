import ProtoCrud.Schema.Naming
import ProtoCrud.Sql.Column

/-!
# Entities and services

An entity is a message with operations, backed by one table. This module holds what is known of
an entity once all names in its schema have been resolved.
-/

namespace ProtoCrud.Schema

/-- The scalar types that map onto one column. -/
inductive ScalarType where
  | bool
  | int32
  | int64
  | uint32
  | uint64
  | float
  | double
  | string
  | bytes
  deriving DecidableEq

namespace ScalarType

def name : ScalarType → String
  | .bool => "bool"
  | .int32 => "int32"
  | .int64 => "int64"
  | .uint32 => "uint32"
  | .uint64 => "uint64"
  | .float => "float"
  | .double => "double"
  | .string => "string"
  | .bytes => "bytes"

/-- Types of which a value is present if it is not empty. -/
def isTextual : ScalarType → Bool
  | .string => true
  | .bytes => true
  | _ => false

def isInteger : ScalarType → Bool
  | .int32 => true
  | .int64 => true
  | .uint32 => true
  | .uint64 => true
  | _ => false

def columnType : ScalarType → Sql.ColumnType
  | .bool => .bool
  | .int32 => .int32
  | .int64 => .int64
  | .uint32 => .uint32
  | .uint64 => .uint64
  | .float => .single
  | .double => .double
  | .string => .text
  | .bytes => .bytes

/-- The shape in which a store returns a column of the type. -/
def columnKind : ScalarType → Sql.ColumnKind
  | .bool => .bool
  | .int32 => .int
  | .int64 => .int
  | .uint32 => .uint
  | .uint64 => .uint
  | .float => .float
  | .double => .float
  | .string => .text
  | .bytes => .bytes

end ScalarType

inductive FieldType where
  | scalar (type : ScalarType)
  /-- An enum, by its full name. -/
  | enum (name : String)
  | timestamp
  deriving DecidableEq

/-- The shape in which a store returns a column of the type; enums are stored as texts. -/
def FieldType.columnKind : FieldType → Sql.ColumnKind
  | .scalar type => type.columnKind
  | .enum _ => .text
  | .timestamp => .timestamp

structure Field where
  name : String
  /-- The column that stores the field. -/
  column : String
  type : FieldType
  optional : Bool
  deriving DecidableEq

namespace Field

def isEnum (field : Field) : Bool :=
  match field.type with
  | .enum _ => true
  | _ => false

/-- Whether the field holds a point in time. -/
def isTimestamp (field : Field) : Bool :=
  field.type = .timestamp

def enumName? (field : Field) : Option String :=
  match field.type with
  | .enum name => some name
  | _ => none

/-- Whether a value of the field is present if it is not empty. -/
def isTextual (field : Field) : Bool :=
  match field.type with
  | .scalar type => type.isTextual
  | _ => false

end Field

structure EnumVariant where
  name : String
  number : Int32
  /-- The text that stores the value. -/
  storage : String
  deriving DecidableEq

structure EnumDef where
  fullName : String
  /-- The path of the generated type below the module of its package. -/
  path : String
  /-- The values in the order of declaration; the first one is the default. -/
  variants : List EnumVariant
  deriving DecidableEq

/-- The type of a message, by its names. -/
structure TypeRef where
  fullName : String
  package : String
  /-- The path of the generated type below the module of its package. -/
  path : String
  deriving DecidableEq

structure Method where
  name : String
  /-- The operation that the method stands for. -/
  kind : Option MethodKind
  input : TypeRef
  output : TypeRef
  clientStreaming : Bool
  serverStreaming : Bool
  deriving DecidableEq

/-- What an operation reads from its request. -/
structure RequestShape where
  /-- The fields that are no audit columns, in the order of declaration. -/
  fields : List Field := []
  /-- Whether there is an id of type string. -/
  hasId : Bool := false
  /-- The field that carries the search of a list request. -/
  searchField : Option String := none
  /-- Whether the field that names the author is optional, if there is one. -/
  author : Option Bool := none
  deriving DecidableEq

def RequestShape.field? (shape : RequestShape) (name : String) : Option Field :=
  shape.fields.find? (·.name = name)

/-- What an operation fills in on its response. -/
structure ResponseShape where
  /-- The field that carries the entity, or the entities of a list. -/
  entityField : Option String := none
  total : Option ScalarType := none
  page : Option ScalarType := none
  pageSize : Option ScalarType := none
  /-- Whether there is a truth value that reports success. -/
  success : Bool := false
  /-- Whether there are further fields. -/
  hasOther : Bool := false
  deriving DecidableEq

structure CrudMethod where
  method : Method
  request : RequestShape
  response : ResponseShape
  deriving DecidableEq

/-- The audit columns that an entity declares, each with whether it is optional. -/
structure AuditFields where
  createdAt : Option Bool := none
  updatedAt : Option Bool := none
  createdBy : Option Bool := none
  updatedBy : Option Bool := none
  deriving DecidableEq

namespace AuditFields

/-- Whether an audit column is declared as optional; `none` if it is not declared. -/
def get (audit : AuditFields) (column : String) : Option Bool :=
  if column = "created_at" then audit.createdAt
  else if column = "updated_at" then audit.updatedAt
  else if column = "created_by" then audit.createdBy
  else if column = "updated_by" then audit.updatedBy
  else none

def declare (audit : AuditFields) (column : String) (optional : Bool) : AuditFields :=
  if column = "created_at" then { audit with createdAt := some optional }
  else if column = "updated_at" then { audit with updatedAt := some optional }
  else if column = "created_by" then { audit with createdBy := some optional }
  else if column = "updated_by" then { audit with updatedBy := some optional }
  else audit

end AuditFields

/-- At most one thing for each kind of operation. -/
structure Slots (α : Type) where
  create : Option α := none
  get : Option α := none
  update : Option α := none
  delete : Option α := none
  list : Option α := none
  deriving DecidableEq

namespace Slots

variable {α : Type}

def at? (slots : Slots α) : MethodKind → Option α
  | .create => slots.create
  | .get => slots.get
  | .update => slots.update
  | .delete => slots.delete
  | .list => slots.list

def fill (slots : Slots α) (kind : MethodKind) (content : α) : Slots α :=
  match kind with
  | .create => { slots with create := some content }
  | .get => { slots with get := some content }
  | .update => { slots with update := some content }
  | .delete => { slots with delete := some content }
  | .list => { slots with list := some content }

/-- The filled slots in canonical order. -/
def toList (slots : Slots α) : List (MethodKind × α) :=
  MethodKind.all.filterMap fun kind ↦ (slots.at? kind).map (kind, ·)

@[simp] theorem at?_fill (slots : Slots α) (kind other : MethodKind) (content : α) :
    (slots.fill kind content).at? other =
      if other = kind then some content else slots.at? other := by
  cases kind <;> cases other <;> rfl

end Slots

/-- A message with operations, backed by one table. -/
structure Entity where
  name : String
  package : String
  table : String
  /-- The fields that are no audit columns, in the order of declaration. -/
  fields : List Field
  audit : AuditFields
  methods : Slots CrudMethod
  /-- The enums of the fields, by their full names. -/
  enums : List (String × EnumDef)
  deriving DecidableEq

namespace Entity

def missingMethods (entity : Entity) : List MethodKind :=
  MethodKind.all.filter fun kind ↦ (entity.methods.at? kind).isNone

/-- Whether all five operations are declared. -/
def isComplete (entity : Entity) : Bool :=
  MethodKind.all.all fun kind ↦ (entity.methods.at? kind).isSome

end Entity

structure Service where
  name : String
  package : String
  /-- The methods in the order of declaration. -/
  methods : List Method
  /-- The names of methods with the names of the entities they work on. -/
  bindings : List (String × String)
  deriving DecidableEq

def Service.hasStreaming (service : Service) : Bool :=
  service.methods.any fun method ↦ method.clientStreaming || method.serverStreaming

end ProtoCrud.Schema
