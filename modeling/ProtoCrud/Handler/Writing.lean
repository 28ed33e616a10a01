import ProtoCrud.Handler.Reading

/-!
# What generated code writes

A create binds one value to each stored column; an update assigns the columns that its request
carries. Both are plans: which request field, through which codec, or which default.
-/

namespace ProtoCrud.Handler

open Code (fieldIdentifier)
open Schema
open Sql (ColumnType)

inductive CreateValue where
  | null
  /-- The text of the first variant of an enum. -/
  | codecDefault (codec : String)
  /-- The default of a type. -/
  | typeDefault (type : ColumnType)
  /-- The text of an enum field of the request, or of the first variant if it is absent. -/
  | encodedOrDefault (codec field : String)
  /-- The text of an enum field of the request. -/
  | encoded (codec field : String)
  /-- A field of the request. -/
  | requested (field : String)
  deriving DecidableEq

def createValue (entity : Entity) (field : Field) (inRequest : Option Field) : CreateValue :=
  let name := fieldIdentifier field.name
  match inRequest, entity.codecOf? field with
  | none, codec =>
    if field.optional then .null
    else match codec with
      | some codec => .codecDefault codec
      | none => .typeDefault (fieldColumnType field.type)
  | some request, some codec =>
    if request.optional then .encodedOrDefault codec name else .encoded codec name
  | some _, none => .requested name

structure PresenceCheck where
  /-- The name of the field in messages. -/
  name : String
  /-- The identifier of the field. -/
  field : String
  deriving DecidableEq

/-- What a create does with its request. -/
structure CreatePlan where
  checks : List PresenceCheck
  values : List CreateValue
  /-- The field of the request that names the author. -/
  author : Option String
  /-- Whether the request is looked at. -/
  usesRequest : Bool
  deriving DecidableEq

def authorField? (request : RequestShape) (column : String) : Option String :=
  request.author.map fun _ ↦ fieldIdentifier column

def createPlan (entity : Entity) (request : RequestShape) : CreatePlan :=
  let classification := entity.classify
  { checks := classification.validated.map fun classified ↦
      ⟨classified.field.name, fieldIdentifier classified.field.name⟩
    values := classification.fields.map fun classified ↦
      createValue entity classified.field (request.field? classified.field.name)
    author := authorField? request "created_by"
    usesRequest := request.author.isSome || classification.fields.any fun classified ↦
      (request.field? classified.field.name).isSome }

/-- What an update assigns to a column. -/
inductive UpdateValue where
  /-- The text of an optional enum field; an absent one counts as number zero. -/
  | encodedOrZero (codec field : String)
  /-- The text of an enum field. -/
  | encoded (codec field : String)
  /-- An optional field, if it is present. -/
  | ifPresent (field : String)
  /-- A field. -/
  | requested (field : String)
  deriving DecidableEq

structure Assignment where
  column : String
  value : UpdateValue
  deriving DecidableEq

/-- The assignment of a field; a field that the request does not know is not assigned. -/
def assignment? (entity : Entity) (classified : ClassifiedField) : Option Assignment :=
  let name := fieldIdentifier classified.field.name
  let value : Option UpdateValue :=
    match classified.update, entity.codecOf? classified.field with
    | .excluded, _ => none
    | _, some codec =>
      some (if classified.updateOptional then .encodedOrZero codec name else .encoded codec name)
    | .optional, none => some (.ifPresent name)
    | _, none => some (.requested name)
  value.map fun value ↦ ⟨classified.field.column, value⟩

/-- What an update does with its request. -/
structure UpdatePlan where
  assignments : List Assignment
  /-- The field of the request that names the author. -/
  author : Option String
  deriving DecidableEq

def updatePlan (entity : Entity) (request : RequestShape) : UpdatePlan :=
  { assignments := entity.classify.fields.filterMap (assignment? entity)
    author := authorField? request "updated_by" }

end ProtoCrud.Handler
