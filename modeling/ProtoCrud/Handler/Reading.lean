import ProtoCrud.Code.Identifier
import ProtoCrud.Schema.Classification

/-!
# How generated code reads a row

The columns are read from left to right into locals, and the record is then put together from the
locals. A local is named after its field; the text of an enum is held under another name until it
is decoded. The name of the cursor must not be that of a local.
-/

namespace ProtoCrud.Handler

open Code (fieldIdentifier)
open Schema
open Sql (ColumnType)

structure ColumnRead where
  column : String
  /-- The identifier of the local. -/
  target : String
  type : ColumnType
  deriving DecidableEq

/-- What a field of the record is set to. -/
inductive FieldValue where
  /-- The local of the same name. -/
  | same
  /-- The local of the same name, or the default if it is absent. -/
  | orDefault
  /-- The number that a codec decodes from a local. -/
  | decoded (holder codec : String) (optional : Bool)
  deriving DecidableEq

structure FieldInit where
  /-- The identifier of the field. -/
  field : String
  value : FieldValue
  deriving DecidableEq

/-- The reading of a row. -/
structure RowReading where
  /-- The identifier of the cursor. -/
  cursor : String
  reads : List ColumnRead
  inits : List FieldInit
  /-- Whether the record has further fields, which are left at their defaults. -/
  hasRest : Bool
  deriving DecidableEq

def fieldColumnType (type : FieldType) : ColumnType :=
  match type with
  | .scalar scalar => scalar.columnType
  | .enum _ => .int32
  | .timestamp => .timestamp

/-- A type, or the optional type of it. -/
def optionalIf (optional : Bool) (type : ColumnType) : ColumnType :=
  if optional then .optional type else type

def auditColumnType : Sql.ColumnKind → ColumnType
  | .timestamp => .timestamp
  | _ => .text

def readTarget : ScanTarget → ColumnRead × Option FieldInit
  | .slot field =>
    let name := fieldIdentifier field.name
    (⟨field.column, name, optionalIf field.optional (fieldColumnType field.type)⟩,
      some ⟨name, .same⟩)
  | .enumHolder field holder codec =>
    (⟨field.column, holder, optionalIf field.optional .text⟩,
      some ⟨fieldIdentifier field.name, .decoded holder codec field.optional⟩)
  | .audit column kind none =>
    (⟨column, "_" ++ column, .optional (auditColumnType kind)⟩, none)
  | .audit column kind (some optional) =>
    let name := fieldIdentifier column
    if column = idColumn then (⟨column, name, auditColumnType kind⟩, some ⟨name, .same⟩)
    else
      (⟨column, name, .optional (auditColumnType kind)⟩,
        some ⟨name, if optional || kind = .timestamp then .same else .orDefault⟩)

/-- The name of the cursor: another one if a field has the usual one. -/
def cursorName (entity : Entity) : String :=
  if entity.fields.any (·.name = "columns") then "row_columns" else "columns"

def rowReading (entity : Entity) : RowReading :=
  let classification := entity.classify
  let targets := classification.scanTargets.map readTarget
  { cursor := cursorName entity
    reads := targets.map Prod.fst
    inits := targets.filterMap Prod.snd
    hasRest := !classification.skipped.isEmpty }

end ProtoCrud.Handler
