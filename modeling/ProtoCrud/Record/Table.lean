import ProtoCrud.Sql.Row

/-!
# Tables and the records they hold
-/

namespace ProtoCrud.Record

open Sql

/-- The table of an entity. -/
structure Table where
  /-- The name of the entity in messages. -/
  entity : String
  /-- The name of the table. -/
  name : String
  /-- The columns written on creation, besides the id and those the table keeps by itself. -/
  columns : List String
  /-- The columns of a select list. -/
  selected : List String
  /-- The shape of each selected column. -/
  shape : List ColumnKind
  /-- The columns that a list may be filtered or sorted on. -/
  filterable : List String
  deriving DecidableEq

structure Mapping (α : Type) where
  table : Table
  fromRow : Row → Except RowError α

end ProtoCrud.Record
