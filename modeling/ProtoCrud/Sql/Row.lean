import ProtoCrud.Sql.Column

/-!
# Rows and the cursor that reads them

A row is read from left to right by a cursor. A read consumes one column whether or not its value
fits the type asked for; past the end it consumes nothing. So the `i`-th read depends only on the
`i`-th column.
-/

namespace ProtoCrud.Sql

/-- One result row, in the order of the select list. -/
structure Row where
  values : List Value
  deriving DecidableEq

/-- Why a row could not be decoded. -/
inductive RowError where
  /-- The row has no column at this index. -/
  | missingColumn (index : Nat)
  /-- The value at this index does not fit the type that was asked for. -/
  | typeMismatch (index : Nat) (expected : ColumnType) (found : Value)
  deriving DecidableEq

def RowError.message : RowError → String
  | .missingColumn index => "row has no column " ++ toString index
  | .typeMismatch index expected found =>
    "column " ++ toString index ++ ": expected " ++ expected.name ++ ", found " ++ found.describe

/-- The columns of a row that are still to be read, and how many were read before. -/
structure Cursor where
  index : Nat
  remaining : List Value
  deriving DecidableEq

def Row.cursor (row : Row) : Cursor :=
  ⟨0, row.values⟩

/-- Reads the next column as `type`. -/
def Cursor.take (cursor : Cursor) (type : ColumnType) :
    Except RowError type.Carrier × Cursor :=
  match cursor.remaining with
  | [] => (.error (.missingColumn cursor.index), cursor)
  | value :: rest =>
    ((type.read value).mapError (.typeMismatch cursor.index type), ⟨cursor.index + 1, rest⟩)

structure Datum where
  type : ColumnType
  datum : type.Carrier

/-- Reads columns in turn and stops at the first failure; columns behind the last type are left. -/
def Cursor.takeAll (cursor : Cursor) : List ColumnType → Except RowError (List Datum)
  | [] => .ok []
  | type :: types =>
    match cursor.take type with
    | (.error e, _) => .error e
    | (.ok datum, next) => (next.takeAll types).map (⟨type, datum⟩ :: ·)

end ProtoCrud.Sql
