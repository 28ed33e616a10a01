import ProtoCrud.Query.Filter
import ProtoCrud.Query.Search
import ProtoCrud.Record.Session
import ProtoCrud.Record.Table

/-!
# The five operations on records

Each operation checks its input before it touches the store, wraps the failures of the store with
the entity and the action, and answers with the row as it is stored, not as it was sent. A write
is followed by a read of the same row.
-/

namespace ProtoCrud.Record

open Sql Query

structure NewRow where
  /-- Fields that must be present, each with whether it is. -/
  required : List (String × Bool)
  /-- A value for each writable column, in order. -/
  values : List Value
  createdBy : Value

structure Changes where
  /-- Columns with their new values, in the order in which they were set. -/
  assignments : List (String × Value)
  updatedBy : Value

variable {α : Type}

def Table.insertion (table : Table) : Statement :=
  .insert table.name
    (("id", .bound) :: table.columns.map (·, .bound) ++
      [("created_by", .bound), ("created_at", .now), ("updated_at", .now)])

def Table.alteration (table : Table) (columns : List String) : Statement :=
  .update table.name
    (columns.map (·, .bound) ++ [("updated_by", .bound), ("updated_at", .now)])

def Table.condition (table : Table) (criteria : List Criterion) : List Predicate :=
  predicates (some table.filterable) criteria

def Mapping.decode (mapping : Mapping α) (row : Row) : Except OperationError α :=
  (mapping.fromRow row).mapError (.scan mapping.table.entity)

/-- Decodes rows in order, up to the first one that does not decode. -/
def Mapping.decodeAll (mapping : Mapping α) : List Row → Except OperationError (List α)
  | [] => .ok []
  | row :: rows =>
    match mapping.decode row with
    | .error e => .error e
    | .ok record => (mapping.decodeAll rows).map (record :: ·)

def get (mapping : Mapping α) (id : String) : Session (Except OperationError α) :=
  let table := mapping.table
  if id = "" then .done (.error (.required "id"))
  else
    .fetchOptional ⟨.select table.name table.selected, [.text id]⟩ table.shape fun
      | .error e => .done (.error (.storage table.entity .get e))
      | .ok none => .done (.error (.notFound table.entity))
      | .ok (some row) => .done (mapping.decode row)

/-- The result of a create, from that of the read behind it: the new row cannot be missing. -/
def afterInsert (table : Table) : Except OperationError α → Except OperationError α
  | .error (.notFound _) =>
    .error (.storage table.entity .readBack (.backend "row missing after insert"))
  | result => result

/-- Adds a row under a fresh id and returns it as it is stored. -/
def create (mapping : Mapping α) (row : NewRow) : Session (Except OperationError α) :=
  let table := mapping.table
  match require row.required with
  | .error e => .done (.error e)
  | .ok () =>
    .freshId fun id ↦
      .execute ⟨table.insertion, .text id :: row.values ++ [row.createdBy]⟩ fun
        | .error (.uniqueViolation _) => .done (.error (.alreadyExists table.entity))
        | .error e => .done (.error (.storage table.entity .create e))
        | .ok _ => (get mapping id).map (afterInsert table)

/-- Changes columns of a row and returns the row as it is stored. -/
def update (mapping : Mapping α) (id : String) (changes : Changes) :
    Session (Except OperationError α) :=
  let table := mapping.table
  if id = "" then .done (.error (.required "id"))
  else if changes.assignments.isEmpty then .done (.error .nothingToUpdate)
  else
    .execute ⟨table.alteration (changes.assignments.map Prod.fst),
        changes.assignments.map Prod.snd ++ [changes.updatedBy, .text id]⟩ fun
      | .error e => .done (.error (.storage table.entity .update e))
      | .ok _ => get mapping id

/-- Removes a row. -/
def delete (mapping : Mapping α) (id : String) : Session (Except OperationError Unit) :=
  let table := mapping.table
  if id = "" then .done (.error (.required "id"))
  else
    .execute ⟨.delete table.name, [.text id]⟩ fun
      | .error e => .done (.error (.storage table.entity .delete e))
      | .ok affected => .done (if affected = 0 then .error (.notFound table.entity) else .ok ())

/-- The total in the answer to a count; no row at all counts as nothing. -/
def readTotal (table : Table) : Option Row → Except OperationError Int64
  | none => .ok 0
  | some row => (row.cursor.take .int64).1.mapError (.scan table.entity)

/--
Fetches one page of the rows that satisfy the criteria. The count and the page are taken under the
same condition, so the total always describes the rows of which the page is a part.
-/
def list (mapping : Mapping α) (query : ListQuery) : Session (Except OperationError (Page α)) :=
  let table := mapping.table
  let page := query.pagination
  let condition := table.condition query.filters
  let args := (Predicate.allOperands condition).map Value.text
  .fetchOptional ⟨.count table.name condition, args⟩ [.int] fun
    | .error e => .done (.error (.storage table.entity .count e))
    | .ok row =>
      match readTotal table row with
      | .error e => .done (.error e)
      | .ok total =>
        .fetchAll
          ⟨.page table.name table.selected condition (page.sortColumn table.filterable)
              page.direction,
            args ++ [.int page.pageSize.toInt64, .int page.offset]⟩
          table.shape fun
            | .error e => .done (.error (.storage table.entity .list e))
            | .ok rows =>
              .done <| (mapping.decodeAll rows).map fun items ↦
                ⟨items, total, page.page, page.pageSize⟩

end ProtoCrud.Record
