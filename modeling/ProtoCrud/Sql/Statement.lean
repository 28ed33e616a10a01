import ProtoCrud.Sql.Predicate
import ProtoCrud.Sql.Row

/-!
# Statements

The six statements that are ever sent to a store, as data. Values reach a statement only through
placeholders: the text of a statement is made of names, keywords and `?`, and the arguments travel
beside it.
-/

namespace ProtoCrud.Sql

/-- What a column is set to. -/
inductive Term where
  /-- The next argument. -/
  | bound
  /-- The time at the store. -/
  | now
  deriving DecidableEq

def Term.text : Term → String
  | .bound => "?"
  | .now => "NOW()"

inductive Statement where
  /-- Adds a row. -/
  | insert (table : String) (assignments : List (String × Term))
  /-- Reads columns of the row with a given id. -/
  | select (table : String) (columns : List String)
  /-- Changes columns of the row with a given id. -/
  | update (table : String) (assignments : List (String × Term))
  /-- Removes the row with a given id. -/
  | delete (table : String)
  /-- Counts the rows that satisfy all predicates. -/
  | count (table : String) (filter : List Predicate)
  /-- Reads columns of a page of the rows that satisfy all predicates. -/
  | page (table : String) (columns : List String) (filter : List Predicate) (order : String)
      (direction : String)

def filteredText (table : String) (filter : List Predicate) : String :=
  if filter.isEmpty then table
  else table ++ " WHERE " ++ Predicate.conjunctionText filter

/-- Names or terms separated by commas. -/
def commaList (entries : List String) : String :=
  ", ".intercalate entries

def Statement.text : Statement → String
  | .insert table assignments =>
    "INSERT INTO " ++ table ++ " (" ++ commaList (assignments.map Prod.fst) ++ ") VALUES (" ++
      commaList (assignments.map (·.2.text)) ++ ")"
  | .select table columns => "SELECT " ++ commaList columns ++ " FROM " ++ table ++ " WHERE id = ?"
  | .update table assignments =>
    "UPDATE " ++ table ++ " SET " ++
      commaList (assignments.map fun (column, term) ↦ column ++ " = " ++ term.text) ++
      " WHERE id = ?"
  | .delete table => "DELETE FROM " ++ table ++ " WHERE id = ?"
  | .count table filter => "SELECT COUNT(*) FROM " ++ filteredText table filter
  | .page table columns filter order direction =>
    "SELECT " ++ commaList columns ++ " FROM " ++ filteredText table filter ++ " ORDER BY " ++
      order ++ " " ++ direction ++ " LIMIT ? OFFSET ?"

structure Call where
  statement : Statement
  args : List Value

end ProtoCrud.Sql
