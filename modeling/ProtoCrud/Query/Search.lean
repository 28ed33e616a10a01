import ProtoCrud.Query.Criterion
import ProtoCrud.Query.Pagination

/-!
# Search messages and the list queries they ask for

A search message is what a list request carries: filters whose operators and connectives are mere
numbers, criteria that may be empty, and a page whose fields may be unset. A list query is its
meaning: criteria with an unknown operator and empty criteria are dropped, an unknown connective
joins by "and", and the page has its defaults.
-/

namespace ProtoCrud.Query

namespace Search

/-- A criterion as it travels; every number is possible where one is expected. -/
inductive Criterion where
  /-- A criterion in which nothing is set. -/
  | unset
  | condition (field : String) (operator : Int32) (values : List String)
  | group (logic : Int32) (members : List Criterion)
  deriving Inhabited

end Search

structure Search where
  filters : List Search.Criterion
  pagination : Option PageRequest

def Operator.ofNumber? (number : Int32) : Option Operator :=
  if 0 ≤ number then Operator.all[number.toInt.toNat]? else none

def Operator.number : Operator → Int32
  | .equal => 0
  | .notEqual => 1
  | .greaterThan => 2
  | .greaterThanEqual => 3
  | .lessThan => 4
  | .lessThanEqual => 5
  | .like => 6
  | .oneOf => 7
  | .noneOf => 8
  | .isNull => 9
  | .isNotNull => 10
  | .between => 11

/-- The connective that a number stands for; unknown numbers join by "and". -/
def Logic.ofNumber (number : Int32) : Logic :=
  if number = 1 then .or else .and

def Logic.number : Logic → Int32
  | .and => 0
  | .or => 1

namespace Search

mutual
/-- The criterion that a travelling one stands for, if it is set and its operator is known. -/
def Criterion.resolve? : Search.Criterion → Option Query.Criterion
  | .unset => none
  | .condition field operator values =>
    (Operator.ofNumber? operator).map fun known ↦ .condition field known values
  | .group logic members => some (.group (Logic.ofNumber logic) (resolveAll members))

def resolveAll : List Search.Criterion → List Query.Criterion
  | [] => []
  | criterion :: rest =>
    match criterion.resolve? with
    | some resolved => resolved :: resolveAll rest
    | none => resolveAll rest
end

end Search

/-- A list request: the criteria that must hold and the page that is wanted. -/
structure ListQuery where
  filters : List Criterion
  pagination : Pagination

/-- The query without filters for the first page. -/
def ListQuery.default : ListQuery :=
  ⟨[], .default⟩

/-- The query that a search message asks for; without one it is the default query. -/
def ListQuery.ofSearch : Option Search → ListQuery
  | none => .default
  | some search => ⟨Search.resolveAll search.filters, .resolve search.pagination⟩

end ProtoCrud.Query
