import ProtoCrud.Sql.Predicate

/-!
# Compiling filters

A filter tree becomes a clause with placeholders and a list of arguments. Conditions on fields
outside the allowed ones are dropped, and so are conditions with too few values; a group keeps
what is left of its members. What constrains nothing leaves no trace in the clause, except that a
lone criterion of this kind compiles to a clause that is always true.
-/

namespace ProtoCrud.Query

open Sql

/-- The test that a condition stands for; `none` if it has too few values to constrain anything. -/
def test? : Operator → List String → Option Test
  | .equal, values => values.head?.map (.compare .equal)
  | .notEqual, values => values.head?.map (.compare .notEqual)
  | .greaterThan, values => values.head?.map (.compare .greater)
  | .greaterThanEqual, values => values.head?.map (.compare .greaterEqual)
  | .lessThan, values => values.head?.map (.compare .less)
  | .lessThanEqual, values => values.head?.map (.compare .lessEqual)
  | .like, values => values.head?.map fun value ↦ .like ("%" ++ value ++ "%")
  | .oneOf, values => some (.oneOf values)
  | .noneOf, [] => none
  | .noneOf, values => some (.noneOf values)
  | .isNull, _ => some .isNull
  | .isNotNull, _ => some .isNotNull
  | .between, low :: high :: _ => some (.between low high)
  | .between, _ => none

/-- The predicate that a condition stands for. Membership in no values at all is never true. -/
def conditionPredicate? (field : String) (operator : Operator) (values : List String) :
    Option Predicate :=
  if operator = .oneOf ∧ values = [] then some .never
  else (test? operator values).map (.test field)

/-- Whether a field may be filtered on; without a list of allowed fields every one may. -/
def isAllowed (allowed : Option (List String)) (field : String) : Bool :=
  allowed.all (·.contains field)

def groupPredicate? (logic : Logic) : List Predicate → Option Predicate
  | [] => none
  | [part] => some part
  | parts => some (.junction logic parts)

mutual
/-- What is left of a criterion; `none` if it constrains nothing. -/
def Criterion.predicate? (allowed : Option (List String)) : Criterion → Option Predicate
  | .condition field operator values =>
    if isAllowed allowed field then conditionPredicate? field operator values else none
  | .group logic members => groupPredicate? logic (predicates allowed members)

def predicates (allowed : Option (List String)) : List Criterion → List Predicate
  | [] => []
  | criterion :: rest =>
    match criterion.predicate? allowed with
    | some predicate => predicate :: predicates allowed rest
    | none => predicates allowed rest
end

/-- A clause without its keyword, and one argument for each of its placeholders. -/
structure CompiledFilter where
  clause : String
  args : List String
  deriving DecidableEq

namespace CompiledFilter

/-- Whether the clause constrains nothing. -/
def isEmpty (compiled : CompiledFilter) : Bool :=
  compiled.clause = ""

/-- The clause behind its keyword; empty if it constrains nothing. -/
def whereClause (compiled : CompiledFilter) : String :=
  if compiled.isEmpty then "" else "WHERE " ++ compiled.clause

end CompiledFilter

def compile (criteria : List Criterion) (allowed : Option (List String)) : CompiledFilter :=
  let parts := predicates allowed criteria
  ⟨Predicate.conjunctionText parts, Predicate.allOperands parts⟩

/-- Compiles one criterion; the clause is always true if it constrains nothing. -/
def compileOne (criterion : Criterion) (allowed : Option (List String)) : CompiledFilter :=
  match criterion.predicate? allowed with
  | some predicate => ⟨predicate.text, predicate.operands⟩
  | none => ⟨alwaysTrue, []⟩

end ProtoCrud.Query
