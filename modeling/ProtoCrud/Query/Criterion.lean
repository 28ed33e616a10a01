/-!
# Filter criteria

A filter is a tree of comparisons on fields, joined by groups. A list request carries a list of
such trees, all of which must hold.
-/

namespace ProtoCrud.Query

/-- The comparison that a condition applies to its field. -/
inductive Operator where
  | equal
  | notEqual
  | greaterThan
  | greaterThanEqual
  | lessThan
  | lessThanEqual
  | like
  | oneOf
  | noneOf
  | isNull
  | isNotNull
  | between
  deriving DecidableEq

namespace Operator

/-- Every operator, in the order of the numbers that stand for them on the wire. -/
def all : List Operator :=
  [.equal, .notEqual, .greaterThan, .greaterThanEqual, .lessThan, .lessThanEqual, .like, .oneOf,
    .noneOf, .isNull, .isNotNull, .between]

def name : Operator → String
  | .equal => "Equal"
  | .notEqual => "NotEqual"
  | .greaterThan => "GreaterThan"
  | .greaterThanEqual => "GreaterThanEqual"
  | .lessThan => "LessThan"
  | .lessThanEqual => "LessThanEqual"
  | .like => "Like"
  | .oneOf => "In"
  | .noneOf => "NotIn"
  | .isNull => "IsNull"
  | .isNotNull => "IsNotNull"
  | .between => "Between"

end Operator

/-- How the members of a group are joined. -/
inductive Logic where
  | and
  | or
  deriving DecidableEq

/-- The connective as a statement spells it. -/
def Logic.keyword : Logic → String
  | .and => "AND"
  | .or => "OR"

/-- One node of a filter tree. -/
inductive Criterion where
  /-- A comparison of a field with values, consumed in order. -/
  | condition (field : String) (operator : Operator) (values : List String)
  /-- Criteria joined by one connective. -/
  | group (logic : Logic) (members : List Criterion)

end ProtoCrud.Query
