import ProtoCrud.Query.Criterion

/-!
# Predicates of a condition clause

A predicate is what remains of a criterion once everything that constrains nothing is gone. Its
leaves carry the texts that their placeholders are bound to, so the text of a clause and its
arguments are two readings of one tree and cannot fall out of step.
-/

namespace ProtoCrud.Sql

open Query (Logic)

inductive Comparison where
  | equal
  | notEqual
  | greater
  | greaterEqual
  | less
  | lessEqual
  deriving DecidableEq

def Comparison.sign : Comparison → String
  | .equal => "="
  | .notEqual => "!="
  | .greater => ">"
  | .greaterEqual => ">="
  | .less => "<"
  | .lessEqual => "<="

/-- A test of one column, with the texts bound to its placeholders. -/
inductive Test where
  | compare (comparison : Comparison) (operand : String)
  | like (pattern : String)
  | oneOf (operands : List String)
  | noneOf (operands : List String)
  | isNull
  | isNotNull
  | between (low high : String)
  deriving DecidableEq

/-- One placeholder for each of `count` operands. -/
def placeholders (count : Nat) : String :=
  ", ".intercalate (List.replicate count "?")

namespace Test

def text : Test → String
  | .compare comparison _ => comparison.sign ++ " ?"
  | .like _ => "LIKE ?"
  | .oneOf operands => "IN (" ++ placeholders operands.length ++ ")"
  | .noneOf operands => "NOT IN (" ++ placeholders operands.length ++ ")"
  | .isNull => "IS NULL"
  | .isNotNull => "IS NOT NULL"
  | .between _ _ => "BETWEEN ? AND ?"

def operands : Test → List String
  | .compare _ operand => [operand]
  | .like pattern => [pattern]
  | .oneOf operands => operands
  | .noneOf operands => operands
  | .isNull => []
  | .isNotNull => []
  | .between low high => [low, high]

end Test

inductive Predicate where
  /-- The predicate that no row satisfies. -/
  | never
  | test (column : String) (condition : Test)
  /-- Predicates joined by one connective. -/
  | junction (logic : Logic) (parts : List Predicate)

/-- The text of the predicate that no row satisfies. -/
def neverTrue : String := "1=0"

/-- The text that stands where nothing is left to be tested. -/
def alwaysTrue : String := "1=1"

namespace Predicate

mutual
/-- The text of a predicate; a junction stands in parentheses. -/
def text : Predicate → String
  | .never => neverTrue
  | .test column condition => column ++ " " ++ condition.text
  | .junction logic parts =>
    "(" ++ (" " ++ logic.keyword ++ " ").intercalate (texts parts) ++ ")"

def texts : List Predicate → List String
  | [] => []
  | part :: parts => part.text :: texts parts
end

mutual
/-- The operands of a predicate, in the order of the placeholders in its text. -/
def operands : Predicate → List String
  | .never => []
  | .test _ condition => condition.operands
  | .junction _ parts => allOperands parts

def allOperands : List Predicate → List String
  | [] => []
  | part :: parts => part.operands ++ allOperands parts
end

def conjunctionText (parts : List Predicate) : String :=
  " AND ".intercalate (texts parts)

end Predicate

end ProtoCrud.Sql
