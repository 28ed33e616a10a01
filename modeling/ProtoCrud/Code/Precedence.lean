import ProtoCrud.Code.Syntax

/-!
# How strongly operators bind

Every form of expression has a level: an expression with a lower level than its place asks for needs
parentheses there. Operators of two operands group to the left, assignments to the right.
-/

namespace ProtoCrud.Code

inductive Level where
  | jump
  | assignment
  | range
  | or
  | and
  | matching
  | comparison
  | bitOr
  | bitXor
  | bitAnd
  | shift
  | sum
  | product
  | conversion
  | operand
  | closed
  deriving DecidableEq, Repr

namespace Level

def rank (level : Level) : Nat :=
  level.ctorIdx

/-- Whether a level binds less strongly than another one. -/
def below (left right : Level) : Bool :=
  left.rank < right.rank

end Level

/-- The operators of two operands; a longer sign stands before those it begins with. -/
def operators : List (String × Level) :=
  [("&&", .and), ("||", .or), ("<<=", .assignment), (">>=", .assignment), ("+=", .assignment),
    ("-=", .assignment), ("*=", .assignment), ("/=", .assignment), ("%=", .assignment),
    ("^=", .assignment), ("&=", .assignment), ("|=", .assignment), ("<<", .shift), (">>", .shift),
    ("==", .comparison), ("<=", .comparison), ("!=", .comparison), (">=", .comparison),
    ("+", .sum), ("-", .sum), ("*", .product), ("/", .product), ("%", .product), ("^", .bitXor),
    ("&", .bitAnd), ("|", .bitOr), ("<", .comparison), (">", .comparison)]

def operatorLevel (operator : String) : Level :=
  (operators.lookup operator).getD .jump

def operator? (trees : List Tree) : Option (String × Level) :=
  operators.find? fun (text, _) ↦ Look.sign text trees

end ProtoCrud.Code
