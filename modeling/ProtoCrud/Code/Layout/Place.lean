import ProtoCrud.Code.Grammar.Expression
import ProtoCrud.Code.Layout.Raw
import ProtoCrud.Code.Spelling

/-!
# Where syntax trees stand

How a tree is laid out depends on where it stands: a block on one line or on several, the parts of a
chain of calls, the cases of a match, which are put into braces once they need a line of their own.
-/

namespace ProtoCrud.Code.Layout

structure Following where
  /-- Whether an operator follows, so that the expression does not reach as far as it could. -/
  continues : Bool
  /-- Whether the operator could open the arguments of a path. -/
  generics : Bool
  deriving DecidableEq, Repr

def Following.nothing : Following := ⟨false, false⟩

inductive StatementMode where
  | first
  | last
  /-- It is the only one and may share the line of the braces. -/
  | alone
  /-- It is the only one, and the braces around it are left out. -/
  | unwrapped
  deriving DecidableEq, Repr

/-- A place where a tree stands. -/
inductive Place where
  /-- A type, or a part of a declaration. -/
  | plain
  | pattern
  /-- An expression. -/
  | value (following : Following) (lineStart : Bool)
  /-- The beginning of a chain, which may need parentheses. -/
  | chain (grouped : Bool) (following : Following) (lineStart : Bool)
  | statement (mode : StatementMode)
  /-- An item behind words that say how it can be seen. -/
  | item (lead : Steps)
  /-- The head of a function, with a semicolon behind it or a block. -/
  | head (semicolon : Bool)
  /-- A block that may share the line of what it belongs to, or a condition behind another one. -/
  | body
  /-- A block whose statements have lines of their own. -/
  | lines
  /-- Such a block as the only branch of a condition. -/
  | branch
  /-- Such a block without its closing brace, as a part of a box. -/
  | unclosed
  /-- The right side of a case. -/
  | armBody

namespace Place

def following : Place → Following
  | .value following _ => following
  | .chain grouped following _ => if grouped then .nothing else following
  | _ => .nothing

def lineStart : Place → Bool
  | .value _ lineStart => lineStart
  | .chain _ _ lineStart => lineStart
  | .armBody => true
  | _ => false

def isChain : Place → Bool
  | .chain _ _ _ => true
  | _ => false

def isValue : Place → Bool
  | .value _ _ => true
  | .chain _ _ _ => true
  | .armBody => true
  | _ => false

/-- Whether arguments of a path need colons in front of them in a place. -/
def marksArguments : Place → Bool
  | .pattern => true
  | place => place.isValue

/-- The place of the segments of a path, and of what stands in parentheses in its own right. -/
def inner (place : Place) : Place :=
  match place with
  | .pattern => .pattern
  | place => if place.isValue then .value .nothing false else .plain

def lead : Place → Steps
  | .item lead => lead
  | _ => []

def alone : Place :=
  .value .nothing false

end Place

def levelOf : Node → Level
  | .attributed _ content => if levelOf content = .closed then .operand else levelOf content
  | .closure _ _ _ none _ => .jump
  | .break _ (some _) => .jump
  | .return (some _) => .jump
  | .yield (some _) => .jump
  | .assign _ _ => .assignment
  | .range _ _ _ => .range
  | .binary operator _ _ => operatorLevel operator
  | .matching _ _ => .matching
  | .cast _ _ => .conversion
  | .rawAddress _ _ => .operand
  | .reference _ _ => .operand
  | .unary _ _ => .operand
  | _ => .closed

/-- Whether an expression reaches as far as it can. -/
def reachesOn : Node → Bool
  | .attributed _ content => reachesOn content
  | .break _ _ => true
  | .closure _ _ _ _ _ => true
  | .matching _ _ => true
  | .return _ => true
  | .yield _ => true
  | .range none _ _ => true
  | _ => false

/-- Whether an expression is a conversion that an angle bracket behind it would go on with. -/
def opensAtEnd : Node → Bool
  | .cast _ type => takesArguments type.tokens
  | _ => false

def levelBefore (following : Following) (node : Node) : Level :=
  if !following.continues && reachesOn node then .operand
  else if following.generics && opensAtEnd node then .jump
  else levelOf node

def leftOf (operator : String) : Following :=
  ⟨true, opensGenerics operator⟩

def chained : Following :=
  ⟨true, false⟩

/-- Whether the left side of an operator needs parentheses. -/
def groupsLeft (operator : String) (left : Node) : Bool :=
  let level := operatorLevel operator
  let actual := levelBefore (leftOf operator) left
  if level = .assignment then actual.rank ≤ Level.range.rank
  else if level = .comparison then actual.rank ≤ level.rank
  else actual.rank < level.rank

/-- Whether the right side of an operator needs parentheses. -/
def groupsRight (operator : String) (following : Following) (right : Node) : Bool :=
  let level := operatorLevel operator
  level != .assignment && (levelBefore following right).rank ≤ level.rank

def chainStart (node : Node) (lineStart : Bool) : Place :=
  .chain ((levelBefore chained node).below .closed) chained lineStart

/-- An expression that stands where parentheses may be needed. -/
def grouped (needed : Bool) (following : Following) (lay : Place → Steps) : Steps :=
  if needed then text "(" ++ lay .alone ++ text ")" else lay (.value following false)

/-- Whether an expression with its brackets can share the line of what it is given to. -/
def isBlockLike : Node → Bool
  | .list _ => true
  | .asyncBlock _ _ => true
  | .block _ _ => true
  | .labelled _ (.block _ _) => true
  | .closure _ _ _ _ _ => true
  | .constBlock _ => true
  | .structure _ _ _ _ => true
  | .tryBlock _ => true
  | .tuple _ => true
  | .unsafeBlock _ => true
  | _ => false

/-- Whether the body of a closure stays as it is when the line ends in front of it. -/
def staysBare : Node → Bool
  | .cases _ _ _ => true
  | .call _ _ => true
  | node => isBlockLike node

/-- Whether a name is so short that nothing can be gained by ending the line behind it. -/
def isShortName : Node → Bool
  | .path false [.segment name none] => name.utf8ByteSize ≤ 4
  | _ => false

/-- Whether the value of an expression is of no use, so that a semicolon ends it. -/
def endsWithSemicolon : Node → Bool
  | .attributed _ content => endsWithSemicolon content
  | .assign _ _ => true
  | .break _ _ => true
  | .continue _ => true
  | .return _ => true
  | .yield _ => true
  | .binary operator _ _ => operatorLevel operator = .assignment
  | _ => false

/-- Whether a semicolon behind an expression is of no use. -/
def dropsSemicolon : Node → Bool
  | .attributed _ content => dropsSemicolon content
  | .labelled _ content => dropsSemicolon content
  | .forLoop _ _ _ => true
  | .whileLoop _ _ => true
  | .conditional _ _ none => true
  | .conditional _ _ (some otherwise) => dropsSemicolon otherwise
  | _ => false

/-- Whether an expression means the same between braces. -/
def fitsBraces : Node → Bool
  | .attributed _ content => fitsBraces content
  | .matching _ _ => false
  | .assign left _ => Grammar.endsStatement left == false && fitsBraces left
  | .binary _ left _ => Grammar.endsStatement left == false && fitsBraces left
  | .call head _ => Grammar.endsStatement head == false && fitsBraces head
  | .cast value _ => Grammar.endsStatement value == false && fitsBraces value
  | .index value _ => Grammar.endsStatement value == false && fitsBraces value
  | .range (some first) _ _ => Grammar.endsStatement first == false && fitsBraces first
  | .await value => fitsBraces value
  | .field value _ => fitsBraces value
  | .methodCall receiver _ _ _ => fitsBraces receiver
  | .try value => fitsBraces value
  | _ => true

/-- Whether the line ends behind a condition that needs more than one line. -/
def endsLine : Node → Bool
  | .attributed _ content => endsLine content
  | .assign _ _ => true
  | .await _ => true
  | .binary _ _ _ => true
  | .cast _ _ => true
  | .field _ _ => true
  | .index _ _ => true
  | .methodCall _ _ _ _ => true
  | .break _ (some value) => endsLine value
  | .call head _ => endsLine head
  | .matching _ value => endsLine value
  | .parenthesised content => endsLine content
  | .range _ _ (some last) => endsLine last
  | .range (some first) _ none => endsLine first
  | .rawAddress _ value => endsLine value
  | .reference _ value => endsLine value
  | .return (some value) => endsLine value
  | .try value => endsLine value
  | .unary _ value => endsLine value
  | .yield (some value) => endsLine value
  | _ => false

/-- Whether an item of an array is so simple that several of them can share a line. -/
def isSimpleItem : Node → Bool
  | .literal literal =>
    match literal.toList with
    | '"' :: _ => false
    | 'r' :: _ => false
    | 'c' :: _ => false
    | 'b' :: '\'' :: _ => true
    | 'b' :: _ => false
    | text => !text.head?.any Char.isDigit || !text.contains '.'
  | _ => false

def isBlock : Node → Bool
  | .attributed _ content => isBlock content
  | .labelled _ content => isBlock content
  | .block _ _ => true
  | _ => false

def isNothing : Node → Bool
  | .tuple row => row.isEmpty
  | _ => false

/-- Whether statements are a single expression without a semicolon. -/
def isSingleValue : List Node → Bool
  | [.statement _ false] => true
  | _ => false

/-- How the last statement of a block stands that is in a place. -/
def Place.modeOfLast (place : Place) (attributes statements : List Node) : StatementMode :=
  match place with
  | .lines => .last
  | .branch => .last
  | .unclosed => .last
  | .armBody => if attributes.isEmpty && isSingleValue statements then .unwrapped else .last
  | _ => if isSingleValue statements then .alone else .last

/-- An expression as the right side of a case, in braces once it needs a line of its own. -/
def armSteps (node : Node) (steps : Steps) : Steps :=
  let braces := fitsBraces node
  let first : Gap := { atEnd := if braces then "\x7b" else "(" }
  let last : Gap := {
    offset := -indentation
    atEnd := if braces && endsWithSemicolon node then ";" else ""
    atStart := if braces then "\x7d" else "),"
    between := if Grammar.endsWithBlock node then "" else "," }
  neverGap ++ boxed indentation (.gap first :: steps ++ [.gap last])

/-- The body of a closure, in braces once it needs a line of its own. -/
def closureBody (node : Node) (steps : Steps) : Steps :=
  if staysBare node then steps
  else
    let braces := fitsBraces node
    let first : Gap := { atEnd := if braces then "\x7b" else "(" }
    let last : Gap := {
      offset := -indentation
      atEnd := if braces && endsWithSemicolon node then ";" else ""
      atStart := if braces then "\x7d" else ")" }
    boxed indentation (.gap first :: steps ++ [.gap last])

def Place.around (place : Place) (node : Node) (steps : Steps) : Steps :=
  match place with
  | .chain grouped _ _ =>
    match node with
    | .await _ => steps
    | .call _ _ => steps
    | .field _ _ => steps
    | .index _ _ => steps
    | .methodCall _ _ _ _ => steps
    | .try _ => steps
    | _ => boxed (-indentation) (if grouped then text "(" ++ steps ++ text ")" else steps)
  | .armBody => if isBlock node || isNothing node then steps else armSteps node steps
  | _ => steps

end ProtoCrud.Code.Layout
