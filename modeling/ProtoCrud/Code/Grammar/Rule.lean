import ProtoCrud.Code.Reader

/-!
# The recursive rules of the grammar

Types, patterns, expressions and statements contain each other. The rules that do so are named here;
a rule says what to read with a reader for all of them at hand, so that no rule refers to itself.
-/

namespace ProtoCrud.Code.Grammar

inductive Rule where
  /-- A type, which may be a sum of bounds if `sums` allows it. -/
  | type (sums : Bool)
  /-- The arguments of a path between angle brackets. -/
  | arguments
  /-- A pattern without alternatives. -/
  | pattern
  /-- An expression; a brace behind a path belongs to it if `structs` allows it. -/
  | expression (structs : Bool)
  /-- An expression without binary operators. -/
  | operand (structs : Bool)
  /-- What goes on behind `left` with operators of at least the level `base`. -/
  | operation (structs : Bool) (base : Nat) (left : Node)
  /-- What goes on behind `right`, the right side of an operator, with stronger operators. -/
  | rightSide (structs : Bool) (level : Nat) (right : Node)
  /-- Calls, fields and the like behind `left`. -/
  | trailer (left : Node)
  /-- A condition with its branches. -/
  | conditional
  /-- An expression in the place of a statement, where a closing brace may end it. -/
  | standalone
  /-- The statements of a block without attributes of its own. -/
  | statements
  /-- An item, such as a function or a structure. -/
  | item

open Reader

/-- Whatever follows. -/
def otherwise : Look :=
  fun _ ↦ true

/-- Whether a word follows that can be part of a plain path. -/
def plainSegment : Look :=
  Look.oneOf [Look.name, Look.word "super", Look.word "self", Look.word "Self", Look.word "crate"]

/-- The names of a plain path, at most `rounds` of them. -/
def plainNames : (rounds : Nat) → Reader (List String)
  | 0 => failure
  | rounds + 1 => do
    let name ← wordThat plainSegment
    if ← signIf "::" then return name :: (← plainNames rounds)
    else pure [name]

/-- A path without arguments. -/
def plainPath : Reader PlainPath := do
  let rooted ← signIf "::"
  return ⟨rooted, ← plainNames (← room)⟩

/-- An invocation behind its path: a bang and a group of any content. -/
def invocationOf (path : PlainPath) : Reader Invocation := do
  sign "!"
  let (bracket, content) ← anyGroup
  pure ⟨path, bracket, content⟩

def startsInvocation : Look :=
  Look.signOnly "!" "!="

def plainPath? : Node → Option PlainPath
  | .path rooted segments =>
    (segments.mapM fun (segment : Node) ↦
      match segment with
      | .segment name none => some name
      | _ => none).map fun names ↦ ⟨rooted, names⟩
  | _ => none

variable (read : Rule → Reader Node)

def expression : Reader Node :=
  read (.expression true)

/-- An attribute behind its first sign or signs. -/
def attributeBody (inner : Bool) : Reader Node :=
  within .square do
    let path ← choose [
      (Look.word "unsafe", return ⟨false, [← anyWord]⟩),
      (otherwise, plainPath)]
    choose [
      (Look.oneOf [Look.group .round, Look.group .square, Look.group .curly],
        return .attribute inner path (some (← anyGroup)) none),
      (Look.and (Look.sign "=") (Look.not (Look.oneOf [Look.sign "==", Look.sign "=>"])), do
        sign "="
        if ← sees (Look.and (Look.sign "#") (Look.behind 1 (Look.group .square))) then failure
        else return .attribute inner path none (some (← expression read))),
      (otherwise, return .attribute inner path none none)]

def attributes : Reader (List Node) :=
  whileSeen (Look.sign "#") (do
    sign "#"
    attributeBody read false)

def innerAttributes : Reader (List Node) :=
  whileSeen (Look.and (Look.sign "#") (Look.behind 1 (Look.sign "!"))) (do
    sign "#"
    sign "!"
    attributeBody read true)

def attributed (attributes : List Node) (content : Node) : Node :=
  if attributes.isEmpty then content else .attributed attributes content

/-- Something with further attributes in front; code that is kept as it is has none. -/
def withAttributes (attributes : List Node) : Node → Node
  | .attributed more content => .attributed (attributes ++ more) content
  | .verbatim trees => .verbatim trees
  | content => attributed attributes content

def statements : Reader (List Node) := do
  match ← read .statements with
  | .block _ statements => pure statements
  | other => pure [other]

def block : Reader Node :=
  within .curly (return .block [] (← statements read))

/-- A block that may begin with attributes of its own. -/
def attributedBlock : Reader Node :=
  within .curly do
    let attributes ← innerAttributes read
    return .block attributes (← statements read)

/-- A constant among the arguments of a path. -/
def constant : Reader Node :=
  choose [
    (Look.literal, return .literal (← literal)),
    (Look.name, return .path false [.segment (← identifier) none]),
    (Look.group .curly, attributedBlock read)]

end ProtoCrud.Code.Grammar
