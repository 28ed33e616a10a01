import ProtoCrud.Code.Grammar.Item

/-!
# Statements

A block holds items, definitions of local values, invocations and expressions. A semicolon ends a
statement; one that ends with a brace needs none, and neither does the value of the block.
-/

namespace ProtoCrud.Code.Grammar

open Reader

variable (read : Rule → Reader Node)

def standaloneRule : Reader Node := do
  let attributes ← attributes read
  let goOn := fun (first : Node) ↦
    read (.operation true Level.jump.rank (withAttributes attributes first))
  if ← sees (Look.oneOf ((blockLike read).map Prod.fst)) then
    let first ← choose (blockLike read)
    if ← sees (Look.or (Look.signOnly "." "..") (Look.sign "?")) then
      goOn (← read (.trailer first))
    else pure (withAttributes attributes first)
  else goOn (← read (.operand true))

/-- What a look says about the code behind a plain path. -/
def behindPath (look : Look) : Look :=
  fun trees ↦
    match plainPath trees with
    | some (_, rest) => look rest
    | none => false

/-- Whether an invocation follows whose closing brace ends the statement. -/
def startsBracedInvocation : Look :=
  behindPath (Look.and (Look.sign "!") (Look.and (Look.behind 1 (Look.group .curly))
    (Look.not (Look.behind 2 (Look.or (Look.signOnly "." "..") (Look.sign "?"))))))

/-- Whether an invocation follows that makes an item. -/
def startsNamedInvocation : Look :=
  behindPath (Look.and (Look.sign "!") (Look.behind 1 (Look.or Look.name (Look.word "try"))))

def endsWithBrace (trees : List Tree) : Bool :=
  match trees.getLast? with
  | some (.group bracket _) => bracket = .curly
  | _ => false

def definition : Reader Node := do
  word "let"
  let name ← pattern read
  let type ← optional (Look.sign ":") (do
    sign ":"
    type read true)
  let pattern := (type.map (Node.typed name)).getD name
  if ← signIf "=" then
    let (value, trees) ← spanned (expression read)
    let otherwise ← optional (fun rest ↦ !endsWithBrace trees && Look.word "else" rest) (do
      word "else"
      block read)
    sign ";"
    pure (.local pattern (some value) otherwise)
  else
    sign ";"
    pure (.local pattern none none)

def withLeadingAttributes (attributes : List Node) : Node → Node
  | .assign left right => .assign (withLeadingAttributes attributes left) right
  | .binary operator left right =>
    .binary operator (withLeadingAttributes attributes left) right
  | .cast value type => .cast (withLeadingAttributes attributes value) type
  | expression => withAttributes attributes expression

def asStatement (semicolon : Bool) : Node → Node
  | .attributed attributes (.invocation invocation) =>
    if semicolon || invocation.bracket = .curly then
      .attributed attributes (.invocationStatement invocation semicolon)
    else .statement (.attributed attributes (.invocation invocation)) semicolon
  | .invocation invocation =>
    if semicolon || invocation.bracket = .curly then .invocationStatement invocation semicolon
    else .statement (.invocation invocation) semicolon
  | expression => .statement expression semicolon

def statement : Reader Node := do
  let start ← get
  let attributes ← attributes read
  if ← sees startsBracedInvocation then
    let invocation ← invocationOf (← plainPath)
    return attributed attributes (.invocationStatement invocation (← signIf ";"))
  else if ← sees (Look.word "let") then return attributed attributes (← definition read)
  else if ← sees (Look.or startsItem startsNamedInvocation) then
    set start
    read .item
  else
    let expression ← read .standalone
    let semicolon ← signIf ";"
    pure (asStatement semicolon (withLeadingAttributes attributes expression))

/-- Whether the next statement needs a semicolon in front of it. -/
def isUnended : Node → Bool
  | .statement expression false => !endsStatement expression
  | _ => false

def statementsRule : Reader Node := do
  let empty ← whileSeen (Look.sign ";") (do
    sign ";"
    pure (Node.statement (.verbatim []) true))
  if ← sees Look.finished then pure (.block [] empty)
  else
    let first ← statement read
    if ← sees Look.finished then pure (.block [] (empty ++ [first]))
    else if isUnended first then failure
    else return .block [] (empty ++ first :: (← statements read))

end ProtoCrud.Code.Grammar
