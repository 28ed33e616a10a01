import ProtoCrud.Code.Grammar.Pattern
import ProtoCrud.Code.Precedence

/-!
# Expressions

Operators have levels: what binds more strongly is read first, assignments group to the right, all
others to the left. A comparison is not compared again, a range is no operand, and a conversion has
no call or field directly behind its type.
-/

namespace ProtoCrud.Code.Grammar

open Reader

variable (read : Rule → Reader Node)

/-- Whether a plain assignment goes on here. -/
def startsAssignment : Look :=
  Look.signOnly "=" "=>"

def levelAhead (trees : List Tree) : Level :=
  match operator? trees with
  | some (_, level) => level
  | none =>
    if startsAssignment trees then .assignment
    else if Look.sign ".." trees then .range
    else if Look.word "as" trees then .conversion
    else .jump

def rightOf (structs : Bool) (level : Level) : Reader Node := do
  let first ← read (.operand structs)
  read (.rightSide structs level.rank first)

def rightSideRule (structs : Bool) (level : Nat) (right : Node) : Reader Node := do
  let trees ← get
  let next := (levelAhead trees).rank
  if level < next || level = next && level = Level.assignment.rank then
    let longer ← read (.operation structs next right)
    if (← get).length = trees.length then pure longer
    else read (.rightSide structs level longer)
  else pure right

/-- Whether a range without end can stop here. -/
def stopsRange (structs : Bool) : Look :=
  Look.oneOf ([Look.finished, Look.signOnly "." "..", Look.word "as"] ++
    [",", ";", "?", "=>", "=", "+", "/", "%", "^", ">", "<=", "!=", "-=", "*=", "&=", "|=",
      "<<="].map Look.sign ++
    if structs then [] else [Look.group .curly])

def rangeFrom (structs : Bool) (first : Option Node) : Reader Node := do
  let closed ← rangeSign
  let last ← optional (fun trees ↦ closed || !stopsRange structs trees)
    (rightOf read structs .range)
  pure (.range first closed last)

/-- Whether a call or field follows, which no conversion has directly behind it. -/
def followsConversion : Look :=
  Look.oneOf [Look.signOnly "." "..", Look.sign "?", Look.group .square, Look.group .round]

def conversion (left : Node) : Reader Node := do
  word "as"
  let target ← type read false
  if ← sees followsConversion then failure else pure (.cast left target)

def isRange : Node → Bool
  | .range _ _ _ => true
  | .attributed _ (.range _ _ _) => true
  | _ => false

def isComparison : Node → Bool
  | .binary operator _ _ => operatorLevel operator == .comparison
  | _ => false

def operationRule (structs : Bool) (base : Nat) (left : Node) : Reader Node := do
  let goOn := fun (longer : Node) ↦ read (.operation structs base longer)
  if isRange left then pure left
  else
    match operator? (← get) with
    | some (operator, level) =>
      if level.rank < base then pure left
      else if level = .comparison ∧ isComparison left then failure
      else
        sign operator
        goOn (.binary operator left (← rightOf read structs level))
    | none =>
      if base ≤ Level.assignment.rank && (← sees startsAssignment) then
        sign "="
        goOn (.assign left (← rightOf read structs .assignment))
      else if base ≤ Level.range.rank && (← sees (Look.sign "..")) then
        goOn (← rangeFrom read structs (some left))
      else if base ≤ Level.conversion.rank && (← sees (Look.word "as")) then
        goOn (← conversion read left)
      else pure left

def expressionRule (structs : Bool) : Reader Node := do
  let first ← read (.operand structs)
  read (.operation structs Level.jump.rank first)

def callArguments : Reader (Row Node) :=
  rowIn .round (expression read)

/-- The places that a literal with points between them stands for, and whether a point ends it. -/
def places? (text : String) : Option (Bool × List String) :=
  let parts := Text.splitAll '.' text.toList
  let (unfinished, named) :=
    if parts.getLast? = some [] then (true, parts.dropLast) else (false, parts)
  (named.mapM placeValue?).map fun values ↦ (unfinished, values.map toString)

/-- Whether a number with a point follows, which stands for several places. -/
def severalPlaces : Look
  | .literal text :: _ => text.toList.contains '.' && text.toList.head?.any Char.isDigit
  | _ => false

/-- A field of something, or the call of a method. -/
def memberOf (left : Node) : Reader Node := do
  if ← wordIf "await" then pure (.await left)
  else
    let (isNamed, name) ← member
    let arguments ← optional (fun trees ↦ isNamed && Look.sign "::" trees) (read .arguments)
    if arguments.isSome || isNamed && (← sees (Look.group .round)) then
      return .methodCall left name arguments (← callArguments read)
    else pure (.field left name)

/-- What follows the point of a field or a method. -/
def afterPoint (left : Node) : Reader Node := do
  if ← sees severalPlaces then
    match places? (← literal) with
    | some (unfinished, places) =>
      let inner := places.foldl Node.field left
      if unfinished then memberOf read inner else pure inner
    | none => failure
  else memberOf read left

/-- The rule for calls, fields and the like. -/
def trailerRule (left : Node) : Reader Node := do
  let goOn := fun (longer : Node) ↦ read (.trailer longer)
  if ← sees (Look.group .round) then goOn (.call left (← callArguments read))
  else if (← sees (Look.signOnly "." "..")) && !isRange left then
    sign "."
    goOn (← afterPoint read left)
  else if ← sees (Look.group .square) then
    goOn (.index left (← within .square (expression read)))
  else if (← sees (Look.sign "?")) && !isRange left then
    sign "?"
    goOn (.try left)
  else pure left

def fieldValue : Reader Node := do
  let attributes ← attributes read
  let (isNamed, name) ← member
  let value ← optional (fun trees ↦ !isNamed || Look.sign ":" trees) (do
    sign ":"
    expression read)
  pure (attributed attributes (match value with
    | some value => .namedValue name true value
    | none => .namedValue name false (.path false [.segment name none])))

/-- The fields of a structure; what the others are taken from comes last. -/
def fieldsWithin : (rounds : Nat) → Reader (Row Node × Bool × Option Node)
  | 0 => failure
  | rounds + 1 => do
    if ← sees Look.finished then pure (.empty, false, none)
    else if ← signIf ".." then
      return (.empty, true, ← optional (Look.not Look.finished) (expression read))
    else
      let field ← fieldValue read
      if ← sees Look.finished then pure (rowFrom field none, false, none)
      else
        sign ","
        let (fields, rest) ← fieldsWithin rounds
        pure (rowFrom field (some fields), rest)

def structExpression (path : Node) : Reader Node := do
  let (fields, hasRest, rest) ← within .curly (do fieldsWithin read (← room))
  pure (.structure path fields hasRest rest)

def pathExpression (structs : Bool) : Reader Node := do
  let path ← qualifiedPath read true
  let structured :=
    optional (fun trees ↦ structs && Look.group .curly trees) (structExpression read path)
  match plainPath? path with
  | some plain =>
    if ← sees startsInvocation then return .invocation (← invocationOf plain)
    else return (← structured).getD path
  | none => return (← structured).getD path

def startsExpression : Look :=
  Look.oneOf [
    Look.and Look.anyWord (Look.not (Look.word "as")),
    Look.group .round, Look.group .square, Look.group .curly, Look.literal,
    Look.signOnly "!" "!=",
    Look.and (Look.sign "-") (Look.not (Look.or (Look.sign "-=") (Look.sign "->"))),
    Look.signOnly "*" "*=", Look.signOnly "|" "|=", Look.signOnly "&" "&=", Look.sign "..",
    opensArguments, Look.sign "::", Look.lifetime, Look.sign "#"]

/-- An expression behind a word, of which there may be none. -/
def valueBehind (text : String) : Reader (Option Node) := do
  word text
  optional startsExpression (expression read)

/-- The end of a loop, with its label and its value. -/
def breaking (structs : Bool) : Reader Node := do
  word "break"
  let label ← optional Look.lifetime lifetime
  if label.isSome && (← sees (Look.sign ":")) then failure
  else
    let value ← optional
      (fun trees ↦ startsExpression trees && (structs || !Look.group .curly trees))
      (expression read)
    pure (.break label value)

def closureArgument : Reader Node := do
  let attributes ← attributes read
  let pattern ← pattern read
  if ← signIf ":" then return attributed attributes (.typed pattern (← type read true))
  else pure (withAttributes attributes pattern)

def closure (structs : Bool) : Reader Node := do
  let binder ← optional (Look.word "for") (binder read)
  let isConst ← wordIf "const"
  let isStatic ← wordIf "static"
  let isAsync ← wordIf "async"
  let isMove ← wordIf "move"
  let marks := ⟨isConst, isStatic, isAsync, isMove⟩
  sign "|"
  let inputs ← rowUntil (Look.sign "|") "," (closureArgument read)
  sign "|"
  let output ← result read true
  let body ← if output.isSome then block read else read (.expression structs)
  pure (.closure binder marks inputs output body)

def array : Reader Node :=
  within .square do
    if ← sees Look.finished then pure (.list .empty)
    else
      let first ← expression read
      choose [
        (Look.finished, pure (.list (rowFrom first none))),
        (Look.sign ",", do
          sign ","
          let rest ← rowUntil Look.finished "," (expression read)
          pure (.list (rowFrom first (some rest)))),
        (Look.sign ";", do
          sign ";"
          return .repeated first (← expression read))]

def roundExpression : Reader Node := do
  match ← callArguments read with
  | ⟨[value], false⟩ => pure (.parenthesised value)
  | items => pure (.tuple items)

def matching (structs : Bool) : Reader Node := do
  word "let"
  let pattern ← alternatives read
  sign "="
  let first ← read (.operand structs)
  return .matching pattern (← read (.operation structs Level.comparison.rank first))

def guarded : Reader Node :=
  read (.expression false)

def conditionalRule : Reader Node := do
  word "if"
  let condition ← guarded read
  let body ← block read
  let otherwise ← optional (Look.word "else") (do
    word "else"
    choose [(Look.word "if", read .conditional), (Look.group .curly, block read)])
  pure (.conditional condition body otherwise)

/-- Whether an expression ends with its block, so that a case of a match needs no comma. -/
def endsWithBlock : Node → Bool
  | .attributed _ content => endsWithBlock content
  | .labelled _ content => endsWithBlock content
  | .conditional _ _ _ => true
  | .cases _ _ _ => true
  | .block _ _ => true
  | .unsafeBlock _ => true
  | .whileLoop _ _ => true
  | .loop _ => true
  | .forLoop _ _ _ => true
  | .tryBlock _ => true
  | .constBlock _ => true
  | _ => false

/-- Whether an expression ends a statement without a semicolon. -/
def endsStatement : Node → Bool
  | .attributed _ content => endsStatement content
  | .invocation invocation => invocation.bracket = .curly
  | expression => endsWithBlock expression

/-- One case of a match; a comma follows unless the case ends with its block or is the last. -/
def matchCase : Reader Node := do
  let attributes ← attributes read
  let pattern ← alternatives read
  let guard ← optional (Look.word "if") (do
    word "if"
    expression read)
  sign "=>"
  let body ← read .standalone
  let comma ←
    if endsWithBlock body || (← sees Look.finished) then signIf ","
    else do
      sign ","
      pure true
  pure (attributed attributes (.arm pattern guard body comma))

def choice : Reader Node := do
  word "match"
  let subject ← guarded read
  within .curly do
    let attributes ← innerAttributes read
    return .cases subject attributes (← whileSeen (Look.not Look.finished) (matchCase read))

/-- Whether parameters follow, and not a path that starts from a type. -/
def opensParameters : Look :=
  Look.and (Look.sign "<") (Look.behind 1 (Look.oneOf [
    Look.sign ">", Look.sign "#", Look.word "const",
    Look.and (Look.or Look.lifetime Look.name) (Look.behind 1 (Look.oneOf
      [Look.sign ">", Look.sign ",", Look.signOnly ":" "::", Look.sign "="]))]))

/-- Whether a closure follows that is for some parameters. -/
def startsGenericClosure : Look :=
  Look.and (Look.word "for") (Look.behind 1 opensParameters)

def wordBlock (text : String) : Look :=
  Look.and (Look.word text) (Look.behind 1 (Look.group .curly))

def loop : Reader Node :=
  choose [
    (Look.word "while", do
      word "while"
      let condition ← guarded read
      return .whileLoop condition (← attributedBlock read)),
    (Look.word "for", do
      word "for"
      let pattern ← alternatives read
      word "in"
      let iterated ← guarded read
      return .forLoop pattern iterated (← attributedBlock read)),
    (Look.word "loop", do
      word "loop"
      return .loop (← attributedBlock read))]

/-- A loop or a block with its label. -/
def labelled : Reader Node := do
  let label ← lifetime
  sign ":"
  return .labelled label (← choose [
    (Look.oneOf (["while", "for", "loop"].map Look.word), loop read),
    (Look.group .curly, attributedBlock read)])

def blockBehind (text : String) (reader : Reader Node) : Reader Node := do
  word text
  reader

/-- The expressions that end with a block, each with the look that announces it. -/
def blockLike : List (Look × Reader Node) :=
  [(Look.word "if", read .conditional),
    (Look.and (Look.oneOf (["while", "for", "loop"].map Look.word)) (Look.not startsGenericClosure),
      loop read),
    (Look.word "match", choice read),
    (wordBlock "try", return .tryBlock (← blockBehind "try" (block read))),
    (Look.word "unsafe", return .unsafeBlock (← blockBehind "unsafe" (attributedBlock read))),
    (wordBlock "const", return .constBlock (← blockBehind "const" (attributedBlock read))),
    (Look.group .curly, attributedBlock read),
    (Look.lifetime, labelled read)]

def startsClosure : Look :=
  Look.oneOf [
    Look.sign "|", Look.word "move", startsGenericClosure,
    Look.and (Look.word "const") (Look.not (Look.behind 1 (Look.group .curly))),
    Look.word "static",
    Look.and (Look.word "async")
      (Look.behind 1 (Look.or (Look.sign "|") (Look.word "move")))]

/-- Whether a block follows that runs on its own. -/
def startsAsync : Look :=
  Look.and (Look.word "async") (Look.or (Look.behind 1 (Look.group .curly))
    (Look.and (Look.behind 1 (Look.word "move")) (Look.behind 2 (Look.group .curly))))

def asyncBlock : Reader Node := do
  word "async"
  let isMove ← wordIf "move"
  return .asyncBlock isMove (← block read)

def startsPathExpression : Look :=
  Look.or startsPath (Look.and (Look.word "try")
    (Look.behind 1 (Look.or (Look.sign "!") (Look.sign "::"))))

/-- An expression without operators, calls and fields. -/
def atom (structs : Bool) : Reader Node :=
  choose ([
    (Look.literal, return .literal (← literal)),
    (startsAsync, asyncBlock read),
    (wordBlock "try", return .tryBlock (← blockBehind "try" (block read))),
    (startsClosure, closure read structs),
    (startsBuiltin, builtin),
    (startsPathExpression, pathExpression read structs),
    (Look.group .round, roundExpression read),
    (Look.word "break", breaking read structs),
    (Look.word "continue", do
      word "continue"
      return .continue (← optional Look.lifetime lifetime)),
    (Look.word "return", return .return (← valueBehind read "return")),
    (Look.word "become", do
      let (_, trees) ← spanned (do
        word "become"
        expression read)
      pure (.verbatim trees)),
    (Look.group .square, array read),
    (Look.word "let", matching read structs),
    (Look.word "yield", return .yield (← valueBehind read "yield")),
    (Look.sign "..", rangeFrom read structs none),
    (Look.word "_", do
      word "_"
      pure .underscore)] ++ blockLike read)

def referenceExpression (structs : Bool) : Reader Node := do
  sign "&"
  let isRaw := Look.and (Look.word "raw")
    (Look.behind 1 (Look.or (Look.word "mut") (Look.word "const")))
  if ← sees isRaw then
    word "raw"
    let kind ← anyWord
    return .rawAddress (kind == "mut") (← read (.operand structs))
  else
    let isMutable ← wordIf "mut"
    return .reference isMutable (← read (.operand structs))

/-- An operator of one operand. -/
def unaryExpression (structs : Bool) : Reader Node := do
  let operator ← choose (["*", "!", "-"].map fun text ↦ (Look.sign text, do
    sign text
    pure text))
  return .unary operator (← read (.operand structs))

/-- The rule for expressions without operators of two operands. -/
def operandRule (structs : Bool) : Reader Node := do
  let start ← get
  let attributes ← attributes read
  if ← sees (Look.sign "&") then return attributed attributes (← referenceExpression read structs)
  else if ← sees (Look.oneOf (["*", "!", "-"].map Look.sign)) then
    return attributed attributes (← unaryExpression read structs)
  else
    let first ← atom read structs
    let whole ← read (.trailer first)
    match whole with
    | .verbatim _ =>
      let rest ← get
      pure (.verbatim (start.take (start.length - rest.length)))
    | _ =>
      if isRange whole && !attributes.isEmpty then failure
      else pure (withAttributes attributes whole)

end ProtoCrud.Code.Grammar
