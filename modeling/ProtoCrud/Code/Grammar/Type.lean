import ProtoCrud.Code.Grammar.Rule

/-!
# Types and the paths of types

A path is a chain of segments joined by `::`, possibly led by one, and a segment may have arguments
between angle brackets: lifetimes, types, constants and conditions on associated types. The path of
a trait that binds something may end with the types of a function in parentheses instead.
-/

namespace ProtoCrud.Code.Grammar

open Reader

variable (read : Rule → Reader Node)

def type (sums : Bool) : Reader Node :=
  read (.type sums)

/-! ## Paths -/

/-- Whether an angle bracket follows that opens arguments. -/
def opensArguments : Look :=
  Look.and (Look.sign "<") (Look.not (Look.oneOf [Look.sign "<=", Look.sign "<<="]))

def opensMarkedArguments : Look :=
  Look.and (Look.sign "::") (Look.behind 2 (Look.sign "<"))

/--
A segment of a path. In an expression an angle bracket is an operator, unless colons stand in front
of it.
-/
def segment (inExpression : Bool) : Reader Node := do
  if ← sees (Look.oneOf (["super", "self", "crate", "try"].map Look.word)) then
    return .segment (← anyWord) none
  else
    let name ← if ← sees (Look.word "Self") then anyWord else identifier
    let arguments ←
      optional (fun trees ↦ opensMarkedArguments trees || !inExpression && opensArguments trees)
        (read .arguments)
    pure (.segment name arguments)

/-- Whether another segment of a path follows. -/
def startsSegment : Look :=
  Look.and (Look.sign "::") (Look.not (Look.behind 2 (Look.group .round)))

def furtherSegments (inExpression : Bool) (goesOn : Look) : Reader (List Node) :=
  whileSeen goesOn (do
    sign "::"
    segment read inExpression)

def path (inExpression : Bool) : Reader Node := do
  let rooted ← signIf "::"
  let first ← segment read inExpression
  return .path rooted (first :: (← furtherSegments read inExpression startsSegment))

/-- A path that may start from a type between angle brackets, perhaps as a trait. -/
def qualifiedPath (inExpression : Bool) : Reader Node := do
  if ← sees (Look.sign "<") then
    sign "<"
    let subject ← type read true
    let trait ← optional (Look.word "as") (do
      word "as"
      path read false)
    sign ">"
    sign "::"
    let first ← segment read inExpression
    let rest ← furtherSegments read inExpression (Look.sign "::")
    match trait with
    | some (.path rooted segments) =>
      pure (.qualified subject rooted segments (first :: rest))
    | _ => pure (.qualified subject false [] (first :: rest))
  else path read inExpression

/-! ## Functions -/

def result (sums : Bool) : Reader (Option Node) :=
  optional (Look.sign "->") (do
    sign "->"
    type read sums)

/-- The arguments of a function in the place of those of a segment. -/
def roundArguments : Reader Node := do
  let inputs ← rowIn .round (type read true)
  return .round inputs (← result read false)

/-- Whether arguments in parentheses follow. -/
def opensRound : Look :=
  Look.or (Look.group .round) (Look.and (Look.sign "::") (Look.behind 2 (Look.group .round)))

/-- Segments with other arguments for the last of them, unless it has some already. -/
def applyLast (arguments : Node) : List Node → Option (List Node)
  | [] => none
  | [.segment name none] => some [.segment name (some arguments)]
  | [.segment name (some (.angled _ ⟨[], _⟩))] => some [.segment name (some arguments)]
  | [_] => none
  | segment :: rest => (applyLast arguments rest).map (segment :: ·)

/-- A path whose last segment may have the arguments of a function. -/
def traitPath : Reader Node := do
  match ← path read false with
  | .path rooted segments =>
    if (← sees opensRound) && (applyLast .never segments).isSome then
      let _ ← signIf "::"
      let arguments ← roundArguments read
      return .path rooted ((applyLast arguments segments).getD segments)
    else pure (.path rooted segments)
  | other => pure other

/-! ## Bounds -/

def lifetimeBound : Reader Node :=
  return .lifetime (← lifetime)

def lifetimeParameter : Reader Node := do
  let name ← lifetime
  let stop := Look.oneOf [Look.finished, Look.sign ",", Look.sign ">"]
  let bounds ← optional (Look.sign ":") (do
    sign ":"
    chainUntil stop "+" lifetimeBound)
  pure (.lifetimeParameter name (bounds.getD .empty))

/-- What a bound may be besides a trait or a lifetime. -/
structure BoundOptions where
  /-- Whether it may list what is captured. -/
  captures : Bool
  /-- Whether a trait may be constant. -/
  constants : Bool
  deriving DecidableEq, Repr

/-- Parameters or arguments between angle brackets. -/
def angledRow (item : Reader Node) : Reader (Row Node) := do
  sign "<"
  let row ← rowUntil (Look.sign ">") "," item
  sign ">"
  pure row

def captures : Reader Node := do
  word "use"
  return .captures (← angledRow (choose [
    (Look.lifetime, lifetimeBound),
    (Look.or Look.name (Look.word "Self"), return .word (← anyWord))]))

/-- A trait that binds a type, if it has a form of its own; `binder` reads what it is for. -/
def traitBound (options : BoundOptions) (parenthesised : Bool) (binder : Reader Node) :
    Reader (Option Node) := do
  let outer ← optional (Look.word "for") binder
  let constancy ← optional (Look.or (Look.group .square) (Look.word "const"))
    (choose [(Look.group .square, within .square (word "const")), (otherwise, word "const")])
  if constancy.isSome && !options.constants then failure
  let query ← signIf "?"
  let inner ← if query && outer.isNone then optional (Look.word "for") binder else pure outer
  let path ← traitPath read
  if query && inner.isSome then failure
  pure (if constancy.isSome then none else some (.traitBound parenthesised query inner path))

/-- A bound; one that has no form of its own is kept as it is. -/
def bound (options : BoundOptions) (binder : Reader Node) : Reader Node :=
  choose [
    (Look.lifetime, lifetimeBound),
    (Look.word "use", do
      let captured ← captures
      if options.captures then pure captured else failure),
    (otherwise, do
      let (trait, trees) ← spanned (choose [
        (Look.group .round, within .round (traitBound read options true binder)),
        (otherwise, traitBound read options false binder)])
      pure (trait.getD (.verbatim trees)))]

/-- A type among parameters, with its bounds and what it is by default. -/
def typeParameter (binder : Reader Node) : Reader Node := do
  let name ← identifier
  let stop := Look.oneOf
    [Look.finished, Look.sign ",", Look.sign ">", Look.sign "="]
  let bounds ← optional (Look.sign ":") (do
    sign ":"
    chainUntil stop "+" (bound read ⟨false, true⟩ binder))
  let fallback ← optional (Look.sign "=") (do
    sign "="
    type read true)
  pure (.typeParameter name (bounds.getD .empty) fallback)

def constantParameter : Reader Node := do
  word "const"
  let name ← identifier
  sign ":"
  let type ← type read true
  let fallback ← optional (Look.sign "=") (do
    sign "="
    constant read)
  pure (.constantParameter name type fallback)

/-- The parameters that something is for, which may be for some themselves down to `depth`. -/
def binderWithin : (depth : Nat) → Reader Node
  | 0 => failure
  | depth + 1 => do
    word "for"
    return .binder (← angledRow (do
      let attributes ← attributes read
      let parameter ← choose [
        (Look.name, typeParameter read (binderWithin depth)),
        (Look.lifetime, lifetimeParameter),
        (Look.word "const", constantParameter read)]
      pure (withAttributes attributes parameter)))

/-- The parameters that something is for. -/
def binder : Reader Node := do
  binderWithin read (← room)

def startsBound (options : BoundOptions) : Look :=
  Look.oneOf ([Look.anyWord, Look.sign "::", Look.sign "?", Look.lifetime, Look.group .round] ++
    if options.constants then [Look.group .square] else [])

def statedBound : Reader Node :=
  bound read ⟨false, true⟩ (binder read)

def plainBound : Reader Node :=
  bound read ⟨false, false⟩ (binder read)

def isTrait : Node → Bool
  | .lifetime _ => false
  | .captures _ => false
  | _ => true

/-- One bound and more behind a plus, which may end with a plus. -/
def boundsFrom (options : BoundOptions) (first : Node) : Reader (Row Node) := do
  let rest ← optional (Look.sign "+") (do
    sign "+"
    chainWithin (startsBound options) "+" (bound read options (binder read))
      (← room))
  pure (rowFrom first rest)

/-- Bounds of which at least one is a trait; just one of them unless `sums` allows more. -/
def traitBounds (options : BoundOptions) (sums : Bool) : Reader (Row Node) := do
  let first ← bound read options (binder read)
  let bounds ← if sums then boundsFrom read options first else pure (rowFrom first none)
  if bounds.items.any isTrait then pure bounds else failure

/-! ## Arguments -/

def singleName? : Node → Option (String × Option Node)
  | .path false [.segment name none] => some (name, none)
  | .path false [.segment name (some (.angled marked row))] =>
    some (name, some (.angled marked row))
  | _ => none

def associated (name : String) (arguments : Option Node) : Reader Node := do
  sign "="
  let value ← choose [
    (Look.or Look.literal (Look.group .curly), constant read),
    (otherwise, type read true)]
  pure (.equated name arguments value)

def constraint (name : String) (arguments : Option Node) : Reader Node := do
  sign ":"
  let bounds ← chainUntil (Look.or (Look.sign ",") (Look.sign ">")) "+" (statedBound read)
  pure (.constrained name arguments bounds)

def argument : Reader Node :=
  choose [
    (Look.and Look.lifetime (Look.not (Look.behind 1 (Look.sign "+"))), lifetimeBound),
    (Look.or Look.literal (Look.group .curly), constant read),
    (otherwise, do
      let type ← type read true
      match singleName? type with
      | none => pure type
      | some (name, arguments) =>
        choose [
          (Look.sign "=", associated read name arguments),
          (Look.sign ":", constraint read name arguments),
          (otherwise, pure type)])]

def argumentsRule : Reader Node := do
  let marked ← signIf "::"
  return .angled marked (← angledRow (argument read))

/-! ## Types -/

inductive Enclosed where
  /-- A type, whatever follows. -/
  | complete (type : Node)
  /-- A type in the parentheses, which may turn out to be the first bound of a sum. -/
  | single (type : Node)

/-- The content of parentheses where a type stands. -/
def enclosed : Reader Enclosed :=
  choose [
    (Look.finished, return .complete (.tuple .empty)),
    (Look.lifetime, do
      let bounds ← traitBounds read ⟨false, false⟩ true
      pure (.complete (.parenthesised (.traitObject false bounds)))),
    (Look.sign "?", do
      match ← traitBound read ⟨false, false⟩ true (binder read) with
      | some bound => pure (.single bound)
      | none => failure),
    (otherwise, do
      let first ← type read true
      if ← signIf "," then
        let rest ← rowUntil Look.finished "," (type read true)
        pure (.complete (.tuple (rowFrom first (some rest))))
      else pure (.single first))]

/-- The bound in parentheses that a type in parentheses is, if a sum can begin with it. -/
def enclosedBound? : Node → Option Node
  | .path rooted segments => some (.traitBound true false none (.path rooted segments))
  | .traitObject false ⟨[bound], false⟩ =>
    match bound with
    | .traitBound _ query binder path => some (.traitBound true query binder path)
    | other => some other
  | _ => none

def sumFrom (first : Node) : Reader Node := do
  let rest ← whileSeen (Look.sign "+") (do
    sign "+"
    plainBound read)
  pure (.traitObject false ⟨first :: rest, false⟩)

def roundType (sums : Bool) : Reader Node := do
  match ← within .round (enclosed read) with
  | .complete type => pure type
  | .single (.traitBound parenthesised query binder path) =>
    sumFrom read (.traitBound parenthesised query binder path)
  | .single type =>
    match enclosedBound? type with
    | some bound =>
      if sums && (← sees (Look.sign "+")) then sumFrom read bound else pure (.parenthesised type)
    | none => pure (.parenthesised type)

def textLiteral : Look
  | .literal text :: _ => text.toList.head? = some '"' || text.toList.head? = some 'r'
  | _ => false

/-- Whether the open end of an argument list follows. -/
def openEnd : Look :=
  Look.or (Look.sign "...")
    (Look.and (Look.or Look.name (Look.word "_"))
      (Look.and (Look.behind 1 (Look.sign ":")) (Look.behind 2 (Look.sign "..."))))

def namesArgument (first : Bool) : Look :=
  Look.and (Look.oneOf ([Look.name, Look.word "_"] ++ if first then [Look.word "self"] else []))
    (Look.and (Look.behind 1 (Look.sign ":")) (Look.not (Look.behind 1 (Look.sign "::"))))

def changingReceiver : Look :=
  Look.and (Look.word "mut") (Look.behind 1 (Look.word "self"))

def argumentName : Reader String := do
  let name ← anyWord
  sign ":"
  pure name

def bindingOf (name : String) : Node :=
  .binding false false name none

def plainFunctionArgument (first : Bool) : Reader Node := do
  let name ← optional (namesArgument first) argumentName
  let type ← type read true
  pure ((name.map fun name ↦ .typed (bindingOf name) type).getD type)

def changedReceiver : Reader Unit := do
  word "mut"
  let name ← optional (namesArgument true) argumentName
  if name.isSome then
    let _ ← type read true
  else word "self"

/-- Another way to write such a receiver, behind a name. -/
def namedReceiver : Reader Unit := do
  let _ ← argumentName
  word "mut"
  word "self"

/-- An argument of a function type; the first one may be the receiver of a method. -/
def functionArgument (first : Bool) : Reader Node :=
  choose [
    (fun trees ↦ first && changingReceiver trees,
      return .verbatim (← spanned (changedReceiver read)).2),
    (fun trees ↦ first && !Look.word "self" trees && namesArgument first trees &&
        Look.behind 2 changingReceiver trees,
      return .verbatim (← spanned namedReceiver).2),
    (otherwise, plainFunctionArgument read first)]

/-- The open end of an argument list. -/
def functionEnd : Reader Node := do
  let attributes ← attributes read
  let name ← optional (Look.not (Look.sign "...")) argumentName
  sign "..."
  let comma ← signIf ","
  pure (withAttributes attributes (.variadic (name.map bindingOf) comma))

def pastAttributes (trees : List Tree) : List Tree :=
  match attributes read trees with
  | some (_, rest) => rest
  | none => trees

/-- The arguments of a function type, at most `rounds` of them, and its open end. -/
def functionInputsWithin : (first : Bool) → (rounds : Nat) → Reader (Row Node × Option Node)
  | _, 0 => failure
  | first, rounds + 1 => do
    if ← sees Look.finished then pure (.empty, none)
    else if ← sees (fun trees ↦ openEnd (pastAttributes read trees)) then
      return (.empty, some (← functionEnd read))
    else
      let attributes ← attributes read
      let argument := attributed attributes (← functionArgument read first)
      if ← sees Look.finished then pure (rowFrom argument none, none)
      else
        sign ","
        let (rest, variadic) ← functionInputsWithin false rounds
        pure (rowFrom argument (some rest), variadic)

def convention : Reader Convention := do
  word "extern"
  return ⟨← optional textLiteral literal⟩

def conventionIf : Reader (Option Convention) :=
  optional (Look.word "extern") convention

def functionType (binder : Option Node) : Reader Node := do
  let isUnsafe ← wordIf "unsafe"
  let convention ← conventionIf
  word "fn"
  let (inputs, variadic) ←
    within .round (do functionInputsWithin read true (← room))
  return .functionType binder isUnsafe convention inputs variadic (← result read false)

def startsFunction : Look :=
  Look.oneOf (["fn", "unsafe", "extern"].map Look.word)

def startsPath : Look :=
  Look.oneOf ([Look.name, Look.sign "::", Look.sign "<"] ++
    ["super", "self", "Self", "crate"].map Look.word)

/-- Whether something follows that the compiler itself provides. -/
def startsBuiltin : Look :=
  Look.and (Look.word "builtin") (Look.behind 1 (Look.sign "#"))

/-- Something that the compiler itself provides. -/
def builtin : Reader Node := do
  let (_, trees) ← spanned (do
    word "builtin"
    sign "#"
    let _ ← identifier
    if ← sees (Look.group .round) then
      let _ ← anyGroup
    else failure)
  pure (.verbatim trees)

def pathType (sums : Bool) (binder : Option Node) : Reader Node := do
  let path ← qualifiedPath read false
  match path, plainPath? path with
  | .path _ _, plain =>
    if plain.isSome && (← sees startsInvocation) then
      match plain with
      | some plain => return .invocation (← invocationOf plain)
      | none => failure
    else if binder.isSome || sums && (← sees (Look.sign "+")) then
      let first := Node.traitBound false false binder path
      if sums then return .traitObject false (← boundsFrom read ⟨false, false⟩ first)
      else pure (.traitObject false (rowFrom first none))
    else pure path
  | _, _ => pure path

def squareType : Reader Node :=
  within .square do
    let element ← type read true
    if ← signIf ";" then return .arrayType element (← expression read)
    else pure (.slice element)

/-- A type with the word for any type that has a trait; a star behind it keeps it as it is. -/
def anyTraitType (sums : Bool) : Reader Node := do
  let ((starred, bounds), trees) ← spanned (do
    word "dyn"
    let starred ← signIf "*"
    return (starred, ← traitBounds read ⟨false, false⟩ sums))
  pure (if starred then .verbatim trees else .traitObject true bounds)

def pointerType : Reader Node := do
  sign "*"
  let kind ← wordThat (Look.or (Look.word "const") (Look.word "mut"))
  return .pointer (kind == "mut") (← type read false)

def referenceType : Reader Node := do
  sign "&"
  let lifetime ← optional Look.lifetime lifetime
  let isMutable ← wordIf "mut"
  return .referenceType lifetime isMutable (← type read false)

def boundType (sums : Bool) : Reader Node := do
  let binder ← binder read
  choose [
    (startsFunction, functionType read (some binder)),
    (Look.oneOf ([Look.name] ++ ["super", "self", "Self", "crate"].map Look.word),
      pathType read sums (some binder))]

def typeRule (sums : Bool) : Reader Node :=
  choose [
    (Look.word "for", boundType read sums),
    (Look.group .round, roundType read sums),
    (startsFunction, functionType read none),
    (startsBuiltin, builtin),
    (startsPath, pathType read sums none),
    (Look.word "dyn", anyTraitType read sums),
    (Look.group .square, squareType read),
    (Look.sign "*", pointerType read),
    (Look.sign "&", referenceType read),
    (Look.signOnly "!" "!=", do
      sign "!"
      pure .never),
    (Look.word "impl", do
      word "impl"
      return .implTrait (← traitBounds read ⟨true, true⟩ sums)),
    (Look.word "_", do
      word "_"
      pure .underscore),
    (Look.lifetime, return .traitObject false (← traitBounds read ⟨false, false⟩ true))]

end ProtoCrud.Code.Grammar
