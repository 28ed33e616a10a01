import ProtoCrud.Code.Grammar.Expression

/-!
# Items

What a file or a block may declare: functions, constants, types with their fields and variants,
traits and their implementations, modules and what they use. An item that is legal where it stands
but says something unusual is kept as the code it is.
-/

namespace ProtoCrud.Code.Grammar

open Reader

variable (read : Rule → Reader Node)

/-! ## Parameters and conditions -/

def itemParameters : Reader (Option (Row Node)) :=
  optional (Look.sign "<") (angledRow (do
    let attributes ← attributes read
    let parameter ← choose [
      (Look.lifetime, lifetimeParameter),
      (Look.name, typeParameter read (binder read)),
      (Look.word "const", constantParameter read),
      (Look.word "_", return .typeParameter (← anyWord) .empty none)]
    pure (attributed attributes parameter)))

/-- Whether the conditions on parameters end here. -/
def endsConditions : Look :=
  Look.oneOf [Look.finished, Look.group .curly, Look.sign ",", Look.sign ";",
    Look.signOnly ":" "::", Look.sign "="]

def condition : Reader Node := do
  if ← sees (Look.and Look.lifetime (Look.behind 1 (Look.sign ":"))) then
    let name ← lifetime
    sign ":"
    return .lifetimeCondition name (← chainUntil endsConditions "+" lifetimeBound)
  else
    let binder ← optional (Look.word "for") (binder read)
    let type ← type read true
    sign ":"
    return .typeCondition binder type (← chainUntil endsConditions "+" (statedBound read))

def conditions : Reader (Option (Row Node)) :=
  optional (Look.word "where") (do
    word "where"
    if ← sees opensParameters then failure
    else chainUntil endsConditions "," (condition read))

def genericsOf (parameters conditions : Option (Row Node)) : Generics Node :=
  ⟨parameters.getD .empty, conditions.getD .empty⟩

def declaredBounds (stop : Look) : Reader (Option (Row Node)) :=
  optional (Look.sign ":") (do
    sign ":"
    rowUntil stop "+" (statedBound read))

/-- Whether the content of parentheses says from where something can be seen. -/
def restrictsVisibility : Look
  | .group .round [.word text] :: _ => ["crate", "self", "super"].contains text
  | .group .round (.word "in" :: _) :: _ => true
  | _ => false

def visibility : Reader (Option Visibility) :=
  optional (Look.word "pub") (do
    word "pub"
    let restriction ← optional restrictsVisibility (within .round (do
      let marked ← wordIf "in"
      return .within marked (← plainPath)))
    pure (restriction.getD .everywhere))

def seen (visibility : Option Visibility) (item : Node) : Node :=
  match visibility with
  | some visibility => .visible visibility item
  | none => item

/-! ## Functions -/

def receiver : Reader Node := do
  let reference ← optional (Look.sign "&") (do
    sign "&"
    optional Look.lifetime lifetime)
  let isMutable ← wordIf "mut"
  word "self"
  let type ← optional (fun trees ↦ reference.isNone && Look.sign ":" trees) (do
    sign ":"
    type read true)
  pure (.receiver reference isMutable type)

/-- Whether an argument follows of which only the type is given. -/
def startsBareArgument : Look :=
  Look.and Look.name (Look.behind 1 (Look.sign "<"))

/-- An argument of a function that is no receiver; the open end of the list is one too. -/
def typedArgument : Reader Node := do
  if ← sees startsBareArgument then return .typed .underscore (← type read true)
  else
    let name ← pattern read
    sign ":"
    if ← signIf "..." then pure (.variadic (some name) false)
    else return .typed name (← type read true)

/-- An argument of a function, and whether it is a receiver. -/
def declaredArgument : Reader (Bool × Node) :=
  choose [
    (Look.sign "...", do
      sign "..."
      pure (false, .variadic none false)),
    (canRead (receiver read), return (true, ← receiver read)),
    (otherwise, return (false, ← typedArgument read))]

/-- The arguments of a function, at most `rounds` of them; only the first one can be a receiver. -/
def declaredInputsWithin : (first : Bool) → (rounds : Nat) → Reader (Row Node × Option Node)
  | _, 0 => failure
  | first, rounds + 1 => do
    if ← sees Look.finished then pure (.empty, none)
    else
      let attributes ← attributes read
      match ← declaredArgument read with
      | (_, .variadic name _) =>
        let comma ← optional (Look.not Look.finished) (sign ",")
        pure (.empty, some (attributed attributes (.variadic name comma.isSome)))
      | (isReceiver, argument) =>
        let argument := attributed attributes argument
        if isReceiver && !first then failure
        else if ← sees Look.finished then pure (rowFrom argument none, none)
        else
          sign ","
          let (rest, variadic) ← declaredInputsWithin false rounds
          pure (rowFrom argument (some rest), variadic)

/-- The head of a function behind what makes it special. -/
def signatureRest (marks : FunctionMarks) : Reader Node := do
  word "fn"
  let name ← identifier
  let parameters ← itemParameters read
  let (inputs, variadic) ←
    within .round (do declaredInputsWithin read true (← room))
  let output ← result read true
  let conditions ← conditions read
  pure (.signature marks name (genericsOf parameters conditions) inputs variadic output)

/-- The head of a function. -/
def signature : Reader Node := do
  let isConst ← wordIf "const"
  let isAsync ← wordIf "async"
  let isUnsafe ← wordIf "unsafe"
  let convention ← conventionIf
  signatureRest read ⟨isConst, isAsync, isUnsafe, convention⟩

/-- The head of a function of another language, and whether it is called safe. -/
def foreignSignature : Reader (Bool × Node) := do
  let isConst ← wordIf "const"
  let isAsync ← wordIf "async"
  let isUnsafe ← wordIf "unsafe"
  let isSafe ← if isUnsafe then pure false else wordIf "safe"
  let convention ← conventionIf
  return (isSafe, ← signatureRest read ⟨isConst, isAsync, isUnsafe, convention⟩)

/-- The trees behind a certain word, or all of them if they do not start with it. -/
def pastWord (text : String) (trees : List Tree) : List Tree :=
  if Look.word text trees then trees.drop 1 else trees

/-- Whether the head of a function follows behind the words that say it is called safely or not. -/
def startsCalled : Look := fun trees ↦
  let called :=
    if Look.word "extern" trees then
      if textLiteral (trees.drop 1) then trees.drop 2 else trees.drop 1
    else trees
  Look.word "fn" called

/-- Whether the head of a function follows. -/
def startsSignature : Look := fun trees ↦
  startsCalled (pastWord "unsafe" (pastWord "async" (pastWord "const" trees)))

/-- Whether the head of a function follows, which may be called safe. -/
def startsForeignSignature : Look := fun trees ↦
  let marked := pastWord "async" (pastWord "const" trees)
  startsCalled (if Look.word "safe" marked then marked.drop 1 else pastWord "unsafe" marked)

def functionBody : Reader (Option Node) :=
  choose [
    (Look.sign ";", do
      sign ";"
      pure none),
    (Look.group .curly, return some (← attributedBlock read))]

def keptIf (kept : Bool) (trees : List Tree) (item : Node) : Node :=
  if kept then .verbatim trees else item

/-! ## Values and types -/

def constantName : Reader String :=
  wordThat (Look.or Look.name (Look.word "_"))

def givenValue : Reader (Option Node) :=
  optional (Look.sign "=") (do
    sign "="
    expression read)

/-- A constant, and whether it has parameters or conditions. -/
def declaredConstant : Reader (Bool × Node) := do
  word "const"
  let name ← constantName
  let parameters ← itemParameters read
  sign ":"
  let type ← type read true
  let value ← givenValue read
  let conditions ← conditions read
  sign ";"
  pure (parameters.isSome || conditions.isSome, .constant name type value)

def hasValue : Node → Bool
  | .constant _ _ value => value.isSome
  | .static _ _ _ value => value.isSome
  | _ => false

/-- A value with one place for the whole run; it may lack its type or its value. -/
def staticValue : Reader Node := do
  word "static"
  let isMutable ← wordIf "mut"
  let name ← identifier
  let item ← choose [
    (Look.sign "=", do
      let _ ← givenValue read
      pure (.static isMutable name .underscore none)),
    (otherwise, do
      sign ":"
      let type ← type read true
      return .static isMutable name type (← givenValue read))]
  sign ";"
  pure item

/-- Where the conditions on the parameters of a type stand. -/
inductive ConditionPlace where
  | beforeDefinition
  | behindDefinition
  | anywhere
  deriving DecidableEq, Repr

/-- The name of a type, and whether a colon for bounds stands behind it. -/
def declaredType (place : ConditionPlace) : Reader (Bool × Node) := do
  word "type"
  let name ← identifier
  let parameters ← itemParameters read
  let bounds ← declaredBounds read
    (Look.oneOf [Look.word "where", Look.sign "=", Look.sign ";"])
  let early ← if place = .behindDefinition then pure none else conditions read
  let definition ← optional (Look.sign "=") (do
    sign "="
    type read true)
  let late ←
    if place = .behindDefinition || place = .anywhere && early.isNone then conditions read
    else pure none
  sign ";"
  let generics := genericsOf parameters (early.or late)
  pure (bounds.isSome, if place = .beforeDefinition then .typeAlias name generics definition
    else .associatedType name generics (bounds.getD .empty) definition)

def isDefined : Node → Bool
  | .typeAlias _ _ type => type.isSome
  | .associatedType _ _ _ type => type.isSome
  | _ => false

/-- Fields with names, between braces; structures may stand in each other down to `depth`. -/
def namedFieldsWithin : (depth : Nat) → Reader Node
  | 0 => failure
  | depth + 1 =>
    return .namedFields (← rowIn .curly (do
      let attributes ← attributes read
      let visibility ← visibility
      let isNameless ← sees (Look.word "_")
      let name ← constantName
      sign ":"
      let nested := Look.or (Look.word "struct")
        (Look.and (Look.word "union") (Look.behind 1 (Look.group .curly)))
      let type ← choose [
        (fun trees ↦ isNameless && nested trees, do
          let (_, trees) ← spanned (do
            let _ ← anyWord
            namedFieldsWithin depth)
          pure (.verbatim trees)),
        (otherwise, type read true)]
      pure (attributed attributes (seen visibility (.typed (.word name) type)))))

def namedFields : Reader Node := do
  namedFieldsWithin read (← room)

/-- Fields without names, between parentheses. -/
def placedFields : Reader Node :=
  return .placedFields (← rowIn .round (do
    let attributes ← attributes read
    let visibility ← visibility
    let type ← type read true
    pure (attributed attributes (seen visibility type))))

def structItem : Reader Node := do
  word "struct"
  let name ← identifier
  let parameters ← itemParameters read
  let early ← conditions read
  choose [
    (fun trees ↦ early.isNone && Look.group .round trees, do
      let fields ← placedFields read
      let late ← conditions read
      sign ";"
      pure (.structItem name (genericsOf parameters late) (some fields))),
    (Look.group .curly,
      return .structItem name (genericsOf parameters early) (some (← namedFields read))),
    (Look.sign ";", do
      sign ";"
      pure (.structItem name (genericsOf parameters early) none))]

/-- A variant of an enumeration; where it can be seen from is not kept. -/
def variant : Reader Node := do
  let attributes ← attributes read
  let _ ← visibility
  let name ← identifier
  let fields ← choose [
    (Look.group .curly, return some (← namedFields read)),
    (Look.group .round, return some (← placedFields read)),
    (otherwise, pure none)]
  let value ← givenValue read
  pure (attributed attributes (.variant name fields value))

def enumeration : Reader Node := do
  word "enum"
  let name ← identifier
  let parameters ← itemParameters read
  let conditions ← conditions read
  return .enumeration name (genericsOf parameters conditions) (← rowIn .curly (variant read))

/-- A structure whose fields share their place. -/
def unionItem : Reader Node := do
  word "union"
  let name ← identifier
  let parameters ← itemParameters read
  let conditions ← conditions read
  return .union name (genericsOf parameters conditions) (← namedFields read)

/-! ## Modules -/

/--
What is used, with trees of names inside each other down to `depth`, and whether a group in it names
something from the root of all; that is possible only at the beginning of a path.
-/
def usedWithin : (depth : Nat) → (roots : Bool) → Reader (Bool × Node)
  | 0, _ => failure
  | depth + 1, roots =>
    choose [
      (Look.oneOf (Look.name :: ["self", "super", "crate", "try"].map Look.word), do
        let name ← anyWord
        choose [
          (Look.sign "::", do
            sign "::"
            let (_, tree) ← usedWithin depth false
            pure (false, .usePath name tree)),
          (Look.word "as", do
            word "as"
            return (false, .useAlias name (← constantName))),
          (otherwise, pure (false, .useName name))]),
      (Look.sign "*", do
        sign "*"
        pure (false, .useAll)),
      (Look.group .curly, do
        let trees ← rowIn .curly (do
          let rooted ← if roots then signIf "::" else pure false
          let (inner, tree) ← usedWithin depth (roots && !rooted)
          pure (rooted || inner, tree))
        pure (trees.items.any Prod.fst,
          .useGroup ⟨trees.items.map Prod.snd, trees.trailing⟩))]

/-- Names made known, and whether a group in them names something from the root of all. -/
def usage : Reader (Bool × Node) := do
  word "use"
  let rooted ← signIf "::"
  let (inner, tree) ← usedWithin (← room) (!rooted)
  sign ";"
  pure (inner, .use rooted tree)

def items (item : Reader Node) : Reader Node :=
  within .curly (do
    let attributes ← innerAttributes read
    return .items attributes (← whileSeen (Look.not Look.finished) item))

def moduleItem : Reader Node := do
  let isUnsafe ← wordIf "unsafe"
  word "mod"
  let name ← wordThat (Look.or Look.name (Look.word "try"))
  let body ← choose [
    (Look.sign ";", do
      sign ";"
      pure none),
    (Look.group .curly, return some (← items read (read .item)))]
  pure (.module isUnsafe name body)

/-- An invocation in the place of an item; a semicolon follows unless a brace ends it. -/
def itemInvocation (named : Bool) : Reader Node := do
  let path ← plainPath
  sign "!"
  let name ← optional (fun trees ↦ named && (Look.name trees || Look.word "try" trees)) anyWord
  let (bracket, content) ← anyGroup
  let semicolon := bracket != .curly
  if semicolon then sign ";"
  pure (.invocationItem name ⟨path, bracket, content⟩ semicolon)

def startsItemInvocation : Look :=
  Look.oneOf ([Look.name, Look.sign "::"] ++ ["self", "super", "crate"].map Look.word)

/-- Whether a static value of another language follows. -/
def startsForeignStatic : Look :=
  Look.or (Look.word "static") (Look.and (Look.or (Look.word "unsafe") (Look.word "safe"))
    (Look.behind 1 (Look.word "static")))

/-- A static value of another language, and whether more is said of it than its type. -/
def foreignStatic : Reader (Bool × Node) := do
  let marked ← optional (Look.not (Look.word "static")) anyWord
  word "static"
  let isMutable ← wordIf "mut"
  let name ← identifier
  sign ":"
  let type ← type read true
  let value ← givenValue read
  sign ";"
  pure (marked.isSome || value.isSome, .static isMutable name type none)

def foreignItem : Reader Node := do
  let ((kept, item), trees) ← spanned (do
    let attributes ← attributes read
    let visibility ← visibility
    let (kept, item) ← choose [
      (startsForeignSignature, do
        let (isSafe, head) ← foreignSignature read
        let body ← functionBody read
        pure (isSafe || body.isSome, .function head none)),
      (startsForeignStatic, foreignStatic read),
      (Look.word "type", do
        let (bounded, item) ← declaredType read .anywhere
        pure (bounded || isDefined item, item)),
      (fun trees ↦ visibility.isNone && startsItemInvocation trees,
        return (false, ← itemInvocation false))]
    pure (kept, attributed attributes (seen visibility item)))
  pure (keptIf kept trees item)

def externCrate : Reader Node := do
  word "extern"
  word "crate"
  let name ← wordThat (Look.or Look.name (Look.word "self"))
  let newName ← optional (Look.word "as") (do
    word "as"
    constantName)
  sign ";"
  pure (.externCrate name newName)

/-- What another language provides. -/
def foreign : Reader Node := do
  let isUnsafe ← wordIf "unsafe"
  let convention ← convention
  return .foreign isUnsafe convention (← items read (foreignItem read))

/-! ## Traits -/

/-- Whether a word follows that makes an item a default. -/
def startsDefault : Look :=
  Look.and (Look.word "default") (Look.not (Look.behind 1 (Look.sign "!")))

def traitMember : Reader Node := do
  let ((kept, item), trees) ← spanned (do
    let attributes ← attributes read
    let visibility ← visibility
    let isDefault ← wordIf "default"
    let marked := visibility.isSome || isDefault
    let (kept, item) ← choose [
      (startsSignature, do
        let head ← signature read
        return (false, .function head (← functionBody read))),
      (Look.word "const", declaredConstant read),
      (Look.word "type", do
        let (_, item) ← declaredType read .behindDefinition
        pure (false, item)),
      (fun trees ↦ !marked && startsItemInvocation trees,
        return (false, ← itemInvocation false))]
    pure (marked || kept, attributed attributes item))
  pure (keptIf kept trees item)

def implementationMember : Reader Node := do
  let ((kept, item), trees) ← spanned (do
    let attributes ← attributes read
    let visibility ← visibility
    let isDefault ← if ← sees startsDefault then wordIf "default" else pure false
    let (kept, item) ← choose [
      (startsSignature, do
        let head ← signature read
        let body ← functionBody read
        pure (body.isNone, .function head body)),
      (Look.word "const", do
        let (general, item) ← declaredConstant read
        pure (general || !hasValue item, item)),
      (Look.word "type", do
        let (bounded, item) ← declaredType read .behindDefinition
        pure (bounded || !isDefined item, item)),
      (fun trees ↦ visibility.isNone && !isDefault && startsItemInvocation trees,
        return (false, ← itemInvocation false))]
    let whole := seen visibility (if isDefault then .defaulted item else item)
    pure (kept, attributed attributes whole))
  pure (keptIf kept trees item)

/-- A trait; the head alone may have another name for bounds behind it. -/
def traitItem : Reader Node := do
  let isUnsafe ← wordIf "unsafe"
  let isAuto ← wordIf "auto"
  word "trait"
  let name ← identifier
  let parameters ← itemParameters read
  if !isUnsafe && !isAuto && (← sees (Look.sign "=")) then
    sign "="
    let bounds ← rowUntil (Look.or (Look.word "where") (Look.sign ";")) "+" (plainBound read)
    let conditions ← conditions read
    sign ";"
    pure (.traitAlias name (genericsOf parameters conditions) bounds)
  else
    let bounds ← declaredBounds read (Look.oneOf [Look.word "where", Look.group .curly])
    let conditions ← conditions read
    let body ← items read (traitMember read)
    pure (.trait isUnsafe isAuto name (genericsOf parameters conditions) (bounds.getD .empty) body)

/-- The types of an implementation: the trait, whether it is denied, and the type that has it. -/
def implemented : Reader (Bool × Option Node × Node) := do
  let ((negative, first), trees) ← spanned (do
    let negative ←
      if ← sees (Look.behind 1 (Look.group .curly)) then pure false else signIf "!"
    return (negative, ← type read true))
  if ← sees (Look.word "for") then
    word "for"
    return (negative, some first, ← type read true)
  else pure (false, none, if negative then .verbatim trees else first)

def isTraitPath : Node → Bool
  | .path _ _ => true
  | _ => false

/-- An implementation, and whether it says more than its form does. -/
def implementation : Reader (Bool × Node) := do
  let isDefault ← wordIf "default"
  let isUnsafe ← wordIf "unsafe"
  word "impl"
  let parameters ← if ← sees opensParameters then itemParameters read else pure none
  let isConst := Look.or (Look.word "const")
    (Look.and (Look.sign "?") (Look.behind 1 (Look.word "const")))
  let constancy ← optional isConst (do
    let _ ← signIf "?"
    word "const")
  let (negative, trait, type) ← implemented read
  let conditions ← conditions read
  let body ← items read (implementationMember read)
  let item := Node.implementation isUnsafe (genericsOf parameters conditions) negative trait type
    body
  pure (constancy.isSome || trait.any (!isTraitPath ·), if isDefault then .defaulted item else item)

/-! ## All items -/

/-- The definition of something that can be invoked. -/
def invocable : Reader Unit := do
  word "macro"
  let _ ← identifier
  let _ ← optional (Look.group .round) anyGroup
  if ← sees (Look.group .curly) then
    let _ ← anyGroup
  else failure

/-- An item that is kept as it is only if the reader says so. -/
def plainly (reader : Reader Node) : Reader (Bool × Node) :=
  return (false, ← reader)

/-- A function as an item of its own, whose head alone is kept as it is. -/
def functionItem : Reader (Bool × Node) := do
  let head ← signature read
  let body ← functionBody read
  pure (body.isNone, .function head body)

/-- An item behind its attributes and its visibility, and whether it is kept as it is. -/
def itemContent (visible : Bool) : Reader (Bool × Node) :=
  let unsafely := fun (look : Look) ↦
    Look.or look (Look.and (Look.word "unsafe") (Look.behind 1 look))
  choose [
    (startsSignature, functionItem read),
    (Look.and (Look.word "extern") (Look.behind 1 (Look.word "crate")), plainly externCrate),
    (fun trees ↦ !visible && unsafely (Look.word "extern") trees, plainly (foreign read)),
    (Look.word "use", usage),
    (Look.word "static", do
      let item ← staticValue read
      pure (!hasValue item, item)),
    (Look.word "const", do
      let (general, item) ← declaredConstant read
      pure (general || !hasValue item, item)),
    (unsafely (Look.word "mod"), plainly (moduleItem read)),
    (Look.word "type", do
      let (bounded, item) ← declaredType read .beforeDefinition
      pure (bounded || !isDefined item, item)),
    (Look.word "struct", plainly (structItem read)),
    (Look.word "enum", plainly (enumeration read)),
    (Look.and (Look.word "union") (Look.behind 1 Look.name), plainly (unionItem read)),
    (unsafely (Look.or (Look.word "trait")
        (Look.and (Look.word "auto") (Look.behind 1 (Look.word "trait")))),
      plainly (traitItem read)),
    (Look.or (Look.word "impl") (Look.or startsDefault
        (Look.and (Look.word "unsafe") (Look.behind 1 (Look.word "impl")))), do
      let (kept, item) ← implementation read
      pure (visible || kept, item)),
    (Look.word "macro", do
      invocable
      pure (true, .verbatim [])),
    (fun trees ↦ !visible && startsItemInvocation trees, plainly (itemInvocation true))]

def itemRule : Reader Node := do
  let ((kept, item), trees) ← spanned (do
    let attributes ← attributes read
    let visibility ← visibility
    let (kept, item) ← itemContent read visibility.isSome
    pure (kept, attributed attributes (seen visibility item)))
  pure (keptIf kept trees item)

def wordPair (first second : String) : Look :=
  Look.and (Look.word first) (Look.behind 1 (Look.word second))

/-- Whether an item follows in the place of a statement. -/
def startsItem : Look :=
  let function := Look.oneOf (["unsafe", "extern", "fn"].map Look.word)
  Look.oneOf [
    Look.word "pub",
    Look.and (Look.word "crate") (Look.not (Look.behind 1 (Look.sign "::"))),
    Look.word "extern", Look.word "use",
    Look.and (Look.word "static") (Look.or (Look.behind 1 (Look.word "mut"))
      (Look.behind 1 Look.name)),
    Look.and (Look.word "const") (Look.not (Look.oneOf [
      Look.behind 1 (Look.group .curly), Look.behind 1 (Look.word "static"),
      Look.and (Look.behind 1 (Look.word "async")) (Look.not (Look.behind 2 function)),
      Look.behind 1 (Look.word "move"), Look.behind 1 (Look.sign "|")])),
    Look.and (Look.word "unsafe") (Look.not (Look.behind 1 (Look.group .curly))),
    Look.and (Look.word "async") (Look.behind 1 function),
    Look.word "fn", Look.word "mod", Look.word "type", Look.word "struct", Look.word "enum",
    Look.and (Look.word "union") (Look.behind 1 Look.name),
    wordPair "auto" "trait", Look.word "trait",
    wordPair "default" "unsafe", wordPair "default" "impl",
    Look.word "impl", Look.word "macro"]

end ProtoCrud.Code.Grammar
