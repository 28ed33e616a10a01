import ProtoCrud.Code.Precedence

/-!
# The tokens of syntax trees

A tree is spelt the way it was read, with a few differences. Among parameters and arguments the
lifetimes come first, and what has nothing behind its sign, such as bounds without a bound, loses
the sign. Two kinds of expressions stand in parentheses although they were read without: operations
with attributes, and conversions to a type that an angle bracket behind it would go on with.
-/

namespace ProtoCrud.Code

/-- A word or a sign. -/
def bare (text : String) : List Token :=
  [.plain text]

/-- A word or a sign, unless it is left out. -/
def bareIf (given : Bool) (text : String) : List Token :=
  if given then bare text else []

def separated (separator : String) : List (List Token) → List Token
  | [] => []
  | [item] => item
  | item :: next :: rest => item ++ .plain separator :: separated separator (next :: rest)

def rowTokens (separator : String) (row : Row (List Token)) : List Token :=
  separated separator row.items ++ bareIf (row.trailing && !row.isEmpty) separator

/-- A sign and what stands behind it, unless that is nothing. -/
def headed (head tokens : List Token) : List Token :=
  if tokens.isEmpty then [] else head ++ tokens

def behindSign (sign : String) (tokens : Option (List Token)) : List Token :=
  tokens.elim [] (.plain sign :: ·)

def isLifetime : Node → Bool
  | .attributed _ content => isLifetime content
  | .lifetime _ => true
  | .lifetimeParameter _ _ => true
  | _ => false

structure Separated where
  leads : Bool
  tokens : List Token
  comma : Bool

/-- Items of a row with their separators; `leads` says of each whether it is a lifetime. -/
def withCommas (trailing : Bool) : List Bool → List (List Token) → List Separated
  | leads :: moreLeads, tokens :: moreTokens =>
    ⟨leads, tokens, !moreTokens.isEmpty || trailing⟩ :: withCommas trailing moreLeads moreTokens
  | _, _ => []

/-- Items that each bring their comma, of which one more is needed after an item without. -/
def joinedItems : (isOpen : Bool) → List Separated → List Token
  | _, [] => []
  | isOpen, item :: rest =>
    bareIf (!isOpen) "," ++ item.tokens ++ bareIf item.comma "," ++ joinedItems item.comma rest

def lifetimesFirst (leads : List Bool) (row : Row (List Token)) : List Token :=
  let items := withCommas row.trailing leads row.items
  joinedItems true (items.filter (·.leads) ++ items.filter (!·.leads))

/-- The tokens of a path without arguments. -/
def PlainPath.tokens (path : PlainPath) : List Token :=
  bareIf path.rooted "::" ++ separated "::" (path.names.map bare)

def Invocation.tokens (invocation : Invocation) : List Token :=
  invocation.path.tokens ++ .plain "!" :: invocation.bracket.around (treeTokens invocation.content)

def Convention.tokens (convention : Convention) : List Token :=
  .plain "extern" :: (convention.name.map literalToken).toList

/-- The tokens that say from where an item can be seen. -/
def Visibility.tokens : Visibility → List Token
  | .everywhere => bare "pub"
  | .within marked path => .plain "pub" :: Bracket.round.around (bareIf marked "in" ++ path.tokens)

def FunctionMarks.tokens (marks : FunctionMarks) : List Token :=
  bareIf marks.isConst "const" ++ bareIf marks.isAsync "async" ++ bareIf marks.isUnsafe "unsafe" ++
    (marks.convention.map Convention.tokens).getD []

def ClosureMarks.tokens (marks : ClosureMarks) : List Token :=
  bareIf marks.isConst "const" ++ bareIf marks.isStatic "static" ++
    bareIf marks.isAsync "async" ++ bareIf marks.isMove "move"

def lifetimeToken (name : String) : Token :=
  .plain ("'" ++ name)

/-- The tokens of a lifetime that may be left out. -/
def lifetimeTokens (name : Option String) : List Token :=
  (name.map lifetimeToken).toList

/-- The tokens of a path that starts from a type. -/
def qualifiedTokens (subject : List Token) (rooted : Bool) (trait segments : List (List Token)) :
    List Token :=
  let behind :=
    if trait.isEmpty then [] else .plain "as" :: bareIf rooted "::" ++ separated "::" trait
  .plain "<" :: subject ++ behind ++ [.plain ">", .plain "::"] ++ separated "::" segments

/-- The inputs of a function with its open end. -/
def inputTokens (inputs : Row (List Token)) (variadic : Option (List Token)) : List Token :=
  Bracket.round.around (rowTokens "," inputs ++ variadic.getD [])

def Token.isName : Token → Bool
  | .plain text => text != "_" && text.toList.head?.any fun c ↦ c == '_' || isWordChar c
  | _ => false

/-- Whether an angle bracket behind a type would belong to it. -/
def takesArguments (type : List Token) : Bool :=
  type.getLast?.any Token.isName

/-- Whether a sign could open the arguments of a path in front of it. -/
def opensGenerics (operator : String) : Bool :=
  operator == "<" || operator == "<<"

/-- Whether an expression with attributes stands in parentheses. -/
def isOperation : Node → Bool
  | .assign _ _ => true
  | .binary _ _ _ => true
  | .cast _ _ => true
  | .range _ _ _ => true
  | _ => false

def beginsWithLabel : Node → Bool
  | .attributed _ content => beginsWithLabel content
  | .labelled _ _ => true
  | .assign left _ => beginsWithLabel left
  | .await value => beginsWithLabel value
  | .binary _ left _ => beginsWithLabel left
  | .call head _ => beginsWithLabel head
  | .cast value _ => beginsWithLabel value
  | .field value _ => beginsWithLabel value
  | .index value _ => beginsWithLabel value
  | .methodCall receiver _ _ _ => beginsWithLabel receiver
  | .range (some first) _ _ => beginsWithLabel first
  | .try value => beginsWithLabel value
  | _ => false

def groupedIf (needed : Bool) (tokens : List Token) : List Token :=
  if needed then Bracket.round.around tokens else tokens

/-- Whether the fields of a structure have no names. -/
def isPlaced : Option Node → Bool
  | some (.placedFields _) => true
  | _ => false

def declaration (words : List Token) (name : String) (parameters : List Token) : List Token :=
  words ++ .plain name :: parameters

mutual
/--
The tokens of a tree; `generics` says whether a sign follows that could open the arguments of a
path.
-/
def Node.spell (generics : Bool) : Node → List Token
  | .attributed attributes content =>
    (spellAll attributes).flatten ++ groupedIf (isOperation content) (content.spell false)
  | .attribute inner path group value =>
    .plain "#" :: bareIf inner "!" ++ Bracket.square.around (path.tokens ++
      group.elim [] (fun (bracket, content) ↦ bracket.around (treeTokens content)) ++
      behindSign "=" (spellOption value))
  | .verbatim trees => treeTokens trees
  | .lifetime name => [lifetimeToken name]
  | .word text => bare text
  | .literal text => [literalToken text]
  | .underscore => bare "_"
  | .invocation invocation => invocation.tokens
  | .parenthesised content => Bracket.round.around (content.spell false)
  | .tuple items => Bracket.round.around (rowTokens "," (spellRow items))
  | .list items => Bracket.square.around (rowTokens "," (spellRow items))
  | .call head items => head.spell false ++ Bracket.round.around (rowTokens "," (spellRow items))
  | .reference isMutable content => .plain "&" :: bareIf isMutable "mut" ++ content.spell false
  | .range first closed last =>
    (spellOption first).getD [] ++ .plain (if closed then "..=" else "..") ::
      (spellOption last).getD []
  | .typed content type => content.spell false ++ .plain ":" :: type.spell false
  | .path rooted segments => bareIf rooted "::" ++ separated "::" (spellAll segments)
  | .qualified subject rooted trait segments =>
    qualifiedTokens (subject.spell false) rooted (spellAll trait) (spellAll segments)
  | .segment name arguments => .plain name :: (spellOption arguments).getD []
  | .angled marked arguments =>
    bareIf marked "::" ++
      angled (lifetimesFirst (arguments.items.map isLifetime) (spellRow arguments))
  | .round inputs output =>
    Bracket.round.around (rowTokens "," (spellRow inputs)) ++ behindSign "->" (spellOption output)
  | .equated name arguments value =>
    .plain name :: (spellOption arguments).getD [] ++ .plain "=" :: value.spell false
  | .constrained name arguments bounds =>
    .plain name :: (spellOption arguments).getD [] ++ .plain ":" :: rowTokens "+" (spellRow bounds)
  | .traitBound parenthesised query binder path =>
    groupedIf parenthesised
      (bareIf query "?" ++ (spellOption binder).getD [] ++ path.spell false)
  | .captures parameters =>
    .plain "use" :: angled (lifetimesFirst (parameters.items.map isLifetime) (spellRow parameters))
  | .binder parameters => .plain "for" :: angled (rowTokens "," (spellRow parameters))
  | .arrayType element length =>
    Bracket.square.around (element.spell false ++ .plain ";" :: length.spell false)
  | .functionType binder isUnsafe convention inputs variadic output =>
    (spellOption binder).getD [] ++ bareIf isUnsafe "unsafe" ++
      (convention.map Convention.tokens).getD [] ++ .plain "fn" ::
      inputTokens (spellRow inputs) (spellOption variadic) ++ behindSign "->" (spellOption output)
  | .variadic name comma =>
    (spellOption name).elim [] (· ++ bare ":") ++ .plain "..." :: bareIf comma ","
  | .implTrait bounds => .plain "impl" :: rowTokens "+" (spellRow bounds)
  | .never => bare "!"
  | .pointer isMutable type =>
    .plain "*" :: .plain (if isMutable then "mut" else "const") :: type.spell false
  | .referenceType lifetime isMutable type =>
    .plain "&" :: lifetimeTokens lifetime ++ bareIf isMutable "mut" ++ type.spell false
  | .slice element => Bracket.square.around (element.spell false)
  | .traitObject marked bounds => bareIf marked "dyn" ++ rowTokens "+" (spellRow bounds)
  | .assign left right => left.spell false ++ .plain "=" :: right.spell false
  | .asyncBlock isMove block => .plain "async" :: bareIf isMove "move" ++ block.spell false
  | .await value => value.spell false ++ [.plain ".", .plain "await"]
  | .binary operator left right =>
    left.spell (opensGenerics operator) ++ .plain operator :: right.spell generics
  | .block attributes statements =>
    Bracket.curly.around ((spellAll attributes).flatten ++ (spellAll statements).flatten)
  | .labelled label content => lifetimeToken label :: .plain ":" :: content.spell false
  | .break label value =>
    .plain "break" :: lifetimeTokens label ++
      groupedIf (label.isNone && value.any beginsWithLabel) ((spellOption value).getD [])
  | .cast value type =>
    let target := type.spell false
    groupedIf (generics && takesArguments target)
      (value.spell false ++ .plain "as" :: target)
  | .closure binder marks inputs output body =>
    (spellOption binder).getD [] ++ marks.tokens ++ .plain "|" :: rowTokens "," (spellRow inputs) ++
      .plain "|" :: behindSign "->" (spellOption output) ++ body.spell false
  | .constBlock block => .plain "const" :: block.spell false
  | .continue label => .plain "continue" :: lifetimeTokens label
  | .field value name => value.spell false ++ [.plain ".", .plain name]
  | .forLoop pattern iterated body =>
    .plain "for" :: pattern.spell false ++ .plain "in" :: iterated.spell false ++ body.spell false
  | .conditional condition block otherwise =>
    .plain "if" :: condition.spell false ++ block.spell false ++
      behindSign "else" (spellOption otherwise)
  | .index value index => value.spell false ++ Bracket.square.around (index.spell false)
  | .matching pattern value =>
    .plain "let" :: pattern.spell false ++ .plain "=" :: value.spell false
  | .loop body => .plain "loop" :: body.spell false
  | .cases subject attributes arms =>
    .plain "match" :: subject.spell false ++
      Bracket.curly.around ((spellAll attributes).flatten ++ (spellAll arms).flatten)
  | .arm pattern guard body comma =>
    pattern.spell false ++ behindSign "if" (spellOption guard) ++ .plain "=>" ::
      body.spell false ++ bareIf comma ","
  | .methodCall receiver name arguments items =>
    receiver.spell false ++ .plain "." :: .plain name :: (spellOption arguments).getD [] ++
      Bracket.round.around (rowTokens "," (spellRow items))
  | .rawAddress isMutable value =>
    .plain "&" :: .plain "raw" :: .plain (if isMutable then "mut" else "const") ::
      value.spell false
  | .repeated value length =>
    Bracket.square.around (value.spell false ++ .plain ";" :: length.spell false)
  | .return value => .plain "return" :: (spellOption value).getD []
  | .structure path fields hasRest rest =>
    path.spell false ++ Bracket.curly.around (rowTokens "," (spellRow fields) ++
      bareIf hasRest ".." ++ (spellOption rest).getD [])
  | .namedValue name colon value =>
    if colon then .plain name :: .plain ":" :: value.spell false else value.spell false
  | .try value => value.spell false ++ bare "?"
  | .tryBlock block => .plain "try" :: block.spell false
  | .unary operator value => .plain operator :: value.spell false
  | .unsafeBlock block => .plain "unsafe" :: block.spell false
  | .whileLoop condition body => .plain "while" :: condition.spell false ++ body.spell false
  | .yield value => .plain "yield" :: (spellOption value).getD []
  | .binding isReference isMutable name pattern =>
    bareIf isReference "ref" ++ bareIf isMutable "mut" ++ .plain name ::
      behindSign "@" (spellOption pattern)
  | .alternatives leading cases => bareIf leading "|" ++ separated "|" (spellAll cases)
  | .rest => bare ".."
  | .structPattern path fields rest =>
    path.spell false ++
      Bracket.curly.around (rowTokens "," (spellRow fields) ++ (spellOption rest).getD [])
  | .local pattern value otherwise =>
    .plain "let" :: pattern.spell false ++ behindSign "=" (spellOption value) ++
      behindSign "else" (spellOption otherwise) ++ bare ";"
  | .statement expression semicolon => expression.spell false ++ bareIf semicolon ";"
  | .invocationStatement invocation semicolon => invocation.tokens ++ bareIf semicolon ";"
  | .visible visibility item => visibility.tokens ++ item.spell false
  | .defaulted item => .plain "default" :: item.spell false
  | .lifetimeParameter name bounds =>
    lifetimeToken name :: headed (bare ":") (rowTokens "+" (spellRow bounds))
  | .typeParameter name bounds fallback =>
    .plain name :: headed (bare ":") (rowTokens "+" (spellRow bounds)) ++
      behindSign "=" (spellOption fallback)
  | .constantParameter name type fallback =>
    .plain "const" :: .plain name :: .plain ":" :: type.spell false ++
      behindSign "=" (spellOption fallback)
  | .lifetimeCondition name bounds =>
    lifetimeToken name :: .plain ":" :: rowTokens "+" (spellRow bounds)
  | .typeCondition binder type bounds =>
    (spellOption binder).getD [] ++ type.spell false ++ .plain ":" ::
      rowTokens "+" (spellRow bounds)
  | .constant name type value =>
    .plain "const" :: .plain name :: .plain ":" :: type.spell false ++
      behindSign "=" (spellOption value) ++ bare ";"
  | .static isMutable name type value =>
    .plain "static" :: bareIf isMutable "mut" ++ .plain name :: .plain ":" :: type.spell false ++
      behindSign "=" (spellOption value) ++ bare ";"
  | .typeAlias name generics type =>
    let (parameters, conditions) := spellGenerics generics
    declaration (bare "type") name parameters ++ conditions ++ behindSign "=" (spellOption type) ++
      bare ";"
  | .associatedType name generics bounds type =>
    let (parameters, conditions) := spellGenerics generics
    declaration (bare "type") name parameters ++
      headed (bare ":") (rowTokens "+" (spellRow bounds)) ++ behindSign "=" (spellOption type) ++
      conditions ++ bare ";"
  | .function signature body => signature.spell false ++ (spellOption body).getD (bare ";")
  | .signature marks name generics inputs variadic output =>
    let (parameters, conditions) := spellGenerics generics
    declaration (marks.tokens ++ bare "fn") name parameters ++
      inputTokens (spellRow inputs) (spellOption variadic) ++
      behindSign "->" (spellOption output) ++ conditions
  | .receiver reference isMutable type =>
    reference.elim [] (fun lifetime ↦ .plain "&" :: lifetimeTokens lifetime) ++
      bareIf isMutable "mut" ++ .plain "self" :: behindSign ":" (spellOption type)
  | .namedFields fields => Bracket.curly.around (rowTokens "," (spellRow fields))
  | .placedFields fields => Bracket.round.around (rowTokens "," (spellRow fields))
  | .structItem name generics fields =>
    let (parameters, conditions) := spellGenerics generics
    let content := (spellOption fields).getD []
    declaration (bare "struct") name parameters ++
      if isPlaced fields then content ++ conditions ++ bare ";"
      else conditions ++ content ++ bareIf fields.isNone ";"
  | .union name generics fields =>
    let (parameters, conditions) := spellGenerics generics
    declaration (bare "union") name parameters ++ conditions ++ fields.spell false
  | .enumeration name generics variants =>
    let (parameters, conditions) := spellGenerics generics
    declaration (bare "enum") name parameters ++ conditions ++
      Bracket.curly.around (rowTokens "," (spellRow variants))
  | .variant name fields value =>
    .plain name :: (spellOption fields).getD [] ++ behindSign "=" (spellOption value)
  | .externCrate name newName =>
    .plain "extern" :: .plain "crate" :: .plain name :: behindSign "as" (newName.map bare) ++
      bare ";"
  | .foreign isUnsafe convention body =>
    bareIf isUnsafe "unsafe" ++ convention.tokens ++ body.spell false
  | .implementation isUnsafe generics negative trait type body =>
    let (parameters, conditions) := spellGenerics generics
    bareIf isUnsafe "unsafe" ++ .plain "impl" :: parameters ++
      (spellOption trait).elim [] (fun trait ↦ bareIf negative "!" ++ trait ++ bare "for") ++
      type.spell false ++ conditions ++ body.spell false
  | .items attributes items =>
    Bracket.curly.around ((spellAll attributes).flatten ++ (spellAll items).flatten)
  | .module isUnsafe name body =>
    bareIf isUnsafe "unsafe" ++ .plain "mod" :: .plain name :: (spellOption body).getD (bare ";")
  | .trait isUnsafe isAuto name generics bounds body =>
    let (parameters, conditions) := spellGenerics generics
    declaration (bareIf isUnsafe "unsafe" ++ bareIf isAuto "auto" ++ bare "trait") name
        parameters ++
      headed (bare ":") (rowTokens "+" (spellRow bounds)) ++ conditions ++ body.spell false
  | .traitAlias name generics bounds =>
    let (parameters, conditions) := spellGenerics generics
    declaration (bare "trait") name parameters ++ .plain "=" :: rowTokens "+" (spellRow bounds) ++
      conditions ++ bare ";"
  | .use rooted tree => .plain "use" :: bareIf rooted "::" ++ tree.spell false ++ bare ";"
  | .usePath name tree => .plain name :: .plain "::" :: tree.spell false
  | .useName name => bare name
  | .useAlias name newName => [.plain name, .plain "as", .plain newName]
  | .useAll => bare "*"
  | .useGroup trees => Bracket.curly.around (rowTokens "," (spellRow trees))
  | .invocationItem name invocation semicolon =>
    invocation.path.tokens ++ .plain "!" :: (name.map Token.plain).toList ++
      invocation.bracket.around (treeTokens invocation.content) ++ bareIf semicolon ";"

def spellAll : List Node → List (List Token)
  | [] => []
  | node :: rest => node.spell false :: spellAll rest

/-- The tokens of a tree that may be left out. -/
def spellOption : Option Node → Option (List Token)
  | none => none
  | some node => some (node.spell false)

def spellRow : Row Node → Row (List Token)
  | ⟨items, trailing⟩ => ⟨spellAll items, trailing⟩

def spellGenerics : Generics Node → List Token × List Token
  | ⟨parameters, conditions⟩ =>
    let given := lifetimesFirst (parameters.items.map isLifetime) (spellRow parameters)
    (if given.isEmpty then [] else angled given,
      headed (bare "where") (rowTokens "," (spellRow conditions)))
end

def Node.tokens (node : Node) : List Token :=
  node.spell false

end ProtoCrud.Code
