import ProtoCrud.Code.Layout.Part

/-!
# The layout of syntax trees

The steps of every tree, as a function of the place where it stands. What is empty is left out,
such as parameters, empty statements and the sign in front of the first of several patterns; code
that has been kept because it has no form of its own cannot be laid out.
-/

namespace ProtoCrud.Code.Layout

mutual
def layTree (place : Place) : Node → Steps
  | .attributed attributes content =>
    match place with
    | .armBody =>
      if isBlock content then layTree .lines content
      else armSteps (.attributed attributes content)
        ((layAll .plain attributes).flatten ++ layTree (.value .nothing true) content)
    | place =>
      (layAll .plain attributes).flatten ++
        if isOperation content then text "(" ++ layTree .alone content ++ text ")"
        else layTree place content
  | .attribute inner path group value =>
    attributeSteps inner path group value (layOption .alone value)
  | .verbatim trees => if trees.isEmpty then [] else [.impossible]
  | .lifetime name => text ("'" ++ name)
  | .word word => text word
  | .literal literal => place.around (.literal literal) (text literal)
  | .underscore => place.around .underscore (text "_")
  | .invocation invocation =>
    place.around (.invocation invocation) (invocationSteps invocation none false)
  | .parenthesised content =>
    place.around (.parenthesised content) (text "(" ++ layTree place.inner content ++ text ")")
  | .tuple ⟨items, trailing⟩ =>
    let steps := layAll place.inner items
    match place with
    | .pattern => tuplePatternSteps trailing steps
    | .armBody => if items.isEmpty then text "\x7b\x7d" else
        armSteps (.tuple ⟨items, trailing⟩) (tupleSteps steps)
    | place => place.around (.tuple ⟨items, trailing⟩) (tupleSteps steps)
  | .list ⟨items, trailing⟩ =>
    let steps := layAll place.inner items
    match place with
    | .pattern => text "[" ++ listed steps ++ text "]"
    | place => place.around (.list ⟨items, trailing⟩) (arraySteps items steps)
  | .call head ⟨items, trailing⟩ =>
    match place with
    | .pattern => layTree .pattern head ++ enclosed "(" (listed (layAll .pattern items)) ")"
    | place =>
      let start :=
        if place.isChain then layTree (chainStart head place.lineStart) head
        else grouped ((levelBefore chained head).below .closed) chained fun inner ↦
          layTree (if place.lineStart then .value inner.following true else inner) head
      place.around (.call head ⟨items, trailing⟩) (start ++ callSteps items (layAll .alone items))
  | .reference isMutable content =>
    match place with
    | .pattern => text "&" ++ textIf isMutable "mut " ++ layTree .pattern content
    | place =>
      let needed := (levelBefore place.following content).below .operand
      place.around (.reference isMutable content) (text "&" ++ textIf isMutable "mut " ++
        grouped needed place.following fun inner ↦ layTree inner content)
  | .range first closed last =>
    let start := match first with
      | none => []
      | some first =>
        grouped ((levelBefore chained first).rank ≤ Level.range.rank) chained fun inner ↦
          layTree inner first
    let stop := match last with
      | none => []
      | some last =>
        grouped ((levelBefore place.following last).rank ≤ Level.range.rank) place.following
          fun inner ↦ layTree inner last
    place.around (.range first closed last) (start ++ text (if closed then "..=" else "..") ++ stop)
  | .typed content type => layTree .pattern content ++ text ": " ++ layTree .plain type
  | .path rooted segments =>
    place.around (.path rooted segments)
      (textIf rooted "::" ++ joined (text "::") (layAll place.inner segments))
  | .qualified subject rooted trait segments =>
    let behind :=
      if trait.isEmpty then []
      else text " as " ++ textIf rooted "::" ++ joined (text "::") (layAll .plain trait)
    place.around (.qualified subject rooted trait segments)
      (text "<" ++ layTree .plain subject ++ behind ++ text ">" ++
        (layAll place.inner segments).flatMap (text "::" ++ ·))
  | .segment name arguments => text name ++ (layOption place arguments).getD []
  | .angled _ ⟨items, _⟩ =>
    let steps := lifetimesLeading (items.map isLifetime) (layAll .plain items)
    if steps.isEmpty then []
    else textIf place.marksArguments "::" ++ angledSteps indentation steps
  | .round ⟨items, _⟩ output =>
    boxed indentation (outdented (text "(" ++ zeroGap ++ listed (layAll .plain items)) ++
      text ")" ++ outputSteps (layOption .plain output))
  | .equated name arguments value =>
    text name ++ (layOption .plain arguments).getD [] ++ text " = " ++ layTree .plain value
  | .constrained name arguments ⟨bounds, _⟩ =>
    text name ++ (layOption .plain arguments).getD [] ++
      filled indentation (brokenBounds ": " (layAll .plain bounds))
  | .traitBound parenthesised query binder path =>
    textIf parenthesised "(" ++ (layOption .plain binder).getD [] ++ textIf query "?" ++
      layTree .plain path ++ textIf parenthesised ")"
  | .captures ⟨parameters, _⟩ =>
    text "use<" ++ joined (text ", ") (layAll .plain parameters) ++ text ">"
  | .binder ⟨parameters, _⟩ =>
    text "for<" ++ joined (text ", ") (layAll .plain parameters) ++ text "> "
  | .arrayType element length =>
    text "[" ++ layTree .plain element ++ text "; " ++ layTree .alone length ++ text "]"
  | .functionType binder isUnsafe convention ⟨inputs, _⟩ variadic output =>
    (layOption .plain binder).getD [] ++ textIf isUnsafe "unsafe " ++
      convention.elim [] conventionSteps ++ text "fn(" ++
      inputSteps indentation (layAll .plain inputs) (layOption .plain variadic) ++ text ")" ++
      outputSteps (layOption .plain output)
  | .variadic name _ => (layOption .pattern name).elim [] (· ++ text ": ") ++ text "..."
  | .implTrait ⟨bounds, _⟩ => text "impl " ++ joined (text " + ") (layAll .plain bounds)
  | .never => text "!"
  | .pointer isMutable type =>
    text (if isMutable then "*mut " else "*const ") ++ layTree .plain type
  | .referenceType lifetime isMutable type =>
    text "&" ++ lifetime.elim [] (fun name ↦ text ("'" ++ name) ++ text " ") ++
      textIf isMutable "mut " ++ layTree .plain type
  | .slice element => text "[" ++ layTree .plain element ++ text "]"
  | .traitObject _ ⟨bounds, _⟩ => text "dyn " ++ joined (text " + ") (layAll .plain bounds)
  | .assign left right =>
    place.around (.assign left right) (filled 0
      (grouped ((levelBefore chained left).rank ≤ Level.range.rank) chained
          (fun inner ↦ layTree inner left) ++
        text " = " ++ neverGap ++ layTree (.value place.following false) right))
  | .asyncBlock isMove block =>
    place.around (.asyncBlock isMove block) (text "async " ++ textIf isMove "move " ++
      boxed indentation (layTree .body block))
  | .await value =>
    let steps := layTree (chainStart value place.lineStart) value ++
      (if place.lineStart && isShortName value then [] else zeroGap) ++ text ".await"
    place.around (.await value) (if place.isChain then steps else boxed indentation steps)
  | .binary operator left right =>
    place.around (.binary operator left right) (filled indentation
      (filled (-indentation) (grouped (groupsLeft operator left) (leftOf operator)
          fun inner ↦ layTree inner left) ++
        space ++ text operator ++ text " " ++
        grouped (groupsRight operator place.following right) place.following
          fun inner ↦ layTree inner right))
  | .block attributes statements =>
    let mode := place.modeOfLast attributes statements
    let content := (layAll .plain attributes).flatten ++ layStatements mode statements
    let isEmpty := attributes.isEmpty && statements.isEmpty
    match place with
    | .body => smallBlock isEmpty content
    | .lines => lineBlock content
    | .branch =>
      if statements.isEmpty then text "\x7b\x7d"
      else outdented (text "\x7b" ++ lineEnd ++ content) ++ text "\x7d"
    | .unclosed => unclosedSteps content
    | .armBody => if mode = .unwrapped then content else lineBlock content
    | place => place.around (.block attributes statements)
        (boxed indentation (smallBlock isEmpty content))
  | .labelled label content =>
    let inner := if place matches .armBody && isBlock content then .lines else .alone
    place.around (.labelled label content)
      (text ("'" ++ label ++ ": ") ++ layTree inner content)
  | .break label value =>
    let needed := label.isNone && value.any beginsWithLabel
    let rest := match value with
      | none => []
      | some value => text " " ++ grouped needed place.following fun inner ↦ layTree inner value
    place.around (.break label value) (text "break" ++
      label.elim [] (fun name ↦ text " " ++ text ("'" ++ name)) ++ rest)
  | .cast value type =>
    place.around (.cast value type) (filled indentation
      (filled (-indentation) (grouped ((levelBefore chained value).below .conversion) chained
          fun inner ↦ layTree inner value) ++
        space ++ text "as " ++ layTree .plain type))
  | .closure binder marks ⟨inputs, trailing⟩ output body =>
    let words := (layOption .plain binder).getD [] ++ closureMarkSteps marks
    let given := text "|" ++ (if inputs.isEmpty then [] else zeroGap) ++
      joined (text "," ++ space) (layAll .pattern inputs)
    let content := match output with
      | none =>
        boxed indentation (outdented (given ++ text "|" ++ space)) ++ neverGap ++
          closureBody body (layTree (.value place.following false) body)
      | some output =>
        boxed indentation
            ((if inputs.isEmpty then given else outdented (given ++ comma true)) ++ text "|") ++
          text " -> " ++ layTree .plain output ++ text " " ++ neverGap ++
          layTree (.value place.following false) body
    place.around (.closure binder marks ⟨inputs, trailing⟩ output body)
      (filled 0 (words ++ content))
  | .constBlock block =>
    place.around (.constBlock block)
      (text "const " ++ boxed indentation (layTree .body block))
  | .continue label =>
    place.around (.continue label)
      (text "continue" ++ label.elim [] (fun name ↦ text " " ++ text ("'" ++ name)))
  | .field value name =>
    let steps := layTree (chainStart value place.lineStart) value ++
      (if place.lineStart && isShortName value then [] else zeroGap) ++ text "." ++ text name
    place.around (.field value name) (if place.isChain then steps else boxed indentation steps)
  | .forLoop pattern iterated body =>
    place.around (.forLoop pattern iterated body) (filled 0
      (text "for " ++ layTree .pattern pattern ++ text " in " ++ neverGap ++
        conditionSteps iterated (layTree .alone iterated) ++ layTree .lines body))
  | .conditional condition block otherwise =>
    let start := text "if " ++
      boxed (-indentation) (conditionSteps condition (layTree .alone condition))
    let rest := match otherwise with
      | none => []
      | some otherwise => text " else " ++ layTree .body otherwise
    let branch :=
      layTree (if otherwise.isNone && !place matches .body then .branch else .body) block
    match place with
    | .body => start ++ branch ++ rest
    | place => place.around (.conditional condition block otherwise)
        (boxed indentation (start ++ branch ++ rest))
  | .index value index =>
    let start :=
      if place.isChain then layTree (chainStart value place.lineStart) value
      else grouped ((levelBefore chained value).below .closed) chained fun inner ↦
        layTree (if place.lineStart then .value inner.following true else inner) value
    place.around (.index value index) (start ++ text "[" ++ layTree .alone index ++ text "]")
  | .matching pattern value =>
    let needed := (levelBefore place.following value).below .matching
    place.around (.matching pattern value) (filled 0
      (text "let " ++ filled 0 (layTree .pattern pattern) ++ text " = " ++ neverGap ++
        filled 0 (grouped needed place.following fun inner ↦ layTree inner value)))
  | .loop body => place.around (.loop body) (text "loop " ++ layTree .lines body)
  | .cases subject attributes arms =>
    let lines := (layAll .plain attributes).flatten ++ (layAll .plain arms).flatMap (· ++ lineEnd)
    place.around (.cases subject attributes arms) (filled 0
      (text "match " ++ conditionSteps subject (layTree .alone subject) ++ lineBlock lines))
  | .arm pattern guard body _ =>
    filled 0 (layTree .pattern pattern ++
      (layOption .alone guard).elim [] (text " if " ++ ·) ++ text " => " ++ layTree .armBody body)
  | .methodCall receiver name arguments ⟨items, trailing⟩ =>
    let short := place.lineStart && isShortName receiver
    let unindented := short && !place.isChain
    let steps := layTree (chainStart receiver place.lineStart) receiver ++
      (if short then [] else zeroGap) ++ text "." ++ text name ++
      (layOption .alone arguments).getD [] ++
      boxed (if unindented then -indentation else 0) (callSteps items (layAll .alone items))
    place.around (.methodCall receiver name arguments ⟨items, trailing⟩)
      (if place.isChain then steps else boxed indentation steps)
  | .rawAddress isMutable value =>
    let needed := (levelBefore place.following value).below .operand
    place.around (.rawAddress isMutable value)
      (text "&raw " ++ text (if isMutable then "mut " else "const ") ++
        grouped needed place.following fun inner ↦ layTree inner value)
  | .repeated value length =>
    place.around (.repeated value length)
      (text "[" ++ layTree .alone value ++ text "; " ++ layTree .alone length ++ text "]")
  | .return value =>
    let rest := match value with
      | none => []
      | some value => text " " ++ layTree (.value place.following false) value
    place.around (.return value) (text "return" ++ rest)
  | .structure path ⟨fields, trailing⟩ hasRest rest =>
    let others := (layOption .alone rest).map (text ".." ++ ·)
    place.around (.structure path ⟨fields, trailing⟩ hasRest rest)
      (.opening indentation true :: layTree .alone path ++
        fieldSteps (layAll .alone fields) others ++ .closingWithin 34 :: text "\x7d")
  | .namedValue name colon value =>
    match place with
    | .pattern => (if colon then text name ++ text ": " else []) ++ layTree .pattern value
    | _ =>
      if colon then text name ++ text ": " ++ filled 0 (layTree .alone value) else text name
  | .try value =>
    let start :=
      if place.isChain then layTree (chainStart value place.lineStart) value
      else grouped ((levelBefore chained value).below .closed) chained fun inner ↦
        layTree (if place.lineStart then .value inner.following true else inner) value
    place.around (.try value) (start ++ text "?")
  | .tryBlock block =>
    place.around (.tryBlock block) (text "try " ++ boxed indentation (layTree .body block))
  | .unary operator value =>
    let needed := (levelBefore place.following value).below .operand
    place.around (.unary operator value)
      (text operator ++ grouped needed place.following fun inner ↦ layTree inner value)
  | .unsafeBlock block =>
    place.around (.unsafeBlock block) (text "unsafe " ++ boxed indentation (layTree .body block))
  | .whileLoop condition body =>
    place.around (.whileLoop condition body)
      (text "while " ++ conditionSteps condition (layTree .alone condition) ++
        layTree .lines body)
  | .yield value =>
    let rest := match value with
      | none => []
      | some value => text " " ++ layTree (.value place.following false) value
    place.around (.yield value) (text "yield" ++ rest)
  | .binding isReference isMutable name pattern =>
    textIf isReference "ref " ++ textIf isMutable "mut " ++ text name ++
      (layOption .pattern pattern).elim [] (text " @ " ++ ·)
  | .alternatives _ cases =>
    let steps := joined (space ++ text "| ") (layAll .pattern cases)
    let isSimple := cases.all fun (case : Node) ↦
      case matches .literal _ || case matches .underscore
    if isSimple then filled 0 steps else boxed 0 steps
  | .rest => text ".."
  | .structPattern path ⟨fields, _⟩ rest =>
    boxed indentation (layTree .pattern path ++
      fieldSteps (layAll .pattern fields) (layOption .pattern rest)) ++ text "\x7d"
  | .local pattern value otherwise =>
    let given := match value with
      | none => []
      | some value => text " = " ++ neverGap ++ layTree .alone value
    let start := text "let " ++ layTree .pattern pattern ++ given
    match otherwise with
    | none => filled 0 (start ++ text ";") ++ lineEnd
    | some block =>
      filled 0 (start ++ space ++ text "else ") ++ neverGap ++
        boxed indentation (layTree .body block ++ text ";") ++ lineEnd
  | .statement expression semicolon =>
    match place with
    | .statement .unwrapped => layTree .armBody expression
    | .statement .alone => filled 0 (layTree (.value .nothing true) expression) ++ space
    | _ =>
      if semicolon && expression matches .verbatim [] then []
      else
        let ends :=
          if semicolon then !dropsSemicolon expression else endsWithSemicolon expression
        filled 0 (layTree (.value .nothing true) expression ++ textIf ends ";") ++ lineEnd
  | .invocationStatement invocation semicolon =>
    let ends := semicolon || place matches .statement .first
    invocationSteps invocation none ends ++ lineEnd
  | .visible visibility item =>
    match place with
    | .plain => visibilitySteps visibility ++ layTree .plain item
    | place => layTree (.item (place.lead ++ visibilitySteps visibility)) item
  | .defaulted item => layTree (.item (place.lead ++ text "default ")) item
  | .lifetimeParameter name ⟨bounds, _⟩ =>
    text ("'" ++ name) ++ lineBounds ": " (layAll .plain bounds)
  | .typeParameter name ⟨bounds, _⟩ fallback =>
    text name ++ filled indentation (brokenBounds ": " (layAll .plain bounds) ++
      (layOption .plain fallback).elim [] (space ++ text "= " ++ ·))
  | .constantParameter name type fallback =>
    text "const " ++ text name ++ text ": " ++ layTree .plain type ++
      (layOption .plain fallback).elim [] (text " = " ++ ·)
  | .lifetimeCondition name ⟨bounds, _⟩ =>
    text ("'" ++ name) ++ text ":" ++ filled indentation (brokenBounds " " (layAll .plain bounds))
  | .typeCondition binder type ⟨bounds, _⟩ =>
    (layOption .plain binder).getD [] ++ layTree .plain type ++ text ":" ++
      filled (if bounds.length = 1 then 0 else indentation)
        (brokenBounds " " (layAll .plain bounds))
  | .constant name type value =>
    declaredSteps 0 (place.lead ++ text "const " ++ text name ++ text ": " ++
      layTree .plain type ++ (layOption .alone value).elim [] (text " = " ++ neverGap ++ ·))
  | .static isMutable name type value =>
    declaredSteps 0 (place.lead ++ text "static " ++ textIf isMutable "mut " ++ text name ++
      text ": " ++ layTree .plain type ++
      (layOption .alone value).elim [] (text " = " ++ neverGap ++ ·))
  | .typeAlias name generics type =>
    let (parameters, conditions) := layGenerics generics
    declaredSteps indentation (place.lead ++ text "type " ++ text name ++ parameters ++
      conditionsInLine false conditions ++
      (layOption .plain type).elim [] (text "= " ++ neverGap ++ filled (-indentation) ·))
  | .associatedType name generics ⟨bounds, _⟩ type =>
    let (parameters, conditions) := layGenerics generics
    boxed indentation (place.lead ++ text "type " ++ text name ++ parameters ++
      brokenBounds ": " (layAll .plain bounds) ++
      (layOption .plain type).elim [] (text " = " ++ neverGap ++ filled (-indentation) ·) ++
      conditionsInLine true conditions) ++ lineEnd
  | .function signature body =>
    let head := place.lead ++ layTree (.head body.isNone) signature
    match body with
    | none => boxed indentation head ++ lineEnd
    | some body => blockSteps head (layTree .unclosed body)
  | .signature marks name generics ⟨inputs, _⟩ variadic output =>
    let (parameters, conditions) := layGenerics generics
    functionMarkSteps marks ++ text "fn " ++ text name ++ parameters ++ text "(" ++ neverGap ++
      inputSteps 0 (layAll .plain inputs) (layOption .plain variadic) ++ text ")" ++
      boxed (-indentation) (outputSteps (layOption .plain output)) ++
      conditionLines (place matches .head true) conditions
  | .receiver reference isMutable type =>
    reference.elim [] (fun lifetime ↦ text "&" ++
        lifetime.elim [] fun name ↦ text ("'" ++ name) ++ text " ") ++
      textIf isMutable "mut " ++ text "self" ++ (layOption .plain type).elim [] (text ": " ++ ·)
  | .namedFields ⟨fields, _⟩ =>
    match place with
    | .body =>
      text " \x7b" ++ boxed indentation (outdented (space ++
        (withLast (layAll .plain fields)).flatMap fun (field, isLast) ↦
          field ++ commaOrSpace isLast)) ++ text "\x7d"
    | _ => fieldLines (layAll .plain fields)
  | .placedFields ⟨fields, _⟩ =>
    outdented (text "(" ++ zeroGap ++ listed (layAll .plain fields)) ++ text ")"
  | .structItem name generics fields =>
    let (parameters, conditions) := layGenerics generics
    let head := place.lead ++ text "struct " ++ text name ++ parameters
    match fields with
    | none => boxed indentation (head ++ conditionLines true conditions) ++ lineEnd
    | some fields =>
      let content := layTree .plain fields
      if isPlaced (some fields) then
        boxed indentation (head ++ content ++ conditionLines true conditions) ++ lineEnd
      else blockSteps (head ++ conditionLines false conditions) content
  | .union name generics fields =>
    let (parameters, conditions) := layGenerics generics
    blockSteps (place.lead ++ text "union " ++ text name ++ parameters ++
      conditionLines false conditions) (layTree .plain fields)
  | .enumeration name generics ⟨variants, _⟩ =>
    let (parameters, conditions) := layGenerics generics
    blockSteps (place.lead ++ text "enum " ++ text name ++ parameters ++
      conditionLines false conditions) (fieldLines (layAll .plain variants))
  | .variant name fields value =>
    let content := match fields with
      | none => []
      | some fields =>
        if isPlaced (some fields) then boxed indentation (layTree .body fields)
        else layTree .body fields
    text name ++ content ++ (layOption .alone value).elim [] (text " = " ++ ·)
  | .externCrate name newName =>
    place.lead ++ text "extern crate " ++ text name ++
      newName.elim [] (fun newName ↦ text " as " ++ text newName) ++ text ";" ++ lineEnd
  | .foreign isUnsafe convention body =>
    blockSteps (textIf isUnsafe "unsafe " ++ conventionSteps convention) (layTree .unclosed body)
  | .implementation isUnsafe generics negative trait type body =>
    let (parameters, conditions) := layGenerics generics
    let subject := match trait with
      | none => []
      | some trait => textIf negative "!" ++ layTree .plain trait ++ space ++ text "for "
    blockSteps (filled (-indentation)
        (boxed indentation (place.lead ++ textIf isUnsafe "unsafe " ++ text "impl" ++ parameters) ++
          text " " ++ subject ++ layTree .plain type) ++
      conditionLines false conditions) (layTree .unclosed body)
  | .items attributes items =>
    let lines := (layAll .plain attributes).flatten ++ (layAll (.item []) items).flatten
    match place with
    | .unclosed => unclosedSteps lines
    | _ => boxed 0 lines
  | .module isUnsafe name body =>
    let head := place.lead ++ textIf isUnsafe "unsafe " ++ text "mod " ++ text name
    match body with
    | none => boxed indentation (head ++ text ";") ++ lineEnd
    | some body => blockSteps (head ++ text " ") (layTree .unclosed body)
  | .trait isUnsafe isAuto name generics ⟨bounds, _⟩ body =>
    let (parameters, conditions) := layGenerics generics
    blockSteps (place.lead ++ textIf isUnsafe "unsafe " ++ textIf isAuto "auto " ++
        text "trait " ++ text name ++ parameters ++
        lineBounds ": " (layAll .plain bounds) ++ conditionLines false conditions)
      (layTree .unclosed body)
  | .traitAlias name generics ⟨bounds, _⟩ =>
    let (parameters, conditions) := layGenerics generics
    boxed indentation (place.lead ++ text "trait " ++ text name ++ parameters ++ text " = " ++
      neverGap ++ joined (space ++ text "+ ") (layAll .plain bounds) ++
      conditionLines true conditions) ++ lineEnd
  | .use rooted tree =>
    place.lead ++ text "use " ++ textIf rooted "::" ++ layTree .plain tree ++ text ";" ++ lineEnd
  | .usePath name tree => text name ++ text "::" ++ layTree .plain tree
  | .useName name => text name
  | .useAlias name newName => text name ++ text " as " ++ text newName
  | .useAll => text "*"
  | .useGroup ⟨trees, _⟩ => useGroupSteps (trees.map endsWithGroup) (layAll .plain trees)
  | .invocationItem name invocation _ => invocationSteps invocation name true ++ lineEnd

/-- The steps of trees that stand in the same kind of place. -/
def layAll (place : Place) : List Node → List Steps
  | [] => []
  | node :: rest => layTree place node :: layAll place rest

/-- The steps of a tree that may be left out. -/
def layOption (place : Place) : Option Node → Option Steps
  | none => none
  | some node => some (layTree place node)

def layStatements (final : StatementMode) : List Node → Steps
  | [] => []
  | node :: rest =>
    layTree (.statement (if rest.isEmpty then final else .first)) node ++
      layStatements final rest

def layGenerics : Generics Node → Steps × List Steps
  | ⟨⟨parameters, _⟩, ⟨conditions, _⟩⟩ =>
    (angledSteps 0 (lifetimesLeading (parameters.map isLifetime) (layAll .plain parameters)),
      layAll .plain conditions)
end

end ProtoCrud.Code.Layout
