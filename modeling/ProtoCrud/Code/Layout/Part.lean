import ProtoCrud.Code.Layout.Place
import ProtoCrud.Code.Literal

/-!
# Parts of a layout

The steps of what trees are put together from: attributes, parameters and the conditions on them,
bounds, and the words in front of items. The parts of a tree are given as the steps they have.
-/

namespace ProtoCrud.Code.Layout

/-- A text without the blanks at its end. -/
def trimmed (text : List Char) : List Char :=
  (text.reverse.dropWhile (· == ' ')).reverse

/-- A text without the blanks at the ends of its lines, the last one apart. -/
def trimmedInside (text : List Char) : List Char :=
  let lines := Text.splitAll '\n' text
  List.intercalate ['\n'] (lines.dropLast.map trimmed ++ (lines.getLast?).toList)

/-- Whether every comment in a text ends, when `depth` of them have begun. -/
def closesComments : (depth : Nat) → List Char → Bool
  | depth, '/' :: '*' :: rest => closesComments (depth + 1) rest
  | 0, '*' :: '/' :: _ => false
  | depth + 1, '*' :: '/' :: rest => closesComments depth rest
  | depth, _ :: rest => closesComments depth rest
  | depth, [] => depth == 0

def fitsComment (text : List Char) : Bool :=
  closesComments 0 text && text.getLast? != some '/'

/-- A comment in the place of an attribute, or none if the text does not allow it. -/
def commentSteps (line block : String) (forbidsLine forbidsBlock : List Char)
    (content : List Char) : Option Steps :=
  if !content.contains '\n' then
    if content.head?.any forbidsLine.contains then blockComment
    else some (text line ++ text (String.ofList (trimmed content)) ++ lineEnd)
  else blockComment
where
  /-- A comment with an end of its own. -/
  blockComment : Option Steps :=
    if fitsComment content && !content.head?.any forbidsBlock.contains then
      some (text block ++ text (String.ofList (trimmedInside content)) ++ text "*/" ++ lineEnd)
    else none

def asComment (inner : Bool) (name : String) (content : List Char) : Option Steps :=
  if name = "doc" then
    if inner then commentSteps "//!" "/*!" [] [] content
    else commentSteps "///" "/**" ['/'] ['*', '/'] content
  else if name = "comment" then
    if content.contains '\n' then commentSteps "//" "/*" [] ['*', '!'] content
    else commentSteps "//" "/*" [] [] content
  else none

def attributeText? (path : PlainPath) : Option Node → Option (String × List Char)
  | some (.literal literal) =>
    match path with
    | ⟨false, [name]⟩ => (textValue? literal).map fun value ↦ (name, value)
    | _ => none
  | _ => none

def attributeSteps (inner : Bool) (path : PlainPath) (group : Option (Bracket × List Tree))
    (value : Option Node) (valueSteps : Option Steps) : Steps :=
  match (attributeText? path value).bind fun (name, content) ↦ asComment inner name content with
  | some steps => steps
  | none =>
    text (if inner then "#!" else "#") ++ text "[" ++ plainPathSteps path ++
      group.elim [] (fun (bracket, content) ↦ (attributeCode .sign [.group bracket content]).1) ++
      valueSteps.elim [] (text " = " ++ ·) ++ text "]" ++ space

def angledSteps (offset : Int) (items : List Steps) : Steps :=
  if items.isEmpty then []
  else text "<" ++ boxed offset (outdented (zeroGap ++ listed items)) ++ text ">"

def lifetimesLeading (leads : List Bool) (items : List Steps) : List Steps :=
  let marked := leads.zip items
  (marked.filter (·.1)).map (·.2) ++ (marked.filter (!·.1)).map (·.2)

/-- A tuple; a single item keeps its comma. -/
def tupleSteps (items : List Steps) : Steps :=
  match items with
  | [item] => enclosed "(" (item ++ text "," ++ zeroGap) ")"
  | items => enclosed "(" (listed items) ")"

/-- A tuple of patterns; a single one has a comma only if it was given one. -/
def tuplePatternSteps (trailing : Bool) (items : List Steps) : Steps :=
  match items with
  | [item] => enclosed "(" (item ++ textIf trailing "," ++ zeroGap) ")"
  | items => enclosed "(" (listed items) ")"

def brokenBounds (first : String) : List Steps → Steps
  | [] => []
  | bound :: rest => text first ++ bound ++ rest.flatMap (space ++ text "+ " ++ ·)

def lineBounds (first : String) : List Steps → Steps
  | [] => []
  | bounds => text first ++ joined (text " + ") bounds

/-- The inputs of a function between parentheses, with its open end. -/
def inputSteps (offset : Int) (inputs : List Steps) (variadic : Option Steps) : Steps :=
  let given :=
    match variadic with
    | none => listed inputs
    | some variadic => inputs.flatMap (· ++ comma false) ++ variadic ++ zeroGap
  boxed offset (outdented (zeroGap ++ given))

/-- What a function gives back. -/
def outputSteps (output : Option Steps) : Steps :=
  output.elim [] (text " -> " ++ ·)

def callSteps (arguments : List Node) (steps : List Steps) : Steps :=
  match arguments, steps with
  | [argument], [step] =>
    if isBlockLike argument then text "(" ++ step ++ text ")" else enclosed "(" (listed [step]) ")"
  | _, steps => enclosed "(" (listed steps) ")"

def arraySteps (items : List Node) (steps : List Steps) : Steps :=
  if items.isEmpty then text "[]"
  else if items.all isSimpleItem then
    boxed indentation (outdented (text "[" ++ zeroGap ++
      filled 0 (joined (text "," ++ space) steps) ++ comma true) ++ text "]")
  else enclosed "[" (listed steps) "]"

def fieldSteps (fields : List Steps) (rest : Option Steps) : Steps :=
  let given :=
    match rest with
    | none => (withLast fields).flatMap fun (field, isLast) ↦ field ++ commaOrSpace isLast
    | some rest => fields.flatMap (· ++ commaOrSpace false) ++ rest ++ space
  outdented (text " \x7b" ++ spaceInside ++ given)

def conventionSteps (convention : Convention) : Steps :=
  text "extern " ++ convention.name.elim [] (text · ++ text " ")

/-- The words that say from where an item can be seen. -/
def visibilitySteps : Visibility → Steps
  | .everywhere => text "pub "
  | .within _ path =>
    let short := path = ⟨false, ["self"]⟩ ∨ path = ⟨false, ["super"]⟩ ∨ path = ⟨false, ["crate"]⟩
    text "pub(" ++ textIf (!decide short) "in " ++ plainPathSteps path ++ text ") "

/-- The words that make a function special. -/
def functionMarkSteps (marks : FunctionMarks) : Steps :=
  textIf marks.isConst "const " ++ textIf marks.isAsync "async " ++
    textIf marks.isUnsafe "unsafe " ++ marks.convention.elim [] conventionSteps

/-- The words that make a closure special. -/
def closureMarkSteps (marks : ClosureMarks) : Steps :=
  textIf marks.isConst "const " ++ textIf marks.isStatic "static " ++
    textIf marks.isAsync "async " ++ textIf marks.isMove "move "

def conditionLines (semicolon : Bool) (conditions : List Steps) : Steps :=
  if conditions.isEmpty then text (if semicolon then ";" else " ")
  else
    let lines := (withLast conditions).flatMap fun (condition, isLast) ↦
      condition ++ if isLast && semicolon then text ";" else text "," ++ lineEnd
    outdented lineEnd ++ text "where" ++ lineEnd ++
      if semicolon then lines else outdented lines

def conditionsInLine (semicolon : Bool) (conditions : List Steps) : Steps :=
  if conditions.isEmpty then text (if semicolon then ";" else " ")
  else
    let line := (withLast conditions).flatMap fun (condition, isLast) ↦
      condition ++ if isLast && semicolon then text ";" else commaOrSpace isLast
    outdented space ++ text "where" ++ space ++ if semicolon then line else outdented line

/-- A declaration whose last part is behind its sign in a box of its own. -/
def declaredSteps (offset : Int) (content : Steps) : Steps :=
  boxed offset (content ++ text ";") ++ lineEnd

def blockSteps (head body : Steps) : Steps :=
  boxed indentation (head ++ body) ++ text "\x7d" ++ lineEnd

/-- The lines of a block without its closing brace. -/
def unclosedSteps (content : Steps) : Steps :=
  outdented (text "\x7b" ++ lineEndInside ++ content)

/-- Fields or variants on lines of their own, without the closing brace. -/
def fieldLines (fields : List Steps) : Steps :=
  unclosedSteps (fields.flatMap (· ++ text "," ++ lineEnd))

def lineBlock (content : Steps) : Steps :=
  text "\x7b" ++ neverGap ++ boxed indentation (outdented (lineEndInside ++ content)) ++
    text "\x7d"

/-- A block that may share a line with its statement. -/
def smallBlock (isEmpty : Bool) (content : Steps) : Steps :=
  if isEmpty then text "\x7b\x7d"
  else outdented (text "\x7b" ++ space ++ content) ++ text "\x7d"

def conditionSteps (node : Node) (steps : Steps) : Steps :=
  boxed indentation (steps ++ if endsLine node then outdented space else text " ")

/-- Names that are used together. -/
def useGroupSteps (endsWithGroup : List Bool) (trees : List Steps) : Steps :=
  let items := (withLast (endsWithGroup.zip trees)).flatMap fun ((isGroup, tree), isLast) ↦
    tree ++ if isLast then [] else text "," ++ if isGroup then lineEnd else space
  text "\x7b" ++ boxed indentation (outdented (zeroGap ++ filled 0 items ++ comma true)) ++
    text "\x7d"

def endsWithGroup : Node → Bool
  | .usePath _ tree => endsWithGroup tree
  | .useGroup _ => true
  | _ => false

end ProtoCrud.Code.Layout
