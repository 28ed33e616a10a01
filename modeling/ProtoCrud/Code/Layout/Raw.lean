import ProtoCrud.Code.Layout.Step
import ProtoCrud.Code.Syntax

/-!
# The layout of code without a form

What attributes and invocations are given is just bracketed code. Blanks are put where they look
right, judging by the neighbours alone.
-/

namespace ProtoCrud.Code.Layout

inductive AttributeState where
  | word
  | sign
  | finalComma
  deriving DecidableEq, Repr

/-- The steps of a word behind something else. -/
def afterState (state : AttributeState) (content : String) : Steps :=
  if state = .word then space ++ text content else text content

mutual

def attributeTree (state : AttributeState) (isLast : Bool) : Tree → Steps × AttributeState
  | .word word => (afterState state word, .word)
  | .literal literal => (afterState state literal, .word)
  | .lifetime name => (text ("'" ++ name), .word)
  | .sign c _ =>
    if c = ',' ∧ isLast then (comma true, .finalComma)
    else
      let before := if state = .word ∧ c = '=' then text " " else []
      let behind := if c = '=' then text " " else if c = ',' then space else []
      (before ++ text (String.singleton c) ++ behind, .sign)
  | .group bracket content =>
    let (inner, last) := attributeCode .sign content
    let group :=
      if bracket = .round then
        boxed indentation (outdented
          (zeroGap ++ inner ++ if last = .finalComma then [] else zeroGap))
      else inner
    (text bracket.opening ++ group ++ text bracket.closing, .sign)

def attributeCode (state : AttributeState) : List Tree → Steps × AttributeState
  | [] => ([], state)
  | tree :: rest =>
    let (steps, next) := attributeTree state rest.isEmpty tree
    let (others, last) := attributeCode next rest
    (steps ++ others, last)

end

/-- What has just been written of an invocation. -/
inductive CodeState where
  | start
  | dollar
  | dollarName
  | dollarNameColon
  | dollarGroup
  | dollarSeparator
  | pound
  | poundBang
  | dot
  | colon
  | colons
  | name
  | nameBang
  | group
  | other
  deriving DecidableEq, Repr

/-- The words with a blank in front of them wherever they stand. -/
def spacedWords : List String :=
  ["as", "async", "await", "box", "break", "const", "continue", "crate", "dyn", "else", "enum",
    "extern", "fn", "for", "if", "impl", "in", "let", "loop", "macro", "match", "mod", "move",
    "mut", "pub", "ref", "return", "static", "struct", "trait", "type", "unsafe", "use", "where",
    "while", "yield"]

/-- Whether there is a gap in front of a tree, and what has been written with it. -/
def nextState (matcher : Bool) : CodeState → Tree → Bool × CodeState
  | .dollar, .word _ => (false, if matcher then .dollarName else .other)
  | .dollarName, .sign ':' false => (false, .dollarNameColon)
  | .dollarNameColon, .word _ => (false, .other)
  | .dollarGroup, .word _ => (false, .dollarSeparator)
  | .dollarGroup, .literal _ => (false, .dollarSeparator)
  | .dollarGroup, .sign c joined =>
    if joined then (false, .dollarGroup)
    else if c = '+' ∨ c = '*' ∨ c = '?' then (false, .other)
    else (false, .dollarSeparator)
  | .dollarSeparator, .sign '+' _ => (false, .other)
  | .dollarSeparator, .sign '*' _ => (false, .other)
  | .pound, .sign '!' _ => (false, .poundBang)
  | .dollar, .group .round _ => (false, .dollarGroup)
  | .pound, .group .square _ => (false, .other)
  | .poundBang, .group .square _ => (false, .other)
  | .name, .sign '!' false => (false, .nameBang)
  | .colon, .sign ':' _ => (false, .colons)
  | _, .group .curly _ => (true, .other)
  | state, .group _ _ =>
    if state = .name then (false, .group)
    else if state = .nameBang then (false, .other)
    else (true, .group)
  | state, .word word =>
    if spacedWords.contains word then (true, .other)
    else (state != .dot && state != .colons, .name)
  | state, .literal _ => (state != .dot, .name)
  | _, .lifetime _ => (true, .name)
  | state, .sign c joined =>
    if c = ',' ∨ c = ';' then (false, .other)
    else if c = '.' ∧ !matcher then (state != .name && state != .group, .dot)
    else if c = ':' ∧ joined then (state != .name, .colon)
    else if c = '$' then (true, .dollar)
    else if c = '#' then (true, .pound)
    else (true, .other)

/-- Whether what follows a tree stands right behind it. -/
def joinsNext : Tree → Bool
  | .sign c joined => joined || c == '$'
  | _ => false

def gapBefore (joined needsSpace : Bool) (tree : Tree) : Steps :=
  if joined then []
  else if needsSpace then space
  else
    match tree with
    | .sign '.' _ => zeroGap
    | _ => []

mutual

/-- The steps of one tree of an invocation, without a gap in front of it. -/
def codeTree (matcher : Bool) : Tree → Steps
  | .word word => text word
  | .literal literal => text literal
  | .lifetime name => text ("'" ++ name)
  | .sign c _ => text (String.singleton c)
  | .group bracket content =>
    let padding := if bracket = .curly ∧ !content.isEmpty then space else []
    text bracket.opening ++ padding ++ codeSteps matcher true .start content ++ padding ++
      text bracket.closing

/-- The steps of the code that an invocation is given; `matcher` says whether it is a pattern. -/
def codeSteps (matcher joined : Bool) (state : CodeState) : List Tree → Steps
  | [] => []
  | tree :: rest =>
    let (needsSpace, next) := nextState matcher state tree
    gapBefore joined needsSpace tree ++ codeTree matcher tree ++
      codeSteps matcher (joinsNext tree) next rest

end

/-- Code between two gaps, on lines of its own unless it fits. -/
def insetCode (gap : Steps) (matcher : Bool) (content : List Tree) : Steps :=
  if content.isEmpty then []
  else boxed indentation
    (outdented (gap ++ filled 0 (codeSteps matcher true .start content) ++ gap))

/-- The rules of a definition of what can be invoked: a pattern, an arrow and code for each. -/
def ruleSteps : List Tree → Steps
  | [] => []
  | .group bracket pattern :: .sign '=' true :: .sign '>' false :: .group _ content :: rest =>
    let rule := text bracket.opening ++ insetCode zeroGap true pattern ++ text bracket.closing ++
      text " =" ++ text ">" ++ text " \x7b" ++ neverGap ++ insetCode lineEnd false content ++
      text "\x7d"
    match rest with
    | [] => rule ++ text ";" ++ lineEnd
    | .sign ';' false :: others => rule ++ text ";" ++ lineEnd ++ ruleSteps others
    | _ => [.impossible]
  | _ => [.impossible]

/-- The steps of a path without arguments. -/
def plainPathSteps (path : PlainPath) : Steps :=
  textIf path.rooted "::" ++ joined (text "::") (path.names.map text)

def definitionSteps (name : String) (rules : List Tree) : Steps :=
  text "macro_rules! " ++ text name ++ text " \x7b" ++
    boxed indentation (outdented (lineEndInside ++ ruleSteps rules)) ++ text "\x7d"

/-- The steps of an invocation, which may be given a name and have a semicolon behind it. -/
def invocationSteps (invocation : Invocation) (name : Option String) (semicolon : Bool) : Steps :=
  match name, invocation.path with
  | some name, ⟨false, ["macro_rules"]⟩ => definitionSteps name invocation.content
  | name, path =>
    let gap := if invocation.bracket = .curly then lineEnd else zeroGap
    plainPathSteps path ++ text "!" ++ name.elim [] (fun name ↦ text " " ++ text name) ++
      textIf (invocation.bracket = .curly) " " ++ text invocation.bracket.opening ++
      insetCode gap false invocation.content ++ text invocation.bracket.closing ++
      textIf (semicolon && invocation.bracket != .curly) ";"

end ProtoCrud.Code.Layout
