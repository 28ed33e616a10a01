import ProtoCrud.Code.Tree

/-!
# Syntax trees

What a piece of code says, apart from its layout: paths, types, patterns, expressions, statements
and items. They contain each other in every combination, so all of them are nodes of one kind of
tree. Forms that several of them share, such as a list in square brackets or a path, are one node;
where it stands says what it is.

Code that is legal but has no form of its own is kept as the bracketed code it is.
-/

namespace ProtoCrud.Code

structure Row (α : Type) where
  items : List α
  /-- Whether a separator stands behind the last item too. -/
  trailing : Bool

namespace Row

variable {α : Type}

/-- A row without items. -/
def empty : Row α := ⟨[], false⟩

def isEmpty (row : Row α) : Bool :=
  row.items.isEmpty

def isOpen (row : Row α) : Bool :=
  row.isEmpty || row.trailing

end Row

structure Generics (α : Type) where
  parameters : Row α
  conditions : Row α

/-- A path without arguments. -/
structure PlainPath where
  /-- Whether colons stand in front of it. -/
  rooted : Bool
  names : List String
  deriving DecidableEq

/-- What is invoked, and the code it is given. -/
structure Invocation where
  path : PlainPath
  bracket : Bracket
  content : List Tree

/-- The convention by which a function is called, and the text that names it. -/
structure Convention where
  name : Option String
  deriving DecidableEq

/-- From where an item can be seen, if it is not left to its place. -/
inductive Visibility where
  | everywhere
  /-- From a path, with the word `in` or without. -/
  | within (marked : Bool) (path : PlainPath)
  deriving DecidableEq

structure ClosureMarks where
  isConst : Bool
  isStatic : Bool
  isAsync : Bool
  isMove : Bool
  deriving DecidableEq

structure FunctionMarks where
  isConst : Bool
  isAsync : Bool
  isUnsafe : Bool
  convention : Option Convention
  deriving DecidableEq

inductive Node where
  /- Everywhere. -/
  /-- Something with attributes in front of it. -/
  | attributed (attributes : List Node) (content : Node)
  /-- An attribute: its path, with code in brackets or with a value. -/
  | attribute (inner : Bool) (path : PlainPath) (group : Option (Bracket × List Tree))
      (value : Option Node)
  /-- Code that is kept as it is. -/
  | verbatim (trees : List Tree)
  | lifetime (name : String)
  | word (text : String)
  | literal (text : String)
  | underscore
  | invocation (invocation : Invocation)
  | parenthesised (content : Node)
  | tuple (items : Row Node)
  /-- Items in square brackets. -/
  | list (items : Row Node)
  /-- Something in front of parentheses with items. -/
  | call (head : Node) (items : Row Node)
  | reference (isMutable : Bool) (content : Node)
  | range (first : Option Node) (closed : Bool) (last : Option Node)
  /-- A name or pattern with its type. -/
  | typed (content type : Node)
  /- Paths. -/
  | path (rooted : Bool) (segments : List Node)
  /-- A path from a type between angle brackets, where the path of a trait may follow the type. -/
  | qualified (subject : Node) (rooted : Bool) (trait segments : List Node)
  | segment (name : String) (arguments : Option Node)
  /-- Arguments between angle brackets, with colons in front of them or without. -/
  | angled (marked : Bool) (arguments : Row Node)
  /-- Arguments of a function as those of a path. -/
  | round (inputs : Row Node) (output : Option Node)
  /-- An associated type or constant that is given. -/
  | equated (name : String) (arguments : Option Node) (value : Node)
  /-- An associated type with bounds. -/
  | constrained (name : String) (arguments : Option Node) (bounds : Row Node)
  /- Bounds. -/
  | traitBound (parenthesised query : Bool) (binder : Option Node) (path : Node)
  /-- The list of what a function captures. -/
  | captures (parameters : Row Node)
  /-- The parameters that something is for. -/
  | binder (parameters : Row Node)
  /- Types. -/
  | arrayType (element length : Node)
  | functionType (binder : Option Node) (isUnsafe : Bool) (convention : Option Convention)
      (inputs : Row Node) (variadic : Option Node) (output : Option Node)
  /-- The open end of an argument list, with its name and the comma behind it. -/
  | variadic (name : Option Node) (comma : Bool)
  | implTrait (bounds : Row Node)
  | never
  | pointer (isMutable : Bool) (type : Node)
  | referenceType (lifetime : Option String) (isMutable : Bool) (type : Node)
  | slice (element : Node)
  | traitObject (marked : Bool) (bounds : Row Node)
  /- Expressions. -/
  | assign (left right : Node)
  | asyncBlock (isMove : Bool) (block : Node)
  | await (value : Node)
  | binary (operator : String) (left right : Node)
  /-- Statements between braces, with attributes of the block itself. -/
  | block (attributes statements : List Node)
  | labelled (label : String) (content : Node)
  | break (label : Option String) (value : Option Node)
  | cast (value type : Node)
  | closure (binder : Option Node) (marks : ClosureMarks) (inputs : Row Node)
      (output : Option Node) (body : Node)
  | constBlock (block : Node)
  | continue (label : Option String)
  | field (value : Node) (name : String)
  | forLoop (pattern iterated body : Node)
  | conditional (condition block : Node) (otherwise : Option Node)
  | index (value index : Node)
  | matching (pattern value : Node)
  | loop (body : Node)
  | cases (subject : Node) (attributes arms : List Node)
  | arm (pattern : Node) (guard : Option Node) (body : Node) (comma : Bool)
  | methodCall (receiver : Node) (name : String) (arguments : Option Node) (items : Row Node)
  | rawAddress (isMutable : Bool) (value : Node)
  | repeated (value length : Node)
  | return (value : Option Node)
  /-- A structure with its fields; if it has a rest, the other fields are taken from there. -/
  | structure (path : Node) (fields : Row Node) (hasRest : Bool) (rest : Option Node)
  /-- A field, whose name stands in front of it only if there is a colon. -/
  | namedValue (name : String) (colon : Bool) (value : Node)
  | try (value : Node)
  | tryBlock (block : Node)
  | unary (operator : String) (value : Node)
  | unsafeBlock (block : Node)
  | whileLoop (condition body : Node)
  | yield (value : Option Node)
  /- Patterns. -/
  | binding (isReference isMutable : Bool) (name : String) (pattern : Option Node)
  | alternatives (leading : Bool) (cases : List Node)
  | rest
  | structPattern (path : Node) (fields : Row Node) (rest : Option Node)
  /- Statements. -/
  | local (pattern : Node) (value otherwise : Option Node)
  | statement (expression : Node) (semicolon : Bool)
  | invocationStatement (invocation : Invocation) (semicolon : Bool)
  /- Items. -/
  | visible (visibility : Visibility) (item : Node)
  | defaulted (item : Node)
  | lifetimeParameter (name : String) (bounds : Row Node)
  | typeParameter (name : String) (bounds : Row Node) (fallback : Option Node)
  | constantParameter (name : String) (type : Node) (fallback : Option Node)
  | lifetimeCondition (name : String) (bounds : Row Node)
  | typeCondition (binder : Option Node) (type : Node) (bounds : Row Node)
  | constant (name : String) (type : Node) (value : Option Node)
  | static (isMutable : Bool) (name : String) (type : Node) (value : Option Node)
  | typeAlias (name : String) (generics : Generics Node) (type : Option Node)
  | associatedType (name : String) (generics : Generics Node) (bounds : Row Node)
      (type : Option Node)
  | function (signature : Node) (body : Option Node)
  | signature (marks : FunctionMarks) (name : String) (generics : Generics Node)
      (inputs : Row Node) (variadic : Option Node) (output : Option Node)
  /-- The receiver of a method, the lifetime of the reference to it, and its type. -/
  | receiver (reference : Option (Option String)) (isMutable : Bool) (type : Option Node)
  | namedFields (fields : Row Node)
  | placedFields (fields : Row Node)
  | structItem (name : String) (generics : Generics Node) (fields : Option Node)
  | union (name : String) (generics : Generics Node) (fields : Node)
  | enumeration (name : String) (generics : Generics Node) (variants : Row Node)
  | variant (name : String) (fields : Option Node) (value : Option Node)
  | externCrate (name : String) (newName : Option String)
  | foreign (isUnsafe : Bool) (convention : Convention) (body : Node)
  | implementation (isUnsafe : Bool) (generics : Generics Node) (negative : Bool)
      (trait : Option Node) (type body : Node)
  /-- Items between braces, with attributes of what they stand in. -/
  | items (attributes items : List Node)
  | module (isUnsafe : Bool) (name : String) (body : Option Node)
  | trait (isUnsafe isAuto : Bool) (name : String) (generics : Generics Node)
      (bounds : Row Node) (body : Node)
  | traitAlias (name : String) (generics : Generics Node) (bounds : Row Node)
  | use (rooted : Bool) (tree : Node)
  | usePath (name : String) (tree : Node)
  | useName (name : String)
  | useAlias (name newName : String)
  | useAll
  | useGroup (trees : Row Node)
  /-- An invocation in the place of an item, and the name it is given. -/
  | invocationItem (name : Option String) (invocation : Invocation) (semicolon : Bool)

end ProtoCrud.Code
