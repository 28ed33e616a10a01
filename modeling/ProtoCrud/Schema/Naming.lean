import ProtoCrud.Text.Cut
import ProtoCrud.Text.Lowercase

/-!
# Names of methods, entities and stored enum values

A method is named for its operation and the entity it works on (`CreateUser`), a list method for
the plural (`ListUsers`), and either may carry a qualifier that starts with `By`
(`ListUsersByStatus`). Enum values are stored without the name of their enum, in lower case.
-/

namespace ProtoCrud.Schema

open Text

def idColumn : String := "id"

/-- The columns that every table keeps by itself, in the order of a select list. -/
def auditTail : List String :=
  ["created_at", "updated_at", "created_by", "updated_by"]

def isAuditColumn (name : String) : Bool :=
  name == idColumn || auditTail.contains name

/-- Whether a text starts with a qualifier: `By` and an upper-case letter. -/
def startsQualifier : List Char → Bool
  | 'B' :: 'y' :: c :: _ => isUppercase c
  | _ => false

/-- The part of a text before its first qualifier. -/
def beforeQualifier : List Char → List Char
  | [] => []
  | c :: rest => if startsQualifier (c :: rest) then [] else c :: beforeQualifier rest

/-- The part of a name before its first qualifier; a name cannot start with one. -/
def stripQualifierChars : List Char → List Char
  | [] => []
  | c :: rest => c :: beforeQualifier rest

/-- A name without its qualifier. -/
def stripQualifier (name : String) : String :=
  String.ofList (stripQualifierChars name.toList)

/-- What precedes an ending in a name that ends with it and consists of more. -/
def stem? (ending : String) (name : List Char) : Option (List Char) :=
  (beforeEnd? ending.toList name).filter fun stem ↦ !stem.isEmpty

/-- The singular of a plural: `ies` becomes `y`, `ses` becomes `s`, and a last `s` is dropped. -/
def singularize (name : String) : String :=
  match stem? "ies" name.toList with
  | some stem => String.ofList (stem ++ ['y'])
  | none =>
    match stem? "ses" name.toList with
    | some stem => String.ofList (stem ++ ['s'])
    | none =>
      match stem? "s" name.toList with
      | some stem => String.ofList stem
      | none => name

/-- The text that stores an enum value: its name without the leading text, in lower case. -/
def storageName (valueName leading : String) : String :=
  match afterStart? leading.toList valueName.toList with
  | some (c :: rest) => lowercase (String.ofList (c :: rest))
  | _ => lowercase valueName

/-- The five operations on an entity, in canonical order. -/
inductive MethodKind where
  | create
  | get
  | update
  | delete
  | list
  deriving DecidableEq

namespace MethodKind

def all : List MethodKind :=
  [.create, .get, .update, .delete, .list]

def word : MethodKind → String
  | .create => "Create"
  | .get => "Get"
  | .update => "Update"
  | .delete => "Delete"
  | .list => "List"

/-- What follows the word of the kind in a method name, if an upper-case letter does. -/
def subject? (kind : MethodKind) (name : String) : Option String :=
  match afterStart? kind.word.toList name.toList with
  | some (c :: rest) => if isUppercase c then some (String.ofList (c :: rest)) else none
  | _ => none

def ofMethodName? (name : String) : Option (MethodKind × String) :=
  all.findSome? fun kind ↦ (kind.subject? name).map (kind, ·)

end MethodKind

end ProtoCrud.Schema
