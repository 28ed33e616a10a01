import ProtoCrud.Descriptor.Basic
import ProtoCrud.Schema.Entity
import ProtoCrud.Text.Words

/-!
# The index of declared types

Every message and enum of the files, at every depth, under its full name: a dot and the package,
then the names of the enclosing messages and its own. The generated type of a nested declaration
lies in a module named for the enclosing message. If a name is declared twice, the later
declaration counts.
-/

namespace ProtoCrud.Schema

open Descriptor (Message Enum File)
open Text (snakeCase shoutyCase camelCase)

/-- The declared messages and enums, in the order of declaration. -/
structure TypeIndex where
  messages : List (String × Message × TypeRef)
  enums : List (String × EnumDef)

/-- The full name of the scope that a package makes; the empty package makes none. -/
def packageScope (package : String) : String :=
  if package = "" then "" else "." ++ package

def qualified (scope name : String) : String :=
  scope ++ "." ++ name

/-- The generated module of the declarations inside a message. -/
def innerModule (outer name : String) : String :=
  outer ++ snakeCase name ++ "::"

def enumDef (scope outer : String) (enum : Enum) : EnumDef :=
  { fullName := qualified scope enum.name
    path := outer ++ camelCase enum.name
    variants := enum.values.map fun value ↦
      ⟨value.name, value.number, storageName value.name (shoutyCase enum.name ++ "_")⟩ }

/-- The enums declared in a scope, by their full names. -/
def enumEntries (scope outer : String) (enums : List Enum) : List (String × EnumDef) :=
  enums.map fun enum ↦ (qualified scope enum.name, enumDef scope outer enum)

mutual
def messageEntries (package scope outer : String) : Message → List (String × Message × TypeRef)
  | .mk name fields nested enums =>
    let fullName := qualified scope name
    allMessageEntries package fullName (innerModule outer name) nested ++
      [(fullName, .mk name fields nested enums, ⟨fullName, package, outer ++ camelCase name⟩)]

def allMessageEntries (package scope outer : String) :
    List Message → List (String × Message × TypeRef)
  | [] => []
  | message :: rest =>
    messageEntries package scope outer message ++ allMessageEntries package scope outer rest
end

mutual
/-- The enums declared inside a message, the deepest first. -/
def innerEnums (scope outer : String) : Message → List (String × EnumDef)
  | .mk name _ nested enums =>
    let fullName := qualified scope name
    allInnerEnums fullName (innerModule outer name) nested ++
      enumEntries fullName (innerModule outer name) enums

/-- The enums declared inside several messages. -/
def allInnerEnums (scope outer : String) : List Message → List (String × EnumDef)
  | [] => []
  | message :: rest => innerEnums scope outer message ++ allInnerEnums scope outer rest
end

namespace TypeIndex

def ofFiles (files : List File) : TypeIndex :=
  { messages := files.flatMap fun file ↦
      allMessageEntries file.package (packageScope file.package) "" file.messages
    enums := files.flatMap fun file ↦
      allInnerEnums (packageScope file.package) "" file.messages ++
        enumEntries (packageScope file.package) "" file.enums }

def entry? (index : TypeIndex) (fullName : String) : Option (Message × TypeRef) :=
  index.messages.reverse.lookup fullName

def message? (index : TypeIndex) (fullName : String) : Option Message :=
  (index.entry? fullName).map Prod.fst

def enum? (index : TypeIndex) (fullName : String) : Option EnumDef :=
  index.enums.reverse.lookup fullName

/-- The names that a message of unknown declaration probably has, read off its full name. -/
def guessedType (fullName : String) : TypeRef :=
  let trimmed := fullName.toList.dropWhile (· == '.')
  match Text.splitLast? '.' trimmed with
  | some (package, name) =>
    ⟨fullName, String.ofList package, camelCase (String.ofList name)⟩
  | none => ⟨fullName, "", camelCase (String.ofList trimmed)⟩

def typeRef (index : TypeIndex) (fullName : String) : TypeRef :=
  match index.entry? fullName with
  | some (_, type) => type
  | none => guessedType fullName

end TypeIndex

end ProtoCrud.Schema
