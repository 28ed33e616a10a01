import ProtoCrud.Schema.Shape

/-!
# Resolving a schema

The methods of all requested files are walked in order. A method whose name stands for an
operation on a message of its package takes the place of that operation, unless an earlier method
has taken it. Every entity with a place taken is then resolved on its own; one that cannot be
resolved is listed with the reason and loses its bindings, and the others do not notice.
-/

namespace ProtoCrud.Schema

open Descriptor (File)

/-- What a method name stands for. -/
inductive Binding where
  /-- No operation. -/
  | unbound
  /-- An operation on an entity that no message defines. -/
  | undefined (entity : String)
  | bound (kind : MethodKind) (entity : String)
  deriving DecidableEq

/-- Whether a package declares a message at its top level. -/
def TypeIndex.declares (index : TypeIndex) (package name : String) : Bool :=
  (index.message? (qualified (packageScope package) name)).isSome

/--
The element type of the first repeated message field of a message, if it is a top-level message of
the package.
-/
def elementType? (index : TypeIndex) (package fullName : String) : Option String := do
  let message ← index.message? fullName
  let field ← message.fields.find? fun field ↦ !isSingular field && field.type = .message
  let (scope, name) ← Text.splitLast? '.' field.typeName.toList
  let name := String.ofList name
  if String.ofList scope = packageScope package ∧ index.declares package name then some name
  else none

def bindList (index : TypeIndex) (package plural output : String) : Binding :=
  let singular := singularize plural
  if index.declares package singular then .bound .list singular
  else if index.declares package plural then .bound .list plural
  else
    match elementType? index package output with
    | some entity => .bound .list entity
    | none => .undefined singular

def bindMethod (index : TypeIndex) (package : String) (method : Descriptor.Method) : Binding :=
  match MethodKind.ofMethodName? method.name with
  | none => .unbound
  | some (.list, subject) => bindList index package (stripQualifier subject) method.output
  | some (kind, subject) =>
    if stripQualifier subject ≠ subject then .unbound
    else if index.declares package subject then .bound kind subject
    else .undefined subject

/-- A place of an operation of an entity, and the method that has taken it. -/
structure Place where
  package : String
  entity : String
  kind : MethodKind
  method : Method
  deriving DecidableEq

/-- Whether a place is the one for an operation of an entity. -/
def Place.isFor (place : Place) (package entity : String) (kind : MethodKind) : Bool :=
  place.package = package && place.entity = entity && place.kind = kind

/-- What the methods walked so far have told. -/
structure Walk where
  /-- The places taken, in the order in which they were taken. -/
  places : List Place := []
  failures : List Failure := []
  deriving DecidableEq

/-- A method as it is declared, before it is known what it stands for. -/
def Method.ofDescriptor (index : TypeIndex) (method : Descriptor.Method) : Method :=
  { name := method.name
    kind := none
    input := index.typeRef method.input
    output := index.typeRef method.output
    clientStreaming := method.clientStreaming
    serverStreaming := method.serverStreaming }

/-- A list of bindings with one more; an older binding of the same method is replaced. -/
def bindName (bindings : List (String × String)) (method entity : String) :
    List (String × String) :=
  if (bindings.lookup method).isSome then
    bindings.map fun binding ↦ if binding.1 = method then (method, entity) else binding
  else bindings ++ [(method, entity)]

/-- The failures with an entity without definition; an entity that failed already is left. -/
def noteUndefined (failures : List Failure) (entity method : String) : List Failure :=
  if failures.any (·.entity = entity) then failures
  else failures ++ [⟨entity, .referencedOnly method⟩]

def walkMethod (index : TypeIndex) (walk : Walk) (service : Service)
    (descriptor : Descriptor.Method) : Walk × Service :=
  let method := Method.ofDescriptor index descriptor
  let plain := { service with methods := service.methods ++ [method] }
  match bindMethod index service.package descriptor with
  | .unbound => (walk, plain)
  | .undefined entity =>
    ({ walk with failures := noteUndefined walk.failures entity method.name }, plain)
  | .bound kind entity =>
    if walk.places.any (·.isFor service.package entity kind) then (walk, plain)
    else
      let bound := { method with kind := some kind }
      ({ walk with places := walk.places ++ [⟨service.package, entity, kind, bound⟩] },
        { service with
          methods := service.methods ++ [bound]
          bindings := bindName service.bindings method.name entity })

def walkMethods (index : TypeIndex) (walk : Walk) (service : Service) :
    List Descriptor.Method → Walk × Service
  | [] => (walk, service)
  | method :: rest =>
    let (walk, service) := walkMethod index walk service method
    walkMethods index walk service rest

def walkServices (index : TypeIndex) (package : String) (walk : Walk) :
    List Descriptor.Service → Walk × List Service
  | [] => (walk, [])
  | descriptor :: rest =>
    let (walk, service) := walkMethods index walk ⟨descriptor.name, package, [], []⟩
      descriptor.methods
    let (walk, services) := walkServices index package walk rest
    (walk, service :: services)

def walkFiles (index : TypeIndex) (walk : Walk) : List File → Walk × List Service
  | [] => (walk, [])
  | file :: rest =>
    let (walk, services) := walkServices index file.package walk file.services
    let (walk, others) := walkFiles index walk rest
    (walk, services ++ others)

namespace Walk

/-- The entities with a place taken, each with its package, in the order of the first places. -/
def entities (walk : Walk) : List (String × String) :=
  (walk.places.map fun place ↦ (place.package, place.entity)).eraseDups

def methodsOf (walk : Walk) (package entity : String) : Slots Method :=
  walk.places.foldl
    (fun slots place ↦
      if place.package = package ∧ place.entity = entity then slots.fill place.kind place.method
      else slots)
    {}

end Walk

structure Resolution where
  /-- The entities that could be resolved, in the order in which their methods were found. -/
  entities : List Entity
  services : List Service
  failures : List Failure
  deriving DecidableEq

def Resolution.packages (schema : Resolution) : List String :=
  (schema.entities.map (·.package)).eraseDups.mergeSort

/-- Resolves entities one by one, and separates those that cannot be resolved. -/
def resolveEntities (index : TypeIndex) (walk : Walk) :
    List (String × String) → List Entity × List Failure
  | [] => ([], [])
  | (package, name) :: rest =>
    let (entities, failures) := resolveEntities index walk rest
    match resolveEntity index package name (walk.methodsOf package name) with
    | .ok entity => (entity :: entities, failures)
    | .error reason => (entities, ⟨name, reason⟩ :: failures)

/-- A service without the bindings to entities that are not among the given names. -/
def Service.retainBindings (names : List String) (service : Service) : Service :=
  { service with bindings := service.bindings.filter fun binding ↦ names.contains binding.2 }

/-- The requested files in the order of request, or the name of the first one that is missing. -/
def requestedFiles (files : List File) : List String → Except String (List File)
  | [] => .ok []
  | name :: rest =>
    match files.find? (·.name = name) with
    | none => .error name
    | some file => (requestedFiles files rest).map (file :: ·)

/-- Resolves the schema of the requested files; fails with the name of a missing one. -/
def resolve (files : List File) (requested : List String) : Except String Resolution := do
  let targets ← requestedFiles files requested
  let index := TypeIndex.ofFiles files
  let (walk, services) := walkFiles index {} targets
  let (entities, failures) := resolveEntities index walk walk.entities
  let names := entities.map (·.name)
  pure ⟨entities, services.map (·.retainBindings names), walk.failures ++ failures⟩

end ProtoCrud.Schema
