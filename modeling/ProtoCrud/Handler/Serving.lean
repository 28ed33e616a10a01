import ProtoCrud.Code.Identifier
import ProtoCrud.Schema.Resolve

/-!
# How a service serves its methods

A method that has taken the place of an operation of a resolved entity of the package is delegated
to the handler of the entity; every other method answers that it is not implemented. The response
of a delegated method is put together from what the handler returns.
-/

namespace ProtoCrud.Handler

open Code (fieldIdentifier)
open Schema

inductive Counter where
  | total
  | page
  | pageSize
  deriving DecidableEq

def Counter.type : Counter → ScalarType
  | .total => .int64
  | .page => .int32
  | .pageSize => .int32

def Counter.name : Counter → String
  | .total => "total"
  | .page => "page"
  | .pageSize => "page_size"

/-- What a field of a response is set to. -/
inductive ResponseValue where
  /-- The record, as a present value. -/
  | record
  /-- The records of a page. -/
  | items
  /-- A count, converted to an integer type. -/
  | count (counter : Counter) (type : ScalarType)
  /-- Success. -/
  | success
  deriving DecidableEq

structure ResponseInit where
  /-- The identifier of the field. -/
  field : String
  value : ResponseValue
  deriving DecidableEq

inductive Response where
  /-- The record itself. -/
  | record
  /-- Nothing. -/
  | nothing
  /-- The default of the response type. -/
  | default
  /-- The response type with these fields, the others at their defaults if there are any. -/
  | literal (inits : List ResponseInit) (hasRest : Bool)
  deriving DecidableEq

/-- Whether a response has fields that the operation does not fill in. -/
def needsDefault (kind : MethodKind) (shape : ResponseShape) : Bool :=
  let hasPaging := shape.total.isSome || shape.page.isSome || shape.pageSize.isSome
  shape.hasOther || (kind ≠ .list && hasPaging) || (kind ≠ .delete && shape.success) ||
    (kind = .delete && shape.entityField.isSome)

/-- The counts that a response has fields for. -/
def counterInits (shape : ResponseShape) : List ResponseInit :=
  let init (counter : Counter) (type : Option ScalarType) : List ResponseInit :=
    (type.map fun type ↦ ⟨counter.name, .count counter type⟩).toList
  init .total shape.total ++ init .page shape.page ++ init .pageSize shape.pageSize

def response (kind : MethodKind) (shape : ResponseShape) (outputName : String) : Response :=
  let rest := needsDefault kind shape
  match kind with
  | .delete =>
    if outputName = emptyName then .nothing
    else if shape.success then .literal [⟨"success", .success⟩] rest
    else .default
  | .list =>
    let items := (shape.entityField.map fun field ↦
      (⟨fieldIdentifier field, .items⟩ : ResponseInit)).toList
    .literal (items ++ counterInits shape) rest
  | _ =>
    match shape.entityField with
    | some field => .literal [⟨fieldIdentifier field, .record⟩] rest
    | none => .record

inductive Body where
  /-- It answers that it is not implemented. -/
  | unimplemented
  /-- It calls the handler of the same name and answers with the response. -/
  | delegate (kind : MethodKind) (response : Response)
  deriving DecidableEq

def body (service : Service) (entities : List Entity) (method : Method) : Body :=
  let operation : Option (MethodKind × CrudMethod) := do
    let name ← service.bindings.lookup method.name
    let entity ← entities.find? (·.name = name)
    let kind ← method.kind
    let operation ← entity.methods.at? kind
    some (kind, operation)
  match operation with
  | some (kind, operation) =>
    .delegate kind (response kind operation.response method.output.fullName)
  | none => .unimplemented

/-- A method is delegated exactly if it is bound to an entity that has its operation. -/
theorem body_eq_delegate_iff {service : Service} {entities : List Entity} {method : Method}
    {kind : MethodKind} {answer : Response} :
    body service entities method = .delegate kind answer ↔
      ∃ name entity operation, service.bindings.lookup method.name = some name ∧
        entities.find? (·.name = name) = some entity ∧ method.kind = some kind ∧
        entity.methods.at? kind = some operation ∧
        response kind operation.response method.output.fullName = answer := by
  rw [body]
  constructor
  · intro h
    split at h
    · next found operation hoperation =>
      obtain ⟨rfl, rfl⟩ := Body.delegate.inj h
      obtain ⟨name, hname, hoperation⟩ := Option.bind_eq_some_iff.mp hoperation
      obtain ⟨entity, hentity, hoperation⟩ := Option.bind_eq_some_iff.mp hoperation
      obtain ⟨_, hkind, hoperation⟩ := Option.bind_eq_some_iff.mp hoperation
      obtain ⟨_, hat, heq⟩ := Option.bind_eq_some_iff.mp hoperation
      cases heq
      exact ⟨name, entity, operation, hname, hentity, hkind, hat, rfl⟩
    · cases h
  · rintro ⟨name, entity, operation, hname, hentity, hkind, hat, rfl⟩
    simp only [hname, hentity, hkind, hat, bind, Option.bind_some]

end ProtoCrud.Handler
