import ProtoCrud.Proofs.Generate.LegalCode
import ProtoCrud.Proofs.Handler.RequestFields
import ProtoCrud.Proofs.Schema.Division

/-!
# Fields that a create refuses to leave empty

Before a create draws an id and calls the store, it looks for a text or some bytes that its request
has without presence and that are empty. The fields are looked at in the order in which the entity
declares them, and the first such field is the one that is reported.
-/

namespace ProtoCrud.Record

section Draws

variable {α σ : Type} (backend : Backend σ) (state : σ)

end Draws

end ProtoCrud.Record

namespace ProtoCrud.Handler

open Code (fieldIdentifier)
open Descriptor (Message)
open Record Schema Sql

def CreateValue.field? : CreateValue → Option String
  | .encodedOrDefault _ field => some field
  | .encoded _ field => some field
  | .requested field => some field
  | _ => none

section Requests

variable {entity : Entity} {operation : CrudMethod} {input : Message} {data : RequestData}

end Requests

section Creates

variable {α σ : Type}

variable (mapping : Mapping α) (backend : Backend σ) (state : σ) {row : NewRow}

end Creates

end ProtoCrud.Handler
