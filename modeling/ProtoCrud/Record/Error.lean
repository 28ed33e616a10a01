import ProtoCrud.Sql.Row

/-!
# Failures of a record operation

A failure is its cause. The status under which a caller sees it and its text are functions of the
cause; the failures of the store and of a row that does not decode are wrapped, with the entity
and the action that met them.
-/

namespace ProtoCrud.Record

open Sql (RowError)

inductive StoreError where
  /-- A write was rejected because a value that must be unique exists already. -/
  | uniqueViolation (detail : String)
  /-- Anything else. -/
  | backend (detail : String)
  deriving DecidableEq

def StoreError.message : StoreError → String
  | .uniqueViolation detail => "unique constraint violated: " ++ detail
  | .backend detail => detail

/-- What an operation was doing when the store failed. -/
inductive Action where
  | create
  | readBack
  | get
  | update
  | delete
  | count
  | list
  deriving DecidableEq

def Action.verb : Action → String
  | .create => "create"
  | .readBack => "read back"
  | .get => "get"
  | .update => "update"
  | .delete => "delete"
  | .count => "count"
  | .list => "list"

inductive OperationError where
  /-- A field that must be present is missing. -/
  | required (field : String)
  /-- An update without assignments. -/
  | nothingToUpdate
  /-- The addressed row does not exist. -/
  | notFound (entity : String)
  /-- A row with a value that must be unique exists already. -/
  | alreadyExists (entity : String)
  /-- The store failed. -/
  | storage (entity : String) (action : Action) (source : StoreError)
  /-- A row did not decode. -/
  | scan (entity : String) (source : RowError)
  deriving DecidableEq

/-- The status under which a failure is reported. -/
inductive Status where
  | invalidArgument
  | notFound
  | alreadyExists
  | internal
  deriving DecidableEq

def Status.code : Status → Nat
  | .invalidArgument => 3
  | .notFound => 5
  | .alreadyExists => 6
  | .internal => 13

namespace OperationError

def status : OperationError → Status
  | .required _ => .invalidArgument
  | .nothingToUpdate => .invalidArgument
  | .notFound _ => .notFound
  | .alreadyExists _ => .alreadyExists
  | .storage .. => .internal
  | .scan .. => .internal

/-- The text of the wrapped failure, if there is one. -/
def sourceMessage? : OperationError → Option String
  | .storage _ _ source => some source.message
  | .scan _ source => some source.message
  | _ => none

/-- The text of a failure. -/
def message : OperationError → String
  | .required field => field ++ " is required"
  | .nothingToUpdate => "no fields to update"
  | .notFound entity => entity ++ " not found"
  | .alreadyExists entity => entity ++ " already exists"
  | .storage entity action source =>
    "failed to " ++ action.verb ++ " " ++ entity ++ ": " ++ source.message
  | .scan entity source => "failed to scan " ++ entity ++ ": " ++ source.message

end OperationError

/-- Fails with the first field whose check, "the value is present", did not pass. -/
def require (checks : List (String × Bool)) : Except OperationError Unit :=
  match checks.find? (!·.2) with
  | some (field, _) => .error (.required field)
  | none => .ok ()

end ProtoCrud.Record
