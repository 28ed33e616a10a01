import ProtoCrud.Record.Table
import ProtoCrud.Schema.Entity
import ProtoCrud.Text.Words

/-!
# Classification of the fields of an entity

What part each stored field has in a create and in an update, which columns a row is read from and
what becomes of each. Points in time other than the audit columns are never stored or read. The
columns of a row are the id, the stored fields in the order of declaration, and the audit columns.
-/

namespace ProtoCrud.Schema

open Sql (ColumnKind)
open Text (snakeCase shoutyCase)

/-- The part that a field has in an operation. -/
inductive FieldState where
  /-- It must be present. -/
  | required
  /-- It is written if the request carries it. -/
  | optional
  /-- It is written always, with the default of its type if the request does not carry it. -/
  | alwaysIncluded
  /-- The request does not know it. -/
  | excluded
  deriving DecidableEq

def FieldState.name : FieldState → String
  | .required => "Required"
  | .optional => "Optional"
  | .alwaysIncluded => "AlwaysIncluded"
  | .excluded => "Excluded"

/-- A stored field with its part in each operation. -/
structure ClassifiedField where
  field : Field
  create : FieldState
  update : FieldState
  /-- Whether the update request declares the field as optional. -/
  updateOptional : Bool
  deriving DecidableEq

def createState (field : Field) : Option Field → FieldState
  | none => .excluded
  | some inRequest =>
    if inRequest.optional then .optional
    else if field.isEnum then .alwaysIncluded
    else .required

def updateState (field : Field) : Option Field → FieldState
  | none => .excluded
  | some inRequest =>
    if field.isEnum then .alwaysIncluded
    else if inRequest.optional then .optional
    else .alwaysIncluded

def pathConstant (path : String) : String :=
  shoutyCase (String.ofList (Text.replaceAll ':' [':'] ['_'] path.toList))

def fullNameConstant (fullName : String) : String :=
  let trimmed := fullName.toList.dropWhile (· == '.')
  shoutyCase (String.ofList (trimmed.map fun c ↦ if c = '.' then '_' else c))

namespace Entity

/--
The name of the codec of an enum: that of its path, or that of its full name if another enum of
the entity has a path of the same spelling.
-/
def codecName? (entity : Entity) (enumName : String) : Option String :=
  (entity.enums.lookup enumName).map fun definition ↦
    let name := pathConstant definition.path
    let collides := entity.enums.any fun (other, otherDef) ↦
      other != enumName && pathConstant otherDef.path == name
    if collides then fullNameConstant enumName else name

def codecOf? (entity : Entity) (field : Field) : Option String :=
  field.enumName?.bind entity.codecName?

/-- The request of an operation, if the operation is declared. -/
def request? (entity : Entity) (kind : MethodKind) : Option RequestShape :=
  (entity.methods.at? kind).map (·.request)

def requestField? (entity : Entity) (kind : MethodKind) (name : String) : Option Field :=
  (entity.request? kind).bind (·.field? name)

def classifyField (entity : Entity) (field : Field) : ClassifiedField :=
  let inCreate := entity.requestField? .create field.name
  let inUpdate := entity.requestField? .update field.name
  { field
    create := createState field inCreate
    update := updateState field inUpdate
    updateOptional := inUpdate.any (·.optional) }

end Entity

/-- What becomes of a column that is read. -/
inductive ScanTarget where
  /-- It is the value of a field. -/
  | slot (field : Field)
  /-- It is held as a text and decoded through the codec of an enum field. -/
  | enumHolder (field : Field) (holder codec : String)
  /-- It is an audit column; `declared` says whether the entity declares it, and as optional. -/
  | audit (column : String) (kind : ColumnKind) (declared : Option Bool)
  deriving DecidableEq

def ScanTarget.kind : ScanTarget → ColumnKind
  | .slot field => field.type.columnKind
  | .enumHolder .. => .text
  | .audit _ kind _ => kind

def ScanTarget.column : ScanTarget → String
  | .slot field => field.column
  | .enumHolder field _ _ => field.column
  | .audit column _ _ => column

/-- The first of the names `base_n`, `base_(n+1)`, … that is not taken. -/
def numberedHolder (base : String) (taken : List String) : (rounds n : Nat) → String
  | 0, n => base ++ "_" ++ toString n
  | rounds + 1, n =>
    let name := base ++ "_" ++ toString n
    if taken.contains name then numberedHolder base taken rounds (n + 1) else name

/--
A name for the text of an enum field that is not taken. There are more candidates than taken
names, so one of them is free.
-/
def holderName (field : Field) (taken : List String) : String :=
  let base := snakeCase field.name ++ "_str"
  if taken.contains base then numberedHolder base taken taken.length 2 else base

theorem exists_numberedHolder (base : String) (taken : List String) (rounds n : Nat) :
    ∃ number : Nat, numberedHolder base taken rounds n = base ++ "_" ++ toString number := by
  induction rounds generalizing n with
  | zero => exact ⟨n, rfl⟩
  | succ rounds ih =>
    rw [numberedHolder]
    split
    · exact ih (n + 1)
    · exact ⟨n, rfl⟩

theorem holderName_cases (field : Field) (taken : List String) :
    holderName field taken = snakeCase field.name ++ "_str" ∨
      ∃ number : Nat,
        holderName field taken = snakeCase field.name ++ "_str" ++ "_" ++ toString number := by
  rw [holderName]
  split
  · exact .inr (exists_numberedHolder ..)
  · exact .inl rfl

/-- What becomes of the columns of fields, when the given names are taken. -/
def fieldTargets (entity : Entity) (taken : List String) : List Field → List ScanTarget
  | [] => []
  | field :: rest =>
    match entity.codecOf? field with
    | some codec =>
      let holder := holderName field taken
      .enumHolder field holder codec :: fieldTargets entity (holder :: taken) rest
    | none => .slot field :: fieldTargets entity taken rest

def auditKind (column : String) : ColumnKind :=
  if column = "created_at" ∨ column = "updated_at" then .timestamp else .text

/-- Everything that follows from the fields of an entity and of its requests. -/
structure Classification where
  /-- The stored fields, in the order of declaration. -/
  fields : List ClassifiedField
  /-- The names of the fields that are never stored. -/
  skipped : List String
  /-- What becomes of the columns of a row. -/
  scanTargets : List ScanTarget
  deriving DecidableEq

def Entity.classify (entity : Entity) : Classification :=
  let stored := entity.fields.filter (!·.isTimestamp)
  { fields := stored.map entity.classifyField
    skipped := (entity.fields.filter (·.isTimestamp)).map (·.name)
    scanTargets :=
      .audit idColumn .text (some false) ::
        fieldTargets entity (entity.fields.map fun field ↦ snakeCase field.name) stored ++
        auditTail.map fun column ↦ .audit column (auditKind column) (entity.audit.get column) }

namespace Classification

def columns (classification : Classification) : List String :=
  classification.fields.map (·.field.column)

def selected (classification : Classification) : List String :=
  idColumn :: classification.columns ++ auditTail

def rowShape (classification : Classification) : List ColumnKind :=
  classification.scanTargets.map ScanTarget.kind

def namesIn (classification : Classification) (state : FieldState) : List String :=
  (classification.fields.filter (·.create = state)).map (·.field.name)

/-- The fields that a create request must carry. -/
def requiredFields (classification : Classification) : List String :=
  classification.namesIn .required

/-- The fields that a create request may leave out. -/
def optionalFields (classification : Classification) : List String :=
  classification.namesIn .optional

/-- The columns that a list may be filtered or sorted on. -/
def filterable (classification : Classification) : List String :=
  idColumn :: classification.columns ++ ["created_by", "updated_by"]

/-- The required fields that are checked to be not empty. -/
def validated (classification : Classification) : List ClassifiedField :=
  classification.fields.filter fun classified ↦
    classified.create = .required && classified.field.isTextual

end Classification

/-- The name of an entity as messages spell it. -/
def Entity.label (entity : Entity) : String :=
  String.ofList ((snakeCase entity.name).toList.map fun c ↦ if c = '_' then ' ' else c)

def Entity.recordTable (entity : Entity) : Record.Table :=
  let classification := entity.classify
  { entity := entity.label
    name := entity.table
    columns := classification.columns
    selected := classification.selected
    shape := classification.rowShape
    filterable := classification.filterable }

end ProtoCrud.Schema
