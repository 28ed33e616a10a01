import ProtoCrud.Generate.TypeCode
import ProtoCrud.Handler.Reading
import ProtoCrud.Handler.Writing

/-!
# The file of an entity

It holds a codec for each enum of the entity, the description of its table with the reading of a
row, and one function for each operation that is declared.
-/

namespace ProtoCrud.Generate

open Code Handler Schema

/-- The enums of the stored fields, each under the name of its codec; the first of a name counts. -/
def codecs (entity : Entity) : List (String × EnumDef) :=
  let named := entity.classify.fields.filterMap fun classified ↦ do
    let enumName ← classified.field.enumName?
    let codec ← entity.codecName? enumName
    let definition ← entity.enums.lookup enumName
    some (codec, definition)
  (named.map Prod.fst).eraseDups.mergeSort.filterMap fun codec ↦
    (named.lookup codec).map (codec, ·)

/-- One value of an enum with the text that stores it. -/
def variantCode (variant : EnumVariant) : List Token :=
  parenthesised (code (toString variant.number.toInt) ++ code "," ++ quoted variant.storage)

def codecCode (codec : String) (definition : EnumDef) : List Token :=
  let typeName := String.ofList (Text.afterLastColons definition.path.toList)
  doc (" Storage strings of `" ++ definition.path ++ "`") ++
    code "pub const" ++ name codec ++ code ": EnumCodec = EnumCodec::new" ++
    parenthesised (quoted typeName ++ code ", &" ++
      squared (listed (definition.variants.map variantCode))) ++
    code ";"

def readCode (cursor : String) (read : ColumnRead) : List Token :=
  code "let" ++ name read.target ++ code ":" ++ typeCode read.type ++ code "=" ++ name cursor ++
    code ".take()?;"

def initCode (init : FieldInit) : List Token :=
  match init.value with
  | .same => name init.field
  | .orDefault => name init.field ++ code ":" ++ name init.field ++ code ".unwrap_or_default()"
  | .decoded holder codec true =>
    name init.field ++ code ":" ++ name holder ++ code ".map(|s|" ++ name codec ++
      code ".decode(&s))"
  | .decoded holder codec false =>
    name init.field ++ code ":" ++ name codec ++ code ".decode(&" ++ name holder ++ code ")"

/-- What stands for the fields that are not named. -/
def restCode (hasRest : Bool) : List Token :=
  if hasRest then code "..Default::default()" else []

def fromRowCode (reading : RowReading) : List Token :=
  code "fn from_row(row: Row) -> Result<Self, RowError>" ++
    braced (code "let mut" ++ name reading.cursor ++ code "= row.columns();" ++
      reading.reads.flatMap (readCode reading.cursor) ++
      code "Ok" ++ parenthesised (code "Self" ++
        braced (listed (reading.inits.map initCode) ++ restCode reading.hasRest)))

def tableCode (table : Record.Table) : List Token :=
  let text (label value : String) : List Token := code label ++ code ":" ++ quoted value
  let slice (label : String) (items : List (List Token)) : List Token :=
    code label ++ code ": &" ++ squared (listed items)
  code "const TABLE: TableSpec = TableSpec" ++
    braced (listed
      [text "entity" table.entity,
        text "table" table.name,
        text "create_columns" (", ".intercalate table.columns),
        text "create_placeholders" (", ".intercalate (table.columns.map fun _ ↦ "?")),
        text "select_columns" (", ".intercalate table.selected),
        slice "row_shape" (table.shape.map kindCode),
        slice "filterable" (table.filterable.map quoted)]) ++
    code ";"

/-- Everything about the entity that does not depend on its operations. -/
def recordCode (entity : Entity) : List Token :=
  code "impl Record for" ++ entityType entity ++
    braced (tableCode entity.recordTable ++ fromRowCode (rowReading entity))

def authorCode : Option String → List Token
  | some field => code "SqlValue::from(request." ++ name field ++ code ")"
  | none => code "SqlValue::Null"

def createValueCode : CreateValue → List Token
  | .null => code "SqlValue::Null"
  | .codecDefault codec => code "SqlValue::from(" ++ name codec ++ code ".default_storage())"
  | .typeDefault type =>
    code "SqlValue::from(<" ++ typeCode type ++ code "as Default>::default())"
  | .encodedOrDefault codec field =>
    code "SqlValue::from(" ++ name codec ++ code ".encode_or_default(request." ++ name field ++
      code "))"
  | .encoded codec field =>
    code "SqlValue::from(" ++ name codec ++ code ".encode(request." ++ name field ++ code "))"
  | .requested field => code "SqlValue::from(request." ++ name field ++ code ")"

def checkCode (check : PresenceCheck) : List Token :=
  parenthesised (quoted check.name ++ code ", !request." ++ name check.field ++
    code ".is_empty()")

def assignmentCode (assignment : Assignment) : List Token :=
  let set (value : List Token) : List Token :=
    code "changes.set" ++ parenthesised (quoted assignment.column ++ code "," ++ value) ++
      code ";"
  match assignment.value with
  | .encodedOrZero codec field =>
    set (name codec ++ code ".encode(request." ++ name field ++ code ".unwrap_or_default())")
  | .encoded codec field => set (name codec ++ code ".encode(request." ++ name field ++ code ")")
  | .ifPresent field =>
    code "if let Some(value) = request." ++ name field ++ braced (set (code "value"))
  | .requested field => set (code "request." ++ name field)

/-- What an operation is said to do. -/
def summary : MethodKind → String
  | .create => "validate, insert and return the stored row"
  | .get => "fetch one row by id"
  | .update => "apply the supplied fields and return the stored row"
  | .delete => "delete one row by id"
  | .list => "filter, sort and paginate"

/-- What an operation returns. -/
def resultCode (kind : MethodKind) (entity : List Token) : List Token :=
  match kind with
  | .delete => code "()"
  | .list => code "Page" ++ angled entity
  | _ => entity

def usesRequest (entity : Entity) (kind : MethodKind) (shape : RequestShape) : Bool :=
  match kind with
  | .create => (createPlan entity shape).usesRequest
  | .list => shape.searchField.isSome
  | _ => true

def createCode (plan : CreatePlan) (entity : List Token) : List Token :=
  code "let required = vec!" ++ squared (listed (plan.checks.map checkCode)) ++
    code "; let row = NewRow" ++
    braced (listed
      [code "required",
        code "values: vec!" ++ squared (listed (plan.values.map createValueCode)),
        code "created_by:" ++ authorCode plan.author]) ++
    code "; crud::create::" ++ angled entity ++ code "(&self.store, self.ids.as_ref(), row).await"

def updateCode (plan : UpdatePlan) (entity : List Token) : List Token :=
  code (if plan.assignments.isEmpty then "let changes" else "let mut changes") ++
    code "= Changes" ++
    braced (code "updated_by:" ++ authorCode plan.author ++ code ", ..Default::default()") ++
    code ";" ++ plan.assignments.flatMap assignmentCode ++
    code "crud::update::" ++ angled entity ++ code "(&self.store, &request.id, changes).await"

def listCode (searchField : Option String) (entity : List Token) : List Token :=
  let query := match searchField with
    | some field => code "ListQuery::from_search(request." ++ name (fieldIdentifier field) ++
        code ")"
    | none => code "ListQuery::default()"
  code "let query =" ++ query ++ code "; crud::list::" ++ angled entity ++
    code "(&self.store, &query).await"

def operationBody (entity : Entity) (kind : MethodKind) (shape : RequestShape) : List Token :=
  let type := entityType entity
  match kind with
  | .create => createCode (createPlan entity shape) type
  | .get => code "crud::get::" ++ angled type ++ code "(&self.store, &request.id).await"
  | .update => updateCode (updatePlan entity shape) type
  | .delete => code "crud::delete::" ++ angled type ++ code "(&self.store, &request.id).await"
  | .list => listCode shape.searchField type

def operationCode (entity : Entity) (kind : MethodKind) (operation : CrudMethod)
    (requestType : List Token) : List Token :=
  let parameter :=
    if usesRequest entity kind operation.request then "request" else "_request"
  doc (" `" ++ operation.method.name ++ "`: " ++ summary kind) ++
    code "pub async fn" ++ name (fieldIdentifier operation.method.name) ++
    parenthesised (code "&self," ++ code parameter ++ code ":" ++ requestType) ++
    code "-> Result" ++ angled (resultCode kind (entityType entity) ++ code ", HandlerError") ++
    braced (operationBody entity kind operation.request)

def operationsCode (options : Options) (entity : Entity) :
    List (MethodKind × CrudMethod) → Except Abort (List Token)
  | [] => .ok []
  | (kind, operation) :: rest => do
    let request ← withParameter (messageType options operation.method.input entity.package)
    let first ← legal (operationCode entity kind operation request)
    let others ← operationsCode options entity rest
    pure (first ++ others)

/-- The code of the file of an entity, as it is before it is formatted. -/
def entityCode (options : Options) (entity : Entity) : Except Abort (List Token) := do
  let module ← withParameter (options.module entity.package)
  let record ← legal ((codecs entity).flatMap (fun (codec, definition) ↦
    codecCode codec definition) ++ recordCode entity)
  let operations ← operationsCode options entity entity.methods.toList
  pure (fileHeader (" CRUD handlers for `" ++ entity.name ++ "`") ++
    code "use crud_runtime::crud::" ++
    braced (code "self, Changes, NewRow, Record, TableSpec") ++
    code "; use crud_runtime::" ++
    braced (code "ColumnKind, EnumCodec, HandlerError, ListQuery, Page," ++
      code "Row, RowError, SqlValue, Store") ++
    code "; use super::Handler; use" ++ module ++ code "as proto;" ++ record ++
    code "impl<S: Store> Handler<S>" ++ braced operations)

def entityFile (options : Options) (entity : Entity) : Except Abort (List Token) := do
  formattedFile (← entityCode options entity)

end ProtoCrud.Generate
