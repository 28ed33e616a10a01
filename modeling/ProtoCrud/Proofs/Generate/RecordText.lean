import ProtoCrud.Generate.EntityFile
import ProtoCrud.Proofs.Code.Scan

/-!
# What the code of an entity says about its record

The codecs, the description of the table and the reading of a row are read back from the code that
spells them. What is read is what the code was made from: the plans that a schema leads to are those
that its code spells out.
-/

namespace ProtoCrud.Generate

open Code Handler Schema
open Sql (ColumnKind ColumnType)

/-- A constant that holds a codec. -/
structure CodecText where
  name : String
  enumName : String
  variants : List (Int32 × String)
  deriving DecidableEq

/-- The constant that describes a table; lists of columns stand in it as in statements. -/
structure TableText where
  entity : String
  name : String
  columns : String
  placeholders : String
  selected : String
  shape : List ColumnKind
  filterable : List String
  deriving DecidableEq

def CodecText.ofEnum (codec : String) (definition : EnumDef) : CodecText where
  name := codec
  enumName := String.ofList (Text.afterLastColons definition.path.toList)
  variants := definition.variants.map fun variant ↦ (variant.number, variant.storage)

def TableText.ofTable (table : Record.Table) : TableText where
  entity := table.entity
  name := table.name
  columns := ", ".intercalate table.columns
  placeholders := ", ".intercalate (table.columns.map fun _ ↦ "?")
  selected := ", ".intercalate table.selected
  shape := table.shape
  filterable := table.filterable

namespace Scanner

open Code.Scanner

def plainTypes : List (String × ColumnType) :=
  [("String", .text), ("Vec<u8>", .bytes), ("bool", .bool), ("i32", .int32), ("i64", .int64),
    ("u32", .uint32), ("u64", .uint64), ("f32", .single), ("f64", .double),
    ("crud_runtime::prost_types::Timestamp", .timestamp)]

def columnType : Scanner ColumnType
  | .plain "Option" :: .plain "<" :: rest =>
    match columnType rest with
    | some (type, .plain ">" :: behind) => some (.optional type, behind)
    | _ => none
  | given => pick (plainTypes.map fun (text, type) ↦ (text, pure type)) given

def columnKind : Scanner ColumnKind := do
  plain "ColumnKind::"
  pick [("Bool", pure .bool), ("Int", pure .int), ("UInt", pure .uint), ("Float", pure .float),
    ("Text", pure .text), ("Bytes", pure .bytes), ("Timestamp", pure .timestamp)]

def codecVariant : Scanner (Int32 × String) := do
  plain "("
  let number ← number
  plain ","
  let text ← quoted
  plain ")"
  return (Int32.ofInt number, text)

def codec : Scanner CodecText := do
  plain "#[doc ="
  let _ ← quoted
  plain "] pub const"
  let constant ← name
  plain ": EnumCodec = EnumCodec::new("
  let enumName ← quoted
  plain ", &["
  let variants ← many codecVariant.withComma
  plain "]);"
  return ⟨constant, enumName, variants⟩

/-- Takes what is behind a label, with the comma behind it. -/
def labelled (label : String) {α : Type} (item : Scanner α) : Scanner α := do
  plain label
  plain ":"
  item.withComma

def slice {α : Type} (item : Scanner α) : Scanner (List α) := do
  plain "&["
  let items ← many item.withComma
  plain "]"
  return items

def table : Scanner TableText := do
  plain "const TABLE: TableSpec = TableSpec \x7b"
  let entity ← labelled "entity" quoted
  let tableName ← labelled "table" quoted
  let columns ← labelled "create_columns" quoted
  let placeholders ← labelled "create_placeholders" quoted
  let selected ← labelled "select_columns" quoted
  let shape ← labelled "row_shape" (slice columnKind)
  let filterable ← labelled "filterable" (slice quoted)
  plain "\x7d;"
  return ⟨entity, tableName, columns, placeholders, selected, shape, filterable⟩

theorem takes_columnType (type : ColumnType) : columnType.Takes (typeCode type) type := by
  induction type with
  | optional type ih =>
    intro behind
    have hcode : typeCode (.optional type) ++ behind =
        .plain "Option" :: .plain "<" :: (typeCode type ++ .plain ">" :: behind) := by
      rw [typeCode, angled, List.append_assoc, List.append_assoc]
      rfl
    rw [hcode, columnType, ih]
    rfl
  | _ => exact fun _ ↦ rfl

theorem takes_columnKind (kind : ColumnKind) : columnKind.Takes (kindCode kind) kind := by
  cases kind <;> exact fun _ ↦ rfl

theorem takes_codecVariant (variant : EnumVariant) :
    codecVariant.Takes (variantCode variant) (variant.number, variant.storage) := by
  have hcode : variantCode variant = code "(" ++ (code (toString variant.number.toInt) ++
      (code "," ++ (Code.quoted variant.storage ++ code ")"))) := by
    simp only [variantCode, parenthesised, List.cons_append, List.append_assoc]
    rfl
  rw [hcode]
  refine (takes_plain _).bind ((takes_number _).bind ((takes_plain _).bind
    ((takes_quoted _).bind ?_)))
  rw [Int32.ofInt_toInt]
  exact (takes_plain _).return _

theorem takes_codec (constant : String) (definition : EnumDef) :
    codec.Takes (codecCode constant definition) (.ofEnum constant definition) := by
  have hcode : codecCode constant definition =
      code "#[doc =" ++ (Code.quoted (" Storage strings of `" ++ definition.path ++ "`") ++
        (code "] pub const" ++ (Code.name constant ++ (code ": EnumCodec = EnumCodec::new(" ++
          (Code.quoted (String.ofList (Text.afterLastColons definition.path.toList)) ++
            (code ", &[" ++ (listed (definition.variants.map variantCode) ++ code "]);"))))))) := by
    have hdoc : code "#[doc =" = code "#" ++ (.plain "[" :: code "doc =") := by decide +kernel
    have hconst : code "] pub const" = .plain "]" :: code "pub const" := by decide +kernel
    have hnew : code ": EnumCodec = EnumCodec::new(" =
        code ": EnumCodec = EnumCodec::new" ++ [.plain "("] := by
      decide +kernel
    have hslice : code ", &[" = code ", &" ++ [.plain "["] := by decide +kernel
    have hend : code "]);" = .plain "]" :: .plain ")" :: code ";" := by decide +kernel
    simp only [codecCode, doc, squared, parenthesised, hdoc, hconst, hnew, hslice, hend,
      List.append_assoc, List.cons_append, List.nil_append]
  rw [hcode]
  refine (takes_plain _).bind ((takes_quoted _).bind ((takes_plain _).bind ((takes_name _).bind
    ((takes_plain _).bind ((takes_quoted _).bind ((takes_plain _).bind ?_))))))
  exact Takes.listed_bind (fun variant _ ↦ takes_codecVariant variant) (fun _ ↦ rfl)
    ((takes_plain _).return _)

theorem takes_labelled (label : String) {α : Type} {item : Scanner α} {given : List Token}
    {value : α} (h : item.Takes given value) :
    (labelled label item).Takes (code label ++ (code ":" ++ (given ++ [.plain ","]))) value :=
  (takes_plain _).bind ((takes_plain _).bind h.withComma)

theorem takes_slice {α : Type} {item : Scanner α} {write : α → List Token} {items : List α}
    (hitem : ∀ a ∈ items, item.Takes (write a) a)
    (hstop : ∀ behind, item (code "]" ++ behind) = none) :
    (slice item).Takes (code "&[" ++ (listed (items.map write) ++ code "]")) items :=
  (takes_plain _).bind (Takes.listed_bind_self hitem hstop ((takes_plain _).return _))

theorem takes_table (spec : Record.Table) : table.Takes (tableCode spec) (.ofTable spec) := by
  have hcode : tableCode spec = code "const TABLE: TableSpec = TableSpec \x7b" ++
      ((code "entity" ++ (code ":" ++ (Code.quoted spec.entity ++ [.plain ","]))) ++
      ((code "table" ++ (code ":" ++ (Code.quoted spec.name ++ [.plain ","]))) ++
      ((code "create_columns" ++ (code ":" ++ (Code.quoted (", ".intercalate spec.columns) ++
        [.plain ","]))) ++
      ((code "create_placeholders" ++ (code ":" ++
        (Code.quoted (", ".intercalate (spec.columns.map fun _ ↦ "?")) ++ [.plain ","]))) ++
      ((code "select_columns" ++ (code ":" ++ (Code.quoted (", ".intercalate spec.selected) ++
        [.plain ","]))) ++
      ((code "row_shape" ++ (code ":" ++
        ((code "&[" ++ (listed (spec.shape.map kindCode) ++ code "]")) ++ [.plain ","]))) ++
      ((code "filterable" ++ (code ":" ++
        ((code "&[" ++ (listed (spec.filterable.map Code.quoted) ++ code "]")) ++
          [.plain ","]))) ++
      code "\x7d;"))))))) := by
    have hopen : code "const TABLE: TableSpec = TableSpec \x7b" =
        code "const TABLE: TableSpec = TableSpec" ++ [.plain "\x7b"] := by
      decide +kernel
    have hslice : code ": &" = code ":" ++ [.plain "&"] := by decide +kernel
    have hbracket : code "&[" = [.plain "&", .plain "["] := by decide +kernel
    have hclose : code "]" = [.plain "]"] := by decide +kernel
    have hend : code "\x7d;" = .plain "\x7d" :: code ";" := by decide +kernel
    simp only [tableCode, listed, braced, squared, List.flatMap_cons, List.flatMap_nil, hopen,
      hslice, hbracket, hclose, hend, List.append_assoc, List.cons_append, List.nil_append]
  rw [hcode]
  have hshape := takes_slice (fun (kind : ColumnKind) (_ : kind ∈ spec.shape) ↦
    takes_columnKind kind) fun _ ↦ rfl
  have hfilterable := takes_slice (fun (column : String) (_ : column ∈ spec.filterable) ↦
    takes_quoted column) fun _ ↦ rfl
  exact (takes_plain _).bind <| (takes_labelled "entity" (takes_quoted _)).bind <|
    (takes_labelled "table" (takes_quoted _)).bind <|
      (takes_labelled "create_columns" (takes_quoted _)).bind <|
        (takes_labelled "create_placeholders" (takes_quoted _)).bind <|
          (takes_labelled "select_columns" (takes_quoted _)).bind <|
            (takes_labelled "row_shape" hshape).bind <|
              (takes_labelled "filterable" hfilterable).bind <| (takes_plain _).return _

end Scanner

/-- The function that reads a row. The columns have no names in it, only an order. -/
structure ReadingText where
  cursor : String
  locals : List (String × ColumnType)
  inits : List FieldInit
  hasRest : Bool
  deriving DecidableEq

structure RecordText where
  codecs : List CodecText
  typeName : String
  table : TableText
  reading : ReadingText
  deriving DecidableEq

def ReadingText.ofReading (reading : RowReading) : ReadingText where
  cursor := reading.cursor
  locals := reading.reads.map fun read ↦ (read.target, read.type)
  inits := reading.inits
  hasRest := reading.hasRest

def RecordText.ofEntity (entity : Entity) : RecordText where
  codecs := (Generate.codecs entity).map fun (codec, definition) ↦ .ofEnum codec definition
  typeName := Text.camelCase entity.name
  table := .ofTable entity.recordTable
  reading := .ofReading (rowReading entity)

namespace Scanner

open Code.Scanner

def columnRead (cursor : String) : Scanner (String × ColumnType) := do
  plain "let"
  let target ← name
  plain ":"
  let type ← columnType
  plain "="
  tokens [.name cursor]
  plain ".take()?;"
  return (target, type)

def fieldInit : Scanner FieldInit := do
  let field ← name
  pick
    [(",", pure ⟨field, .same⟩),
      (":", do
        let source ← name
        pick
          [(".unwrap_or_default(),",
              if source = field then pure ⟨field, .orDefault⟩ else fun _ ↦ none),
            (".map(|s|", do
              let codec ← name
              plain ".decode(&s)),"
              return ⟨field, .decoded source codec true⟩),
            (".decode(&", do
              let holder ← name
              plain "),"
              return ⟨field, .decoded holder source false⟩)])]

def reading : Scanner ReadingText := do
  plain "fn from_row(row: Row) -> Result<Self, RowError> \x7b let mut"
  let cursor ← name
  plain "= row.columns();"
  let locals ← many (columnRead cursor)
  plain "Ok(Self \x7b"
  let inits ← many fieldInit
  pick
    [("\x7d)\x7d", pure ⟨cursor, locals, inits, false⟩),
      ("..Default::default()\x7d)\x7d", pure ⟨cursor, locals, inits, true⟩)]

def record : Scanner RecordText := do
  let codecs ← many codec
  plain "impl Record for proto::"
  let typeName ← name
  plain "\x7b"
  let table ← table
  let reading ← reading
  plain "\x7d"
  return ⟨codecs, typeName, table, reading⟩

theorem takes_columnRead (cursor : String) (read : ColumnRead) :
    (columnRead cursor).Takes (readCode cursor read) (read.target, read.type) := by
  simp only [readCode, List.append_assoc]
  exact (takes_plain _).bind ((takes_name _).bind ((takes_plain _).bind
    ((takes_columnType _).bind ((takes_plain _).bind ((takes_tokens _).bind
      ((takes_plain _).return _))))))

theorem takes_fieldInit (init : FieldInit) :
    fieldInit.Takes (initCode init ++ [.plain ","]) init := by
  obtain ⟨field, value⟩ := init
  intro behind
  cases value with
  | same => rfl
  | orDefault =>
    change (if field = field then pure _ else fun _ ↦ none : Scanner FieldInit) behind = _
    rw [if_pos rfl]
    rfl
  | decoded holder codec optional =>
    cases optional with
    | false => rfl
    | true => rfl

theorem takes_reading (plan : RowReading) : reading.Takes (fromRowCode plan) (.ofReading plan) := by
  have hcode : fromRowCode plan =
      code "fn from_row(row: Row) -> Result<Self, RowError> \x7b let mut" ++
        (Code.name plan.cursor ++ (code "= row.columns();" ++
          (plan.reads.flatMap (readCode plan.cursor) ++ (code "Ok(Self \x7b" ++
            (plan.inits.flatMap (fun init ↦ initCode init ++ [.plain ","]) ++
              (restCode plan.hasRest ++ code "\x7d)\x7d")))))) := by
    have hopen : code "fn from_row(row: Row) -> Result<Self, RowError> \x7b let mut" =
        code "fn from_row(row: Row) -> Result<Self, RowError>" ++
          (.plain "\x7b" :: code "let mut") := by
      decide +kernel
    have hself : code "Ok(Self \x7b" =
        code "Ok" ++ (.plain "(" :: (code "Self" ++ [.plain "\x7b"])) := by
      decide +kernel
    have hend : code "\x7d)\x7d" = [.plain "\x7d", .plain ")", .plain "\x7d"] := by decide +kernel
    simp only [fromRowCode, braced, parenthesised, listed, List.flatMap_map, hopen, hself, hend,
      List.append_assoc, List.cons_append, List.nil_append]
  rw [hcode]
  have hreadsEnd (rest behind : List Token) :
      columnRead plan.cursor ((code "Ok(Self \x7b" ++ rest) ++ behind) = none :=
    plain_bind_eq_none (mismatch_append (mismatch_append (by decide +kernel) rest) behind)
  refine (takes_plain _).bind ((takes_name _).bind ((takes_plain _).bind ?_))
  refine Takes.many_bind (fun read _ ↦ takes_columnRead plan.cursor read)
    (fun _ _ ↦ by simp [readCode, Code.name]) (hreadsEnd _) ((takes_plain _).bind ?_)
  refine Takes.many_bind_self (fun init _ ↦ takes_fieldInit init) (fun _ _ ↦ by simp) ?_ ?_
  · intro behind
    cases plan.hasRest <;> rfl
  · intro behind
    rw [ReadingText.ofReading]
    cases plan.hasRest <;> rfl

theorem takes_record (entity : Entity) :
    record.Takes ((Generate.codecs entity).flatMap (fun (codec, definition) ↦
      codecCode codec definition) ++ recordCode entity) (.ofEntity entity) := by
  have hcode : recordCode entity = code "impl Record for proto::" ++
      (Code.name (Text.camelCase entity.name) ++ (code "\x7b" ++ (tableCode entity.recordTable ++
        (fromRowCode (rowReading entity) ++ code "\x7d")))) := by
    have hopen : code "impl Record for proto::" = code "impl Record for" ++ code "proto::" := by
      decide +kernel
    have hbrace : code "\x7b" = [.plain "\x7b"] := by decide +kernel
    have hend : code "\x7d" = [.plain "\x7d"] := by decide +kernel
    simp only [recordCode, entityType, braced, hopen, hbrace, hend, List.append_assoc,
      List.cons_append, List.nil_append]
  rw [hcode]
  have hstop (rest behind : List Token) :
      codec ((code "impl Record for proto::" ++ rest) ++ behind) = none :=
    plain_bind_eq_none (mismatch_append (mismatch_append (by decide +kernel) rest) behind)
  refine Takes.many_bind (fun entry _ ↦ takes_codec entry.1 entry.2)
    (fun _ _ ↦ by simp [codecCode, Code.name]) (hstop _) ?_
  exact (takes_plain _).bind ((takes_name _).bind ((takes_plain _).bind ((takes_table _).bind
    ((takes_reading _).bind ((takes_plain _).return _)))))

end Scanner
end ProtoCrud.Generate
