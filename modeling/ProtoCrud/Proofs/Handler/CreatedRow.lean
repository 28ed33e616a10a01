import ProtoCrud.Proofs.Generate.CodecNames
import ProtoCrud.Proofs.Generate.EntityText
import ProtoCrud.Proofs.Record.Ledger
import ProtoCrud.Proofs.Sql.Reading

/-!
# Rows that a create writes, read back

A create writes a value for every stored field, and what it returns is read from the row that is
stored then. The value follows the request and the type it is read as follows the entity, and these
are declared apart. The row is read back unless a field that the entity always has, and whose type
has no codec, may be left out of the request and is.
-/

namespace ProtoCrud.Sql

/-! ## Values that can be read -/

/-- Whether a value can be read as a type. -/
def Fits (type : ColumnType) (value : Value) : Prop :=
  (type.ofValue? value).isSome = true

def Datum.toValue (datum : Datum) : Value :=
  datum.type.toValue datum.datum

theorem fits_optional_null (type : ColumnType) : Fits (.optional type) .null := by
  rw [Fits, ColumnType.ofValue?]
  rfl

theorem Fits.optional {type : ColumnType} {value : Value} (h : Fits type value) :
    Fits (.optional type) value := by
  cases value <;> simp_all [Fits, ColumnType.ofValue?]

theorem isSome_wholeWithin? {value : Value} {low high whole : Int}
    (hvalue : value.whole? = some whole) (hlow : low ≤ whole) (hhigh : whole ≤ high) :
    (value.wholeWithin? low high).isSome = true := by
  simp [Value.wholeWithin?, hvalue, Option.filter, hlow, hhigh]

theorem fits_of_read_eq_ok {type : ColumnType} {value : Value} {datum : type.Carrier}
    (h : type.read value = .ok datum) : Fits type value := by
  rw [read_eq, orRefused_eq_ok_iff] at h
  rw [Fits, h, Option.isSome_some]

/-- A datum is read back as its type from the value that stores it. -/
theorem fits_toValue (type : ColumnType) (datum : type.Carrier) :
    Fits type (type.toValue datum) := by
  induction type with
  | optional type ih =>
    cases datum with
    | none => exact fits_optional_null type
    | some datum => exact (ih datum).optional
  | int32 => exact fits_of_read_eq_ok (read_toValue (.whole .int32) datum)
  | int64 => exact fits_of_read_eq_ok (read_toValue (.whole .int64) datum)
  | uint32 => exact fits_of_read_eq_ok (read_toValue (.whole .uint32) datum)
  | uint64 => exact fits_of_read_eq_ok (read_toValue (.whole .uint64) datum)
  | _ => rfl

theorem Datum.fits_toValue {datum : Datum} {type : ColumnType} (h : datum.type = type) :
    Fits type datum.toValue := by
  subst h
  exact Sql.fits_toValue _ _

/-- Nothing but an optional type is read from the absence of a value. -/
theorem not_fits_null {type : ColumnType} (h : ∀ inner, type ≠ .optional inner) :
    ¬ Fits type .null := by
  cases type with
  | optional inner => exact absurd rfl (h inner)
  | _ => simp [Fits, ColumnType.ofValue?, Value.wholeWithin?, Value.whole?, Value.double?]

/-- Columns are read without a failure if and only if each of them fits its type. -/
theorem takeAll_eq_ok_iff {types : List ColumnType} {values : List Value} {index : Nat}
    (hlength : values.length = types.length) :
    (∃ data, (Cursor.mk index values).takeAll types = .ok data) ↔
      List.Forall₂ Fits types values := by
  induction types generalizing values index with
  | nil =>
    obtain rfl := List.length_eq_zero_iff.mp hlength
    exact ⟨fun _ ↦ .nil, fun _ ↦ ⟨[], rfl⟩⟩
  | cons type types ih =>
    cases values with
    | nil => cases hlength
    | cons value values =>
      have hrest : (∃ data, (Cursor.mk (index + 1) values).takeAll types = .ok data) ↔
          List.Forall₂ Fits types values :=
        ih (Nat.succ.inj hlength)
      rw [List.forall₂_cons, ← hrest, Cursor.takeAll, take_cons, Fits]
      cases type.ofValue? value with
      | none => simp
      | some datum =>
        dsimp only [Option.elim]
        cases (Cursor.mk (index + 1) values).takeAll types with
        | error e => simp [Except.map]
        | ok data => simp [Except.map]

end ProtoCrud.Sql

namespace ProtoCrud.Record

open Sql

/-- A new entry has the values of its row in the order of the columns. -/
theorem map_values_ofRow {columns : List String} {now : Timestamp} {row : NewRow}
    (hnodup : columns.Nodup) (hlength : row.values.length = columns.length) :
    columns.map (Entry.ofRow columns now row).values = row.values := by
  refine List.ext_getElem (by rw [List.length_map, hlength]) fun i hi hvalue ↦ ?_
  have hcolumn : i < columns.length := hlength ▸ hvalue
  have hkeys : ((columns.zip row.values).map Prod.fst).Nodup := by
    rwa [List.map_fst_zip (by omega)]
  have hmem : (columns[i], row.values[i]) ∈ columns.zip row.values := by
    rw [← List.getElem_zip (h := by rw [List.length_zip]; omega)]
    exact List.getElem_mem _
  rw [List.getElem_map]
  change ((columns.zip row.values).lookup columns[i]).getD .null = row.values[i]
  rw [Schema.lookup_of_mem hkeys hmem, Option.getD_some]

end ProtoCrud.Record

namespace ProtoCrud.Schema

/-! ## Requests of a create -/

/-- A request that writes fields has them in the types of the entity. -/
theorem type_of_field? {kind : MethodKind} (hkind : writesFields kind = true)
    {input : Descriptor.Message} {name : String} {stored : List Field} {request : RequestShape}
    (hrequest : requestShape kind input name stored = .ok request)
    (hnames : (stored.map (·.name)).Nodup) {field inRequest : Field} (hfield : field ∈ stored)
    (hfound : request.field? field.name = some inRequest) : inRequest.type = field.type := by
  rw [requestShape] at hrequest
  split at hrequest
  · cases hrequest
  split at hrequest
  · cases hrequest
  · next hmismatch =>
    cases hrequest
    have hmem := List.mem_of_find?_eq_some hfound
    have hname : inRequest.name = field.name := by
      simpa using List.find?_some hfound
    have hagrees := List.find?_eq_none.mp hmismatch inRequest hmem
    -- The first stored field of this name is the only one.
    have hfirst : stored.find? (·.name = inRequest.name) = some field := by
      obtain ⟨before, after, rfl⟩ := List.append_of_mem hfield
      rw [List.find?_eq_some_iff_append]
      refine ⟨by simp [hname], before, after, rfl, fun other hother ↦ ?_⟩
      rw [List.map_append, List.map_cons, List.nodup_append] at hnames
      have hne := hnames.2.2 _ (List.mem_map_of_mem hother) _ List.mem_cons_self
      simpa [hname] using hne
    rw [hfirst, Option.any_some, bne_iff_ne, ne_eq, not_not] at hagrees
    exact hagrees.symm

end ProtoCrud.Schema

namespace ProtoCrud.Handler

open Code (fieldIdentifier)
open Generate Record Schema Sql

abbrev RequestData := String → Datum

def heldType (field : Field) : ColumnType :=
  optionalIf field.optional (fieldColumnType field.type)

structure IsDataOf (data : RequestData) (request : RequestShape) : Prop where
  field_type : ∀ field ∈ request.fields,
    (data (fieldIdentifier field.name)).type = heldType field
  author_type : ∀ optional, request.author = some optional →
    (data (fieldIdentifier "created_by")).type = optionalIf optional .text

/-- The number that an enum field holds. -/
def number? : Datum → Option Int32
  | ⟨.int32, number⟩ => some number
  | _ => none

/-- The number that an optional enum field holds, if it is present. -/
def optionalNumber? : Datum → Option (Option Int32)
  | ⟨.optional .int32, number⟩ => some number
  | _ => none

def isPresent : Datum → Bool
  | ⟨.text, text⟩ => text != ""
  | ⟨.bytes, bytes⟩ => bytes != []
  | _ => true

/-- The codec that the code of an entity defines under a name. -/
def definedCodec? (entity : Entity) (codec : String) : Option EnumCodec :=
  ((codecs entity).lookup codec).bind EnumDef.codec?

theorem codec?_ofEntity (entity : Entity) (codec : String) :
    (RecordText.ofEntity entity).codec? codec = definedCodec? entity codec := by
  rw [RecordText.codec?, RecordText.ofEntity, List.find?_map, definedCodec?]
  induction codecs entity with
  | nil => rfl
  | cons entry rest ih =>
    obtain ⟨name, definition⟩ := entry
    by_cases hname : name = codec
    · subst hname
      simp [CodecText.ofEnum, EnumDef.codec?, EnumDef.table]
    · have hother : (codec == name) = false := beq_false_of_ne (Ne.symm hname)
      simpa [CodecText.ofEnum, hname, hother, List.lookup_cons] using ih

def CreateValue.value? (codec? : String → Option EnumCodec) (data : RequestData) :
    CreateValue → Option Value
  | .null => some .null
  | .codecDefault codec => do
    let codec ← codec? codec
    some (.text codec.defaultText)
  | .typeDefault type => some (type.toValue type.zero)
  | .encodedOrDefault codec field => do
    let codec ← codec? codec
    let number ← optionalNumber? (data field)
    some (.text (codec.encodeOrDefault number))
  | .encoded codec field => do
    let codec ← codec? codec
    let number ← number? (data field)
    some (.text (codec.encode number))
  | .requested field => some (data field).toValue

def CreatePlan.row? (plan : CreatePlan) (codec? : String → Option EnumCodec)
    (data : RequestData) : Option NewRow := do
  let values ← plan.values.mapM (CreateValue.value? codec? data)
  some
    { required := plan.checks.map fun check ↦ (check.name, isPresent (data check.field))
      values
      createdBy := plan.author.elim .null fun field ↦ (data field).toValue }

def newRow? (entity : Entity) (request : RequestShape) (data : RequestData) : Option NewRow :=
  (createPlan entity request).row? (definedCodec? entity) data

/-- The locals of a reading of a row, up to the first column that does not fit. -/
def RowReading.run (reading : RowReading) (row : Row) : Except RowError (List Datum) :=
  row.cursor.takeAll (reading.reads.map ColumnRead.type)

/-- A field that must have a value, and that is left out of the request where it may be. -/
structure LacksValue (entity : Entity) (request : RequestShape) (data : RequestData)
    (field : Field) : Prop where
  isTimestamp_eq_false : field.isTimestamp = false
  isEnum_eq_false : field.isEnum = false
  optional_eq_false : field.optional = false
  exists_optional : ∃ inRequest, request.field? field.name = some inRequest ∧
    inRequest.optional = true
  toValue_eq_null : (data (fieldIdentifier field.name)).toValue = .null

/-! ## What columns are read as -/

def readType (entity : Entity) (field : Field) : ColumnType :=
  optionalIf field.optional
    (if (entity.codecOf? field).isSome then .text else fieldColumnType field.type)

theorem map_type_fieldTargets (entity : Entity) (taken : List String) (fields : List Field) :
    (fieldTargets entity taken fields).map (fun target ↦ (readTarget target).1.type) =
      fields.map (readType entity) := by
  induction fields generalizing taken with
  | nil => rfl
  | cons field rest ih =>
    rw [fieldTargets]
    split
    · next codec hcodec =>
      rw [List.map_cons, List.map_cons, ih, readType, hcodec]
      rfl
    · next hcodec =>
      rw [List.map_cons, List.map_cons, ih, readType, hcodec]
      rfl

theorem type_readTarget_audit {column : String} (hcolumn : column ≠ idColumn) (kind : ColumnKind)
    (declared : Option Bool) :
    (readTarget (.audit column kind declared)).1.type = .optional (auditColumnType kind) := by
  cases declared with
  | none => rfl
  | some optional => simp [readTarget, hcolumn]

/-- The types that the columns of a row are read as, in the order of the select list. -/
theorem map_type_reads (entity : Entity) :
    (rowReading entity).reads.map ColumnRead.type =
      .text :: (entity.fields.filter (!·.isTimestamp)).map (readType entity) ++
        [ColumnType.optional .timestamp, .optional .timestamp, .optional .text,
          .optional .text] := by
  have haudit : (auditTail.map fun column ↦
      (readTarget (.audit column (auditKind column) (entity.audit.get column))).1.type) =
        [ColumnType.optional .timestamp, .optional .timestamp, .optional .text,
          .optional .text] := by
    rw [List.map_congr_left (g := fun column ↦ .optional (auditColumnType (auditKind column)))
      fun column hcolumn ↦ type_readTarget_audit
        (fun heq ↦ absurd (heq ▸ hcolumn) (by decide)) _ _]
    decide
  rw [rowReading, Entity.classify]
  simp only [List.map_append, List.map_cons, List.map_map, Function.comp_def, haudit,
    map_type_fieldTargets]
  rfl

/-! ## Written values -/

theorem fieldColumnType_ne_optional (type : FieldType) (inner : ColumnType) :
    fieldColumnType type ≠ .optional inner := by
  cases type with
  | scalar scalar => cases scalar <;> exact ColumnType.noConfusion
  | _ => exact ColumnType.noConfusion

theorem Fits.optionalIf {type : ColumnType} {value : Value} (h : Fits type value)
    (optional : Bool) : Fits (optionalIf optional type) value := by
  cases optional with
  | false => exact h
  | true => exact h.optional

/-- A text is read as the type of the column of a field with a codec. -/
theorem fits_readType_text {entity : Entity} {field : Field} {codec : String}
    (hcodec : entity.codecOf? field = some codec) (text : String) :
    Fits (readType entity field) (.text text) := by
  rw [readType, hcodec]
  exact Fits.optionalIf (fits_toValue .text text) _

variable {files : List Descriptor.File} {requested : List String} {schema : Resolution}
  {entity : Entity}

/-- A codec that a resolved entity uses for a field is defined. -/
theorem exists_definedCodec (hschema : resolve files requested = .ok schema)
    (hentity : entity ∈ schema.entities) {field : Field} (hfield : field ∈ entity.fields)
    {codec : String} (hcodec : entity.codecOf? field = some codec) :
    ∃ defined, definedCodec? entity codec = some defined := by
  obtain ⟨name, hname, hnamed⟩ := Option.bind_eq_some_iff.mp hcodec
  have htype := enumName?_eq_some.mp hname
  obtain ⟨definition, hdefinition, -⟩ := exists_enum hschema hentity hfield htype
  have hkey : codec ∈ (namedEnums entity).map Prod.fst := List.mem_map_of_mem
    (mem_namedEnums.mpr ⟨field, hfield, name, htype, hnamed, hdefinition⟩)
  obtain ⟨first, hfirst⟩ := exists_lookup hkey
  obtain ⟨other, hother, otherName, hotherType, -, hfound⟩ :=
    mem_namedEnums.mp (mem_of_lookup hfirst)
  obtain ⟨found, hlookup, -, hvariants⟩ := exists_enum hschema hentity hother hotherType
  obtain rfl : found = first := Option.some.inj (hlookup.symm.trans hfound)
  have htable : found.table ≠ [] := by
    simpa [EnumDef.table] using hvariants
  exact ⟨_, by rw [definedCodec?, lookup_codecs hkey, hfirst]; exact dif_neg htable⟩

theorem codecOf?_isSome (hschema : resolve files requested = .ok schema)
    (hentity : entity ∈ schema.entities) {field : Field} (hfield : field ∈ entity.fields) :
    (entity.codecOf? field).isSome = field.isEnum := by
  cases htype : field.type with
  | enum name =>
    obtain ⟨definition, hdefinition, -⟩ := exists_enum hschema hentity hfield htype
    simp [Entity.codecOf?, Entity.codecName?, Field.enumName?, Field.isEnum, htype, hdefinition]
  | _ => simp [Entity.codecOf?, Field.enumName?, Field.isEnum, htype]

/-- A datum that may be absent is read as the type without absence if it is present. -/
theorem fits_toValue_iff {datum : Datum} {type : ColumnType}
    (htype : datum.type = .optional type) (hplain : ∀ inner, type ≠ .optional inner) :
    Fits type datum.toValue ↔ datum.toValue ≠ .null := by
  obtain ⟨held, datum⟩ := datum
  dsimp only at htype
  subst htype
  refine ⟨fun hfits hnull ↦ not_fits_null hplain (hnull ▸ hfits), fun hvalue ↦ ?_⟩
  cases datum with
  | none => exact absurd rfl hvalue
  | some datum => exact fits_toValue type datum

/-- The value of a request field of the same type, without a codec. -/
theorem fits_requested_iff {data : RequestData} {request : RequestShape}
    (hdata : IsDataOf data request) {field inRequest : Field}
    (hstored : field.isTimestamp = false) (hplain : field.isEnum = false)
    (hcodec : entity.codecOf? field = none)
    (hfound : request.field? field.name = some inRequest) (htype : inRequest.type = field.type) :
    Fits (readType entity field) (data (fieldIdentifier field.name)).toValue ↔
      ¬ LacksValue entity request data field := by
  have hname : inRequest.name = field.name := by
    simpa using List.find?_some hfound
  have hheld := hdata.field_type inRequest (List.mem_of_find?_eq_some hfound)
  rw [hname, heldType, htype] at hheld
  have hread : readType entity field = optionalIf field.optional (fieldColumnType field.type) := by
    rw [readType, hcodec]
    rfl
  have hnonnull := fieldColumnType_ne_optional field.type
  rw [hread]
  cases hoptional : inRequest.optional with
  | false =>
    rw [hoptional] at hheld
    have hlacks : ¬ LacksValue entity request data field := by
      rintro ⟨-, -, -, ⟨other, hother, hotherOptional⟩, -⟩
      obtain rfl := Option.some.inj (hother.symm.trans hfound)
      rw [hoptional] at hotherOptional
      cases hotherOptional
    exact iff_of_true (Fits.optionalIf (Datum.fits_toValue hheld) _) hlacks
  | true =>
    rw [hoptional] at hheld
    cases hfieldOptional : field.optional with
    | false =>
      rw [show optionalIf false (fieldColumnType field.type) = fieldColumnType field.type from rfl,
        fits_toValue_iff hheld hnonnull]
      exact ⟨fun hvalue hlacks ↦ hvalue hlacks.toValue_eq_null, fun hlacks hnull ↦
        hlacks ⟨hstored, hplain, hfieldOptional, ⟨inRequest, hfound, hoptional⟩, hnull⟩⟩
    | true =>
      have hlacks : ¬ LacksValue entity request data field := fun hlacks ↦
        absurd (hfieldOptional.symm.trans hlacks.optional_eq_false) (by decide)
      exact iff_of_true (Datum.fits_toValue hheld) hlacks

theorem exists_number {datum : Datum} (h : datum.type = .int32) :
    ∃ number, number? datum = some number := by
  obtain ⟨type, datum⟩ := datum
  dsimp only at h
  subst h
  exact ⟨datum, rfl⟩

theorem exists_optionalNumber {datum : Datum} (h : datum.type = .optional .int32) :
    ∃ number, optionalNumber? datum = some number := by
  obtain ⟨type, datum⟩ := datum
  dsimp only at h
  subst h
  exact ⟨datum, rfl⟩

/-- What is written for a field with a codec is a text, or absent where the field may be. -/
theorem exists_encodedValue (hschema : resolve files requested = .ok schema)
    (hentity : entity ∈ schema.entities) {data : RequestData} {request : RequestShape}
    (hdata : IsDataOf data request) {field : Field} (hfield : field ∈ entity.fields)
    {codec : String} (hcodec : entity.codecOf? field = some codec)
    (htypes : ∀ inRequest, request.field? field.name = some inRequest →
      inRequest.type = field.type) :
    ∃ value, (createValue entity field (request.field? field.name)).value?
        (definedCodec? entity) data = some value ∧ Fits (readType entity field) value := by
  obtain ⟨defined, hdefined⟩ := exists_definedCodec hschema hentity hfield hcodec
  obtain ⟨name, hname, -⟩ := Option.bind_eq_some_iff.mp hcodec
  have htype := enumName?_eq_some.mp hname
  cases hfound : request.field? field.name with
  | none =>
    cases hoptional : field.optional with
    | true =>
      refine ⟨.null, by simp [createValue, hoptional, CreateValue.value?], ?_⟩
      rw [readType, hoptional]
      exact fits_optional_null _
    | false =>
      refine ⟨.text defined.defaultText, ?_, fits_readType_text hcodec _⟩
      simp [createValue, hoptional, hcodec, CreateValue.value?, hdefined]
  | some inRequest =>
    have hsame : inRequest.name = field.name := by
      simpa using List.find?_some hfound
    have hheld := hdata.field_type inRequest (List.mem_of_find?_eq_some hfound)
    rw [hsame, heldType, htypes inRequest hfound, htype] at hheld
    cases hoptional : inRequest.optional with
    | true =>
      rw [hoptional] at hheld
      obtain ⟨number, hnumber⟩ := exists_optionalNumber hheld
      refine ⟨.text (defined.encodeOrDefault number), ?_, fits_readType_text hcodec _⟩
      simp [createValue, hoptional, hcodec, CreateValue.value?, hdefined, hnumber]
    | false =>
      rw [hoptional] at hheld
      obtain ⟨number, hnumber⟩ := exists_number hheld
      refine ⟨.text (defined.encode number), ?_, fits_readType_text hcodec _⟩
      simp [createValue, hoptional, hcodec, CreateValue.value?, hdefined, hnumber]

/-- What is written for a field fits the type it is read as unless the field lacks a value. -/
theorem exists_value (hschema : resolve files requested = .ok schema)
    (hentity : entity ∈ schema.entities) {data : RequestData} {request : RequestShape}
    (hdata : IsDataOf data request) {field : Field} (hfield : field ∈ entity.fields)
    (hstored : field.isTimestamp = false)
    (htypes : ∀ inRequest, request.field? field.name = some inRequest →
      inRequest.type = field.type) :
    ∃ value, (createValue entity field (request.field? field.name)).value?
        (definedCodec? entity) data = some value ∧
      (Fits (readType entity field) value ↔ ¬ LacksValue entity request data field) := by
  have henum := codecOf?_isSome hschema hentity hfield
  cases hcodec : entity.codecOf? field with
  | some codec =>
    obtain ⟨value, hvalue, hfits⟩ :=
      exists_encodedValue hschema hentity hdata hfield hcodec htypes
    refine ⟨value, hvalue, iff_of_true hfits fun hlacks ↦ ?_⟩
    rw [hcodec, hlacks.isEnum_eq_false] at henum
    cases henum
  | none =>
    rw [hcodec] at henum
    cases hfound : request.field? field.name with
    | some inRequest =>
      refine ⟨(data (fieldIdentifier field.name)).toValue, ?_, ?_⟩
      · simp [createValue, hcodec, CreateValue.value?]
      · exact fits_requested_iff hdata hstored henum.symm hcodec hfound (htypes inRequest hfound)
    | none =>
      have hlacks : ¬ LacksValue entity request data field := fun hlacks ↦ by
        obtain ⟨inRequest, hother, -⟩ := hlacks.exists_optional
        rw [hfound] at hother
        cases hother
      have hread : readType entity field =
          optionalIf field.optional (fieldColumnType field.type) := by
        rw [readType, hcodec]
        rfl
      rw [hread]
      cases hoptional : field.optional with
      | true =>
        refine ⟨.null, ?_, iff_of_true (fits_optional_null _) hlacks⟩
        simp [createValue, hoptional, CreateValue.value?]
      | false =>
        refine ⟨_, ?_, iff_of_true (fits_toValue _ (fieldColumnType field.type).zero) hlacks⟩
        simp [createValue, hoptional, hcodec, CreateValue.value?]

/-- The values of several fields; each fits what it is read as unless its field lacks a value. -/
theorem exists_values {eval : Field → Option Value} {type : Field → ColumnType}
    {lacks : Field → Prop} {fields : List Field}
    (h : ∀ field ∈ fields, ∃ value, eval field = some value ∧
      (Fits (type field) value ↔ ¬ lacks field)) :
    ∃ values, fields.mapM eval = some values ∧ values.length = fields.length ∧
      (List.Forall₂ Fits (fields.map type) values ↔ ∀ field ∈ fields, ¬ lacks field) := by
  induction fields with
  | nil => exact ⟨[], rfl, rfl, by simp⟩
  | cons field rest ih =>
    obtain ⟨value, hvalue, hfits⟩ := h field List.mem_cons_self
    obtain ⟨values, hvalues, hlength, hall⟩ :=
      ih fun other hother ↦ h other (List.mem_cons_of_mem _ hother)
    refine ⟨value :: values, ?_, congrArg (· + 1) hlength, ?_⟩
    · simp [List.mapM_cons, hvalue, hvalues]
    · rw [List.map_cons, List.forall₂_cons, hfits, hall, List.forall_mem_cons]

theorem fits_author {data : RequestData} {request : RequestShape} (hdata : IsDataOf data request) :
    Fits (.optional .text)
      ((authorField? request "created_by").elim .null fun field ↦ (data field).toValue) := by
  cases hauthor : request.author with
  | none =>
    rw [authorField?, hauthor]
    exact fits_optional_null _
  | some optional =>
    rw [authorField?, hauthor]
    have hheld := hdata.author_type optional hauthor
    cases optional with
    | false => exact (Datum.fits_toValue hheld).optional
    | true => exact Datum.fits_toValue hheld

/-- The row that a create leaves fits the types that its columns are read as. -/
theorem forall₂_fits_created {types : List ColumnType} {values : List Value} {author : Value}
    (hauthor : Fits (.optional .text) author) (hlength : values.length = types.length)
    (id : String) (now : Timestamp) :
    List.Forall₂ Fits
        (.text :: types ++
          [ColumnType.optional .timestamp, .optional .timestamp, .optional .text, .optional .text])
        (.text id :: values ++ [.timestamp now, .timestamp now, author, .null]) ↔
      List.Forall₂ Fits types values := by
  constructor
  · intro h
    have htake := List.forall₂_take (types.length + 1) h
    simpa [hlength] using (List.forall₂_cons.mp (by simpa [hlength] using htake)).2
  · intro h
    refine .cons rfl (List.rel_append h ?_)
    exact .cons rfl (.cons rfl (.cons hauthor (.cons (fits_optional_null _) .nil)))

/-- What a create was checked for when its entity was resolved. -/
theorem type_of_createField? (hschema : resolve files requested = .ok schema)
    (hentity : entity ∈ schema.entities) (hnames : (entity.fields.map (·.name)).Nodup)
    {operation : CrudMethod} (hcreate : entity.methods.at? .create = some operation)
    {field inRequest : Field} (hfield : field ∈ entity.fields)
    (hfound : operation.request.field? field.name = some inRequest) :
    inRequest.type = field.type := by
  obtain ⟨_, _, _, hresolve⟩ := exists_resolveEntity hschema hentity
  obtain ⟨_, fields, operations, -, -, -, hoperations, rfl⟩ := resolveEntity_cases hresolve
  obtain ⟨_, -, hoperation⟩ := crudMethods_at? hoperations hcreate
  obtain ⟨_, -, hrequest, -⟩ := crudMethod_cases hoperation
  exact type_of_field? rfl hrequest hnames hfield hfound

theorem column_eq_name (hschema : resolve files requested = .ok schema)
    (hentity : entity ∈ schema.entities) {field : Field} (hfield : field ∈ entity.fields) :
    field.column = field.name := by
  obtain ⟨_, _, _, hresolve⟩ := exists_resolveEntity hschema hentity
  obtain ⟨_, _, _, -, hfields, -, -, rfl⟩ := resolveEntity_cases hresolve
  obtain ⟨_, -, hdescriptor⟩ := Fields.exists_descriptor hfields field hfield
  obtain ⟨hname, hcolumn⟩ := column_ofDescriptor hdescriptor
  rw [hname, hcolumn]

/-- A create makes a row of its data with a value for each stored field. -/
theorem exists_newRow (hschema : resolve files requested = .ok schema)
    (hentity : entity ∈ schema.entities) (hnames : (entity.fields.map (·.name)).Nodup)
    {operation : CrudMethod} (hcreate : entity.methods.at? .create = some operation)
    {data : RequestData} (hdata : IsDataOf data operation.request) :
    ∃ row, newRow? entity operation.request data = some row ∧
      Fits (.optional .text) row.createdBy ∧
      row.values.length = (entity.fields.filter (!·.isTimestamp)).length ∧
      (List.Forall₂ Fits ((entity.fields.filter (!·.isTimestamp)).map (readType entity))
          row.values ↔
        ∀ field ∈ entity.fields, ¬ LacksValue entity operation.request data field) := by
  have hvalue : ∀ field ∈ entity.fields.filter (!·.isTimestamp), ∃ value,
      (createValue entity field (operation.request.field? field.name)).value?
          (definedCodec? entity) data = some value ∧
        (Fits (readType entity field) value ↔
          ¬ LacksValue entity operation.request data field) := by
    intro field hfield
    obtain ⟨hfield, hstored⟩ := List.mem_filter.mp hfield
    exact exists_value hschema hentity hdata hfield (by simpa using hstored)
      fun _ hfound ↦ type_of_createField? hschema hentity hnames hcreate hfield hfound
  obtain ⟨values, hvalues, hlength, hfits⟩ := exists_values hvalue
  have hplan : (createPlan entity operation.request).values.mapM
      (CreateValue.value? (definedCodec? entity) data) = some values := by
    rw [createPlan, Entity.classify, List.mapM_map, List.mapM_map]
    exact hvalues
  refine ⟨_, by rw [newRow?, CreatePlan.row?, hplan]; rfl, fits_author hdata, hlength, ?_⟩
  rw [hfits]
  refine ⟨fun h field hfield hlacks ↦ ?_,
    fun h field hfield ↦ h field (List.mem_of_mem_filter hfield)⟩
  exact h field (List.mem_filter.mpr ⟨hfield, by simp [hlacks.isTimestamp_eq_false]⟩) hlacks

/-- When the row that a create leaves can be read. -/
theorem run_createdRow_iff (hschema : resolve files requested = .ok schema)
    (hentity : entity ∈ schema.entities) (hnames : (entity.fields.map (·.name)).Nodup)
    {row : NewRow} (hauthor : Fits (.optional .text) row.createdBy)
    (hlength : row.values.length = (entity.fields.filter (!·.isTimestamp)).length)
    (id : String) (now : Timestamp) :
    (∃ locals, (rowReading entity).run ((Entry.ofRow entity.recordTable.columns now row).row
        entity.recordTable.columns id) = .ok locals) ↔
      List.Forall₂ Fits ((entity.fields.filter (!·.isTimestamp)).map (readType entity))
        row.values := by
  have hcolumns : entity.recordTable.columns =
      (entity.fields.filter (!·.isTimestamp)).map (·.name) := by
    change (List.map entity.classifyField _).map (·.field.column) = _
    rw [List.map_map]
    exact List.map_congr_left fun field hfield ↦
      column_eq_name hschema hentity (List.mem_of_mem_filter hfield)
  have hnodup : entity.recordTable.columns.Nodup := by
    rw [hcolumns]
    exact hnames.sublist (List.filter_sublist.map _)
  have hstored : (Entry.ofRow entity.recordTable.columns now row).row entity.recordTable.columns
      id = ⟨.text id :: row.values ++ [.timestamp now, .timestamp now, row.createdBy, .null]⟩ := by
    rw [Entry.row, map_values_ofRow hnodup (by rw [hcolumns, List.length_map, hlength])]
    rfl
  rw [RowReading.run, hstored, map_type_reads, Row.cursor, takeAll_eq_ok_iff,
    forall₂_fits_created hauthor (by rw [List.length_map, hlength])]
  simp [hlength]

/--
Every create of a resolved entity makes a row of the data of its request. The row as it is stored
can be read back if and only if no field that the entity always has, and whose type has no codec,
is optional in the request and absent. The row and its reading are those that the code of the entity
spells out. The names of the fields are distinct, as in every message.
-/
theorem isRead_createdRow_iff (hschema : resolve files requested = .ok schema)
    (hentity : entity ∈ schema.entities) (hnames : (entity.fields.map (·.name)).Nodup)
    {operation : CrudMethod} (hcreate : entity.methods.at? .create = some operation)
    {data : RequestData} (hdata : IsDataOf data operation.request) :
    ∃ row, newRow? entity operation.request data = some row ∧
      (∀ id now, (∃ locals, (rowReading entity).run
          ((Entry.ofRow entity.recordTable.columns now row).row entity.recordTable.columns id) =
            .ok locals) ↔
        ∀ field ∈ entity.fields, ¬ LacksValue entity operation.request data field) ∧
      ∀ options text, entityCode options entity = .ok text →
        ∃ (file : EntityText) (request : List Code.Token) (plan : CreatePlan),
          file.IsReadFrom text ∧
          file.Defines (fieldIdentifier operation.method.name) request (.create plan) ∧
          plan.row? file.record.codec? data = some row ∧
          file.record.reading = .ofReading (rowReading entity) := by
  obtain ⟨row, hrow, hauthor, hlength, hfits⟩ :=
    exists_newRow hschema hentity hnames hcreate hdata
  refine ⟨row, hrow, fun id now ↦ ?_, fun options text htext ↦ ?_⟩
  · rw [run_createdRow_iff hschema hentity hnames hauthor hlength, hfits]
  · obtain ⟨file, request, hread, hrecord, -, hdefines⟩ := exists_defines htext hcreate
    refine ⟨file, request, _, hread, hdefines, ?_, by rw [hrecord]; rfl⟩
    rwa [hrecord, funext (codec?_ofEntity entity)]

/-! ## An optional name -/

/-- A nickname, as an entity or a request declares it. -/
def nickField (optional : Bool) : Field :=
  ⟨"nick", "nick", .scalar .string, optional⟩

def userFile (optional : Bool) : Descriptor.File where
  name := "users.proto"
  package := "shop"
  messages :=
    [.mk "User" [plainField "id" .string "", ⟨"nick", .optional, .string, "", optional, optional⟩]
        [] [],
      .mk "CreateUserRequest" [⟨"nick", .optional, .string, "", true, true⟩] [] []]
  enums := []
  services :=
    [⟨"Users", [⟨"CreateUser", ".shop.CreateUserRequest", ".shop.User", false, false⟩]⟩]

/-- The data of a request without a nickname. -/
def noNick : RequestData := fun _ ↦ ⟨.optional .text, none⟩

theorem exists_user (optional : Bool)
    (h : (resolve [userFile optional] ["users.proto"]).toOption.map (fun schema ↦
      schema.entities.map fun entity ↦
        (entity.fields, (entity.methods.at? .create).map CrudMethod.request)) =
          some [([nickField optional], some { fields := [nickField true] })]) :
    ∃ schema entity operation, resolve [userFile optional] ["users.proto"] = .ok schema ∧
      entity ∈ schema.entities ∧ entity.fields = [nickField optional] ∧
      entity.methods.at? .create = some operation ∧
      operation.request = { fields := [nickField true] } := by
  obtain ⟨schema, entity, hschema, hentity, hparts⟩ := exists_entity h
  obtain ⟨hfields, hcreate⟩ := Prod.mk.inj hparts
  obtain ⟨operation, hoperation, hrequest⟩ := Option.map_eq_some_iff.mp hcreate
  exact ⟨schema, entity, operation, hschema, hentity ▸ List.mem_cons_self, hfields, hoperation,
    hrequest⟩

theorem isDataOf_noNick {request : RequestShape}
    (hrequest : request = { fields := [nickField true] }) : IsDataOf noNick request := by
  subst hrequest
  refine ⟨fun field hfield ↦ ?_, fun _ hauthor ↦ by cases hauthor⟩
  rw [List.mem_singleton.mp hfield]
  rfl

/-- Not every row that a create writes can be read back. -/
theorem not_forall_isRead :
    ¬ ∀ (files : List Descriptor.File) (requested : List String) (schema : Resolution),
      resolve files requested = .ok schema → ∀ entity ∈ schema.entities, ∀ operation,
        entity.methods.at? .create = some operation →
          ∀ data row, IsDataOf data operation.request →
            newRow? entity operation.request data = some row → ∀ id now, ∃ locals,
              (rowReading entity).run ((Entry.ofRow entity.recordTable.columns now row).row
                entity.recordTable.columns id) = .ok locals := by
  intro hall
  obtain ⟨schema, entity, operation, hschema, hentity, hfields, hcreate, hrequest⟩ :=
    exists_user false (by decide +kernel)
  have hnames : (entity.fields.map (·.name)).Nodup := by
    rw [hfields]
    decide
  obtain ⟨row, hrow, hauthor, hlength, hfits⟩ :=
    exists_newRow hschema hentity hnames hcreate (isDataOf_noNick hrequest)
  have hread := hall _ _ schema hschema entity hentity operation hcreate noNick row
    (isDataOf_noNick hrequest) hrow "1" ⟨0, 0⟩
  rw [run_createdRow_iff hschema hentity hnames hauthor hlength, hfits] at hread
  refine hread (nickField false) (hfields ▸ List.mem_cons_self) ⟨rfl, rfl, rfl, ?_, rfl⟩
  rw [hrequest]
  exact ⟨nickField true, rfl, rfl⟩

/-- A user whose nickname is optional can be created without one and is read back. -/
theorem isRead_userWithoutNick :
    ∃ schema entity operation row, resolve [userFile true] ["users.proto"] = .ok schema ∧
      entity ∈ schema.entities ∧ entity.methods.at? .create = some operation ∧
      newRow? entity operation.request noNick = some row ∧ ∀ id now, ∃ locals,
        (rowReading entity).run ((Entry.ofRow entity.recordTable.columns now row).row
          entity.recordTable.columns id) = .ok locals := by
  obtain ⟨schema, entity, operation, hschema, hentity, hfields, hcreate, hrequest⟩ :=
    exists_user true (by decide +kernel)
  have hnames : (entity.fields.map (·.name)).Nodup := by
    rw [hfields]
    decide
  obtain ⟨row, hrow, hread, -⟩ :=
    isRead_createdRow_iff hschema hentity hnames hcreate (isDataOf_noNick hrequest)
  refine ⟨schema, entity, operation, row, hschema, hentity, hcreate, hrow, fun id now ↦ ?_⟩
  refine (hread id now).mpr fun field hfield hlacks ↦ ?_
  rw [hfields, List.mem_singleton] at hfield
  subst hfield
  exact absurd hlacks.optional_eq_false (by decide)

end ProtoCrud.Handler
